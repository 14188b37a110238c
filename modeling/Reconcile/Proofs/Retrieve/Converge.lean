import Reconcile.Proofs.Retrieve.Plan

/-!
# A retrieve converges

In a tree without links, and once every conflict is decided, a retrieve succeeds exactly when
nothing is in the way of a missing file.  Then the copies lie over the local tree
(`Retrieve.Overlay`), and the walks of both roots are known again.  So another comparison finds the
kept files to be different and nothing to be missing, and it counts as many files as before
(`Retrieve.Converged`).
-/

namespace Reconcile
namespace Retrieve

variable {results : DiffResults} {entries : List ConflictEntry}

/-! ## After the copies -/

/-- The tree `fs'` after a retrieve in `fs`, from the results and entries of a comparison of the
roots `p` and `q`. -/
structure Converged (fs fs' : FileSystem) (config : Config) (p q : Path) (loc : Location)
    (results : DiffResults) (entries : List ConflictEntry) : Prop where
  /-- Another comparison finds what was kept to be different, and nothing to be missing. -/
  again : ∃ results', (diffDirectories fs' config p q).2 = .ok results' ∧
    (∀ path, path ∈ results'.different.toList ↔
      ∃ e ∈ entries, e.disposition = .acceptLocal ∧ e.relativePath = path) ∧
    results'.missingLocal.toList = [] ∧
    results'.scannedLocal = results.scannedLocal ∧
    results'.scannedRemote = results.scannedRemote
  /-- Nothing outside of the local tree has changed. -/
  outside : ∀ loc₀, ¬ loc <+: loc₀ → fs'.shape loc₀ = fs.shape loc₀
  /-- The files of the local tree that are no remote ones are what they were. -/
  localOnly : ∀ ns content, fs.node? (loc ++ ns) = some (.file content) →
    Path.ofNames ns ∉ Walk.yielded fs config q → fs'.node? (loc ++ ns) = some (.file content)
  /-- So are the files that were kept. -/
  kept : ∀ e ∈ entries, e.disposition = .acceptLocal →
    ∃ content, fs.read e.localPath = .ok content ∧ fs'.read e.localPath = .ok content

section After

open FileSystem Walk

variable {fs fs' : FileSystem} {config : Config} {p q : Path} {loc loc' : Location}
  {ns : List Name} {plan : List (List Name)}
  (hroots : Roots fs p q loc loc')
  (hdiff : (diffDirectories fs config p q).2 = .ok results)
  (hdecided : Conflict.Decided results entries)
  (hplanned : planned results entries = plan.map Path.ofNames)
  (hplan : ∀ ns ∈ plan, ns ≠ [] ∧ config.ignore.Keeps ns)
  (hclear : ∀ ns ∈ plan, ¬ Blocked fs p q loc ns)
  (h : Overlay fs fs' loc loc' plan)

include hplanned in
lemma mem_plan_iff : ns ∈ plan ↔ Path.ofNames ns ∈ planned results entries := by
  rw [hplanned, List.mem_map]
  constructor
  · exact fun hns => ⟨ns, hns, rfl⟩
  · rintro ⟨ms, hms, heq⟩
    rwa [← Path.ofNames_injective heq]

include hclear in
lemma short_of_mem_plan (hns : ns ∈ plan) :
    (p.descend ns).tooLong = false ∧ (q.descend ns).tooLong = false := by
  have hblocked := hclear ns hns
  rw [Blocked, not_or, not_or, Bool.not_eq_true, Bool.not_eq_true] at hblocked
  exact hblocked.2

include hroots hdiff hdecided hplanned in
/-- Nothing is in the way of what is planned if nothing is in the way of the missing files. -/
lemma clear_iff (hne : ∀ ns ∈ plan, ns ≠ []) :
    (∀ path ∈ results.missingLocal.toList, ∃ ns, path = Path.ofNames ns ∧ ¬ fs.Clash loc ns ∧
        (p.join path).tooLong = false ∧ (q.join path).tooLong = false) ↔
      ∀ ns ∈ plan, ¬ Blocked fs p q loc ns := by
  constructor
  · intro hall ns hns
    rcases mem_planned.1 ((mem_plan_iff hplanned).1 hns) with hmissing | ⟨e, he, -, hpath⟩
    · obtain ⟨ms, hms, hclash, hdest, hsource⟩ := hall _ hmissing
      obtain rfl := Path.ofNames_injective hms
      rw [Path.join_ofNames _ (hne ns hns)] at hdest hsource
      simp [Blocked, hclash, hdest, hsource]
    · exact not_blocked_of_mem_different hroots hdiff
        (hdecided.mem_different_iff.2 ⟨e, he, hpath⟩)
  · intro hclear path hmissing
    have hpath : path ∈ plan.map Path.ofNames := hplanned ▸ mem_planned.2 (Or.inl hmissing)
    obtain ⟨ns, hns, rfl⟩ := List.mem_map.1 hpath
    refine ⟨ns, rfl, fun hclash => hclear ns hns (Or.inl hclash), ?_⟩
    rw [Path.join_ofNames _ (hne ns hns), Path.join_ofNames _ (hne ns hns)]
    exact short_of_mem_plan hclear hns

section Kept

include hdiff hdecided hplanned

/-- What differs and is not planned was kept. -/
lemma kept_iff :
    (∃ e ∈ entries, e.disposition = .acceptLocal ∧ e.relativePath = Path.ofNames ns) ↔
      ns ∉ plan ∧ Path.ofNames ns ∈ results.different.toList := by
  rw [mem_plan_iff hplanned, mem_planned, hdecided.mem_different_iff]
  constructor
  · rintro ⟨e, he, hkept, hpath⟩
    refine ⟨?_, e, he, hpath⟩
    rintro (hmissing | ⟨e', he', haccepted, heq⟩)
    · exact (exact_of_diffDirectories hdiff).disjoint _
        (hdecided.mem_different_iff.2 ⟨e, he, hpath⟩) hmissing
    · rw [hdecided.eq_of_relativePath he' he (heq.trans hpath.symm), hkept] at haccepted
      cases haccepted
  · rintro ⟨hplan, e, he, hpath⟩
    refine ⟨e, he, ?_, hpath⟩
    cases hdisposition : e.disposition with
    | unresolved => exact absurd hdisposition (hdecided.spec.2 e he).1
    | acceptLocal => rfl
    | acceptRemote => exact absurd (Or.inr ⟨e, he, hdisposition, hpath⟩) hplan

end Kept

include hroots hdiff hplan hclear h

/-- The local walk finds what is planned in addition. -/
lemma mem_yielded_local {path : Path} :
    path ∈ yielded fs' config p ↔
      path ∈ yielded fs config p ∨ ∃ ns ∈ plan, path = Path.ofNames ns := by
  obtain ⟨-, -, hfault, -⟩ := (exists_diffDirectories_iff fs config p q).1 ⟨results, hdiff⟩
  exact h.mem_yielded_here hroots hfault (fun ns hns => (short_of_mem_plan hclear hns).1) hplan

/-- Files of both trees can still be read, and differ if they did and were not planned. -/
lemma exists_read_after (hl : Path.ofNames ns ∈ yielded fs' config p)
    (hr : Path.ofNames ns ∈ yielded fs config q) :
    ∃ x y, fs'.read (p.join (Path.ofNames ns)) = .ok x ∧
      fs'.read (q.join (Path.ofNames ns)) = .ok y ∧
      (x ≠ y ↔ ns ∉ plan ∧ Path.ofNames ns ∈ results.different.toList) := by
  have hroots' := h.roots hroots
  obtain ⟨ms, hms, hne, -, y, hy⟩ := exists_names_of_mem_yielded hroots hdiff hr
  obtain rfl := Path.ofNames_injective hms
  have hy' : fs'.shape (loc' ++ ns) = some (.file y) := (h.shape_there hroots ns).trans hy
  rw [Path.join_ofNames _ hne, Path.join_ofNames _ hne]
  by_cases hns : ns ∈ plan
  · -- A planned file is the same on both sides now.
    obtain ⟨hdest, hsource⟩ := short_of_mem_plan hclear hns
    have hx' : fs'.shape (loc ++ ns) = some (.file y) := (h.copied ns hns).trans hy
    exact ⟨y, y, read_descend hroots'.located hroots'.directory hdest hx',
      read_descend hroots'.located' hroots'.directory' hsource hy', by simp [hns]⟩
  · -- Any other one was local before, and is what it was.
    have hl : Path.ofNames ns ∈ yielded fs config p := by
      rcases (mem_yielded_local hroots hdiff hplan hclear h).1 hl with hl | ⟨ms, hms, heq⟩
      · exact hl
      · exact absurd (Path.ofNames_injective heq ▸ hms) hns
    obtain ⟨x, y', hx, hy₀, hdest, hsource⟩ := exists_read_of_mem_yielded hroots hdiff hl hr
    obtain rfl : y = y' := by simpa [hy] using hy₀
    have hread := read_descend hroots.located hroots.directory hdest hx
    have hread' := read_descend hroots.located' hroots.directory' hsource hy
    refine ⟨x, y, read_descend hroots'.located hroots'.directory hdest
        (h.shape_of_file hroots hns hx),
      read_descend hroots'.located' hroots'.directory' hsource hy', ?_⟩
    rw [(exact_of_diffDirectories hdiff).different, Path.join_ofNames _ hne,
      Path.join_ofNames _ hne, hread, hread']
    simp [hns, hl, hr]

/-- The comparison succeeds again. -/
lemma exists_diffDirectories_after :
    ∃ results', (diffDirectories fs' config p q).2 = .ok results' := by
  obtain ⟨-, -, hfault, hfault', -⟩ :=
    (exists_diffDirectories_iff fs config p q).1 ⟨results, hdiff⟩
  have hroots' := h.roots hroots
  refine (exists_diffDirectories_iff fs' config p q).2 ⟨?_, ?_, ?_, ?_, ?_⟩
  · exact isDirectoryAt_of_shape hroots'.located hroots'.directory
  · exact isDirectoryAt_of_shape hroots'.located' hroots'.directory'
  · exact h.faultFree_here hroots hfault fun ns hns => (short_of_mem_plan hclear hns).1
  · exact h.faultFree_there hroots hfault'
  · intro path hl hr
    rw [h.mem_yielded_there hroots hfault'] at hr
    obtain ⟨ns, rfl, -⟩ := exists_names_of_mem_yielded hroots hdiff hr
    obtain ⟨x, y, hx, hy, -⟩ := exists_read_after hroots hdiff hplan hclear h hl hr
    exact ⟨⟨x, hx⟩, y, hy⟩

include hdecided hplanned

section Results

variable {results' : DiffResults} (hdiff' : (diffDirectories fs' config p q).2 = .ok results')

include hdiff'

/-- The comparison finds what was kept. -/
lemma mem_different_after {path : Path} :
    path ∈ results'.different.toList ↔
      ∃ e ∈ entries, e.disposition = .acceptLocal ∧ e.relativePath = path := by
  obtain ⟨-, -, -, hfault', -⟩ := (exists_diffDirectories_iff fs config p q).1 ⟨results, hdiff⟩
  rw [(exact_of_diffDirectories hdiff').different, h.mem_yielded_there hroots hfault']
  constructor
  · rintro ⟨hl, hr, x', y', hx', hy', hne⟩
    obtain ⟨ns, rfl, -⟩ := exists_names_of_mem_yielded hroots hdiff hr
    obtain ⟨x, y, hx, hy, hiff⟩ := exists_read_after hroots hdiff hplan hclear h hl hr
    rw [hx', Except.ok.injEq] at hx
    rw [hy', Except.ok.injEq] at hy
    rw [← hx, ← hy] at hiff
    exact (kept_iff hdiff hdecided hplanned).2 (hiff.1 hne)
  · rintro ⟨e, he, hkept, rfl⟩
    have hmem := hdecided.mem_different_iff.2 ⟨e, he, rfl⟩
    obtain ⟨hl, hr, -⟩ := ((exact_of_diffDirectories hdiff).different _).1 hmem
    have hl' := (mem_yielded_local hroots hdiff hplan hclear h).2 (Or.inl hl)
    obtain ⟨ns, hns, -⟩ := exists_names_of_mem_yielded hroots hdiff hr
    refine ⟨hl', hr, ?_⟩
    rw [hns] at hl' hr ⊢
    obtain ⟨x, y, hx, hy, hiff⟩ := exists_read_after hroots hdiff hplan hclear h hl' hr
    exact ⟨x, y, hx, hy, hiff.2 ((kept_iff hdiff hdecided hplanned).1 ⟨e, he, hkept, hns⟩)⟩

omit hdecided in
/-- Every missing file was copied. -/
lemma missingLocal_after : results'.missingLocal.toList = [] := by
  obtain ⟨-, -, -, hfault', -⟩ := (exists_diffDirectories_iff fs config p q).1 ⟨results, hdiff⟩
  rw [List.eq_nil_iff_forall_not_mem]
  intro path hpath
  rw [(exact_of_diffDirectories hdiff').missingLocal, h.mem_yielded_there hroots hfault',
    mem_yielded_local hroots hdiff hplan hclear h, not_or] at hpath
  obtain ⟨hr, hl, hnot⟩ := hpath
  have hmissing := ((exact_of_diffDirectories hdiff).missingLocal path).2 ⟨hr, hl⟩
  obtain ⟨ns, rfl, -⟩ := exists_names_of_mem_yielded hroots hdiff hr
  exact hnot ⟨ns, (mem_plan_iff hplanned).2 (mem_planned.2 (Or.inl hmissing)), rfl⟩

/-- The local files that were added all match a remote one. -/
lemma scanned_after :
    results'.scannedLocal = results.scannedLocal ∧
      results'.scannedRemote = results.scannedRemote := by
  obtain ⟨-, -, -, hfault', -⟩ := (exists_diffDirectories_iff fs config p q).1 ⟨results, hdiff⟩
  have hexact := exact_of_diffDirectories hdiff
  have hexact' := exact_of_diffDirectories hdiff'
  have hremote : (yielded fs' config q).toFinset = (yielded fs config q).toFinset := by
    ext path
    rw [List.mem_toFinset, List.mem_toFinset]
    exact h.mem_yielded_there hroots hfault'
  have hunmatched : (yielded fs' config p).toFinset \ (yielded fs config q).toFinset =
      (yielded fs config p).toFinset \ (yielded fs config q).toFinset := by
    ext path
    simp only [Finset.mem_sdiff, List.mem_toFinset, mem_yielded_local hroots hdiff hplan hclear h]
    refine and_congr_left fun hr => or_iff_left ?_
    rintro ⟨ns, hns, rfl⟩
    exact hr (mem_yielded_of_planned hdiff hdecided ((mem_plan_iff hplanned).1 hns))
  constructor
  · rw [hexact'.scannedLocal, hexact.scannedLocal, hremote, hunmatched]
  · rw [hexact'.scannedRemote, hexact.scannedRemote, hremote]

end Results

/-- After the copies the trees have converged. -/
theorem converged : Converged fs fs' config p q loc results entries := by
  have hexact := exact_of_diffDirectories hdiff
  have hroots' := h.roots hroots
  obtain ⟨results', hdiff'⟩ := exists_diffDirectories_after hroots hdiff hplan hclear h
  refine ⟨⟨results', hdiff', fun path => ?_, ?_, ?_⟩, ?_, ?_, ?_⟩
  · exact mem_different_after hroots hdiff hdecided hplanned hplan hclear h hdiff'
  · exact missingLocal_after hroots hdiff hplanned hplan hclear h hdiff'
  · exact scanned_after hroots hdiff hdecided hplanned hplan hclear h hdiff'
  · intro loc₀ hloc₀
    refine h.rest loc₀ fun ns _ ms _ heq => hloc₀ ?_
    exact heq ▸ List.prefix_append loc ms
  · intro ns content hfile hr
    have hns : ns ∉ plan := fun hns =>
      hr (mem_yielded_of_planned hdiff hdecided ((mem_plan_iff hplanned).1 hns))
    exact Listing.shape_eq_file_iff.1
      (h.shape_of_file hroots hns (Listing.shape_eq_file_iff.2 hfile))
  · intro e he hkept
    have hmem := hdecided.mem_different_iff.2 ⟨e, he, rfl⟩
    obtain ⟨hl, hr, -⟩ := (hexact.different _).1 hmem
    obtain ⟨ns, hns, hne, -⟩ := exists_names_of_mem_yielded hroots hdiff hr
    rw [hns] at hl hr
    obtain ⟨x, y, hx, -, hdest, -⟩ := exists_read_of_mem_yielded hroots hdiff hl hr
    have hnotin := ((kept_iff hdiff hdecided hplanned).1 ⟨e, he, hkept, hns⟩).1
    rw [(hdecided.spec.2 e he).2.1, hexact.localRoot, hns, Path.join_ofNames p hne]
    exact ⟨x, read_descend hroots.located hroots.directory hdest hx,
      read_descend hroots'.located hroots'.directory hdest (h.shape_of_file hroots hnotin hx)⟩

end After

/-! ## The whole retrieve -/

/-- **A retrieve converges.**  In a tree without links and after a decision about every conflict, it
succeeds exactly when nothing clashes with a missing file and both paths of each of them are short
enough; then the trees have converged. -/
theorem retrieve_converges {fs : FileSystem} {config : Config} {p q : Path} {loc loc' : Location}
    (hfree : fs.LinkFree) (hp : fs.locate p = .ok loc) (hq : fs.locate q = .ok loc')
    (hapart : ¬ loc <+: loc') (hapart' : ¬ loc' <+: loc)
    (hdiff : (diffDirectories fs config p q).2 = .ok results)
    (hdecided : Conflict.Decided results entries) :
    ((∃ written, ((retrieve results entries).on fs).1 = .ok written) ↔
      ∀ path ∈ results.missingLocal.toList, ∃ ns, path = Path.ofNames ns ∧ ¬ fs.Clash loc ns ∧
        (p.join path).tooLong = false ∧ (q.join path).tooLong = false) ∧
      ∀ written, ((retrieve results entries).on fs).1 = .ok written →
        Converged fs ((retrieve results entries).on fs).2 config p q loc results entries := by
  have hroots := roots_of_diffDirectories hfree hp hq hapart hapart' hdiff
  obtain ⟨plan, hplanned, hplan⟩ := exists_plan hroots hdiff hdecided
  have hne : ∀ ns ∈ plan, ns ≠ [] := fun ns hns => (hplan ns hns).1
  have hfiles : ∀ ns ∈ plan, ns ≠ [] ∧ ∃ content, fs.shape (loc' ++ ns) = some (.file content) :=
    fun ns hns => ⟨(hplan ns hns).1, (hplan ns hns).2.2⟩
  have hstart := Overlay.start fs loc loc'
  rw [clear_iff hroots hdiff hdecided hplanned hne,
    on_retrieve_of_plan hdiff hdecided hplanned hne]
  by_cases hclear : ∀ ns ∈ plan, ¬ Blocked fs p q loc ns
  · obtain ⟨written, fs', hcopies, hoverlay⟩ := exists_runCopies hroots hstart hfiles hclear
    rw [Effect.on_blame_ok hcopies]
    refine ⟨iff_of_true ⟨written, rfl⟩ hclear, fun _ _ => ?_⟩
    exact converged hroots hdiff hdecided hplanned
      (fun ns hns => ⟨(hplan ns hns).1, (hplan ns hns).2.1⟩) hclear hoverlay
  · have hblocked : ∃ ns ∈ plan, Blocked fs p q loc ns := by
      simpa using hclear
    obtain ⟨e, fs', hcopies⟩ := exists_runCopies_error hroots hstart hfiles hblocked
    rw [Effect.on_blame_error hcopies]
    refine ⟨iff_of_false ?_ hclear, ?_⟩
    · rintro ⟨written, hwritten⟩
      cases hwritten
    · intro written hwritten
      cases hwritten

/-- An empty directory `e`, a directory `o` with a file `x`, and a directory `t` with another file
`x` and a directory `z` with a file `y` in it. -/
def pair : FileSystem where
  top := .directory ⟨[101], by decide⟩ .nil
    (.directory ⟨[111], by decide⟩ (.file ⟨[120], by decide⟩ [49] .nil)
      (.directory ⟨[116], by decide⟩
        (.file ⟨[120], by decide⟩ [50, 50]
          (.directory ⟨[122], by decide⟩ (.file ⟨[121], by decide⟩ [51] .nil) .nil)) .nil))
  distinct := by decide
  current := []

/-- What a comparison of `o` with `t` finds. -/
def found : DiffResults where
  different := (∅ : PathSet).insert ⟨[120]⟩
  missingLocal := (∅ : PathSet).insert ⟨[122, 47, 121]⟩
  localRoot := ⟨[111]⟩
  remoteRoot := ⟨[116]⟩
  scannedLocal := 0
  scannedRemote := 2

/-- The conflict about `x` and the decision to take the remote file. -/
def accepted : ConflictEntry :=
  { ConflictEntry.new ⟨[120]⟩ ⟨[111]⟩ ⟨[116]⟩ with disposition := .acceptRemote }

lemma decided_accepted : Conflict.Decided found [accepted] :=
  List.Forall₂.cons ⟨.acceptRemote, rfl⟩ List.Forall₂.nil

/-- A retrieve copies the missing `z/y` and the accepted `x`. -/
theorem retrieve_converges_pair :
    ((retrieve found [accepted]).on pair).1 = .ok [⟨[111, 47, 122, 47, 121]⟩, ⟨[111, 47, 120]⟩] ∧
      Converged pair ((retrieve found [accepted]).on pair).2 .standard ⟨[111]⟩ ⟨[116]⟩
        [⟨[111], by decide⟩] found [accepted] := by
  have hdiff : (diffDirectories pair .standard ⟨[111]⟩ ⟨[116]⟩).2 = .ok found := by cbv
  have ht : pair.locate ⟨[116]⟩ = .ok [⟨[116], by decide⟩] := rfl
  exact ⟨rfl, (retrieve_converges (FileSystem.linkFree_of_hasLink rfl) rfl ht (by decide)
    (by decide) hdiff decided_accepted).2 _ rfl⟩

/-! ### Paths that are too long -/

section Stretched

/-- The path `e` with slashes at its end. -/
def stretched (count : Nat) : Path := ⟨101 :: List.replicate count slash⟩

open FileSystem Walk

variable {count : Nat} {ns : List Name}

lemma length_stretched (count : Nat) : (stretched count).bytes.length = count + 1 := by
  simp [stretched]

lemma openSteps_stretched : (stretched count).openSteps = [.enter ⟨[101], by decide⟩] := by
  have hbytes : (stretched count).bytes =
      [101] ++ (List.replicate count []).flatMap (slash :: ·) := by
    simp [stretched, List.flatMap_def]
  have hnone : (List.replicate count []).filterMap Step.ofPiece? = [] := by
    rw [List.filterMap_eq_nil_iff]
    intro piece hmem
    rw [List.eq_of_mem_replicate hmem, Step.ofPiece?_nil]
  rw [Path.openSteps, hbytes, splitOn_append_flatMap (by simp), List.filterMap_append, hnone]
  rfl

lemma locate_stretched (hcount : count + 2 < Path.lengthLimit) :
    pair.locate (stretched (count + 1)) = .ok [⟨[101], by decide⟩] := by
  have hend : (stretched (count + 1)).endsInSlash = true := by
    simp [stretched, Path.endsInSlash, List.getLast?_cons, List.getLast?_replicate]
  refine locate_eq_ok_iff.2 ⟨?_, by simp [stretched], ?_, 0, by simp, ?_⟩
  · simp [stretched, slash]
  · simp [Path.tooLong, length_stretched]
    omega
  · rw [Path.steps, hend, if_pos rfl, openSteps_stretched]
    exact .enter rfl rfl rfl (.stay (Or.inr rfl) rfl (.stop _))

lemma shape_e (hns : ns ≠ []) :
    pair.shape ([⟨[101], by decide⟩] ++ ns) = none := by
  obtain ⟨n, rest, rfl⟩ := List.exists_cons_of_ne_nil hns
  rfl

lemma not_clash_e (hns : ns ≠ []) : ¬ pair.Clash [⟨[101], by decide⟩] ns := by
  rintro (⟨inner, hinner⟩ | ⟨ms, content, hne, -, -, hfile⟩)
  · have hdir := Listing.shape_eq_directory_iff.2 ⟨inner, hinner⟩
    rw [← shape, shape_e hns] at hdir
    cases hdir
  · have hfile' := Listing.shape_eq_file_iff.2 hfile
    rw [← shape, shape_e hne] at hfile'
    cases hfile'

lemma roots_stretched :
    Roots pair (stretched 4094) ⟨[116]⟩ [⟨[101], by decide⟩] [⟨[116], by decide⟩] where
  linkFree := linkFree_of_hasLink rfl
  located := locate_stretched (by decide)
  located' := rfl
  directory := rfl
  directory' := rfl
  apart := by decide
  apart' := by decide

lemma tooLong_stretched (hns : ns ≠ []) :
    ((stretched 4094).descend ns).tooLong = true := by
  obtain ⟨n, rest, rfl⟩ := List.exists_cons_of_ne_nil hns
  have hchild := Path.length_lt_child (stretched 4094) n
  have hlen := Path.length_le_descend ((stretched 4094).child n) rest
  rw [length_stretched] at hchild
  rw [Path.descend_cons, Path.tooLong, decide_eq_true_eq, Path.lengthLimit]
  omega

lemma faultFree_stretched : FaultFree pair .standard (stretched 4094) := by
  have hroots := roots_stretched
  refine (faultFree_iff_of_linkFree hroots.linkFree hroots.located hroots.directory).2 ?_
  intro ns hdir _ ms hne hpre
  by_cases hns : ns = []
  · subst hns
    exact absurd (List.prefix_nil.1 hpre) hne
  · rw [shape_e hns] at hdir
    cases hdir

lemma notMem_yielded_stretched (path : Path) : path ∉ yielded pair .standard (stretched 4094) := by
  have hroots := roots_stretched
  intro hpath
  obtain ⟨ns, content, hne, -, -, hfile⟩ := (mem_yielded_iff_of_linkFree hroots.linkFree
    hroots.located hroots.directory faultFree_stretched).1 hpath
  rw [shape_e hne] at hfile
  cases hfile

/-- Nothing in the empty directory `e` clashes with a file of `t`, but along a path of this length
none can be made there. -/
theorem retrieve_fails_stretched :
    ∃ results, (diffDirectories pair .standard (stretched 4094) ⟨[116]⟩).2 = .ok results ∧
      Roots pair (stretched 4094) ⟨[116]⟩ [⟨[101], by decide⟩] [⟨[116], by decide⟩] ∧
      Conflict.Decided results [] ∧
      ¬ ((∃ written, ((retrieve results []).on pair).1 = .ok written) ↔
        ∀ path ∈ results.missingLocal.toList, ∃ ns, path = Path.ofNames ns ∧
          ¬ pair.Clash [⟨[101], by decide⟩] ns) := by
  have hroots := roots_stretched
  have hwalk : walk pair .standard ⟨[116]⟩ = .ok [.file ⟨[120]⟩, .file ⟨[122, 47, 121]⟩] := by cbv
  obtain ⟨results, hdiff⟩ :=
    (exists_diffDirectories_iff pair .standard (stretched 4094) ⟨[116]⟩).2
      ⟨isDirectoryAt_of_shape hroots.located hroots.directory,
        isDirectoryAt_of_shape hroots.located' hroots.directory', faultFree_stretched,
        ⟨_, hwalk, by simp⟩, fun path hpath => absurd hpath (notMem_yielded_stretched path)⟩
  have hexact := exact_of_diffDirectories hdiff
  have hdifferent : results.different.toList = [] := by
    rw [List.eq_nil_iff_forall_not_mem]
    exact fun path hpath => notMem_yielded_stretched path ((hexact.different path).1 hpath).1
  have hdecided : Conflict.Decided results [] := by
    rw [Conflict.Decided, Conflict.build, hdifferent]
    exact .nil
  obtain ⟨plan, hplanned, hplan⟩ := exists_plan hroots hdiff hdecided
  refine ⟨results, hdiff, hroots, hdecided, fun hiff => ?_⟩
  obtain ⟨written, hwritten⟩ := hiff.2 fun path hpath => by
    obtain ⟨ns, rfl, hne, -⟩ := exists_names_of_mem_yielded hroots hdiff
      ((hexact.missingLocal path).1 hpath).1
    exact ⟨ns, rfl, not_clash_e hne⟩
  have hx : [⟨[120], by decide⟩] ∈ plan := by
    refine (mem_plan_iff hplanned).2 (mem_planned.2 (Or.inl ((hexact.missingLocal _).2 ⟨?_, ?_⟩)))
    · rw [yielded_of_walk hwalk]
      exact List.mem_cons_self ..
    · exact notMem_yielded_stretched _
  obtain ⟨e, fs', hcopies⟩ := exists_runCopies_error hroots (Overlay.start ..)
    (fun ns hns => ⟨(hplan ns hns).1, (hplan ns hns).2.2⟩)
    ⟨_, hx, Or.inr (Or.inl (tooLong_stretched (by simp)))⟩
  rw [on_retrieve_of_plan hdiff hdecided hplanned fun ns hns => (hplan ns hns).1,
    Effect.on_blame_error hcopies] at hwritten
  cases hwritten

end Stretched

end Retrieve
end Reconcile
