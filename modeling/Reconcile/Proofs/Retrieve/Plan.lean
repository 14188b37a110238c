import Reconcile.Proofs.Diff.Exact
import Reconcile.Proofs.Retrieve.Again

/-!
# The plan of a retrieve

Once every conflict is decided, a retrieve copies the missing and the accepted files, each of them
along the same path below both roots (`Retrieve.on_retrieve`).  In a tree without links these paths
are lists of names that lead to files of the remote tree, so that the plan is one of copies along
names (`Retrieve.exists_plan`, `Retrieve.on_retrieve_of_plan`).  Nothing is in the way of an
accepted file, since a file of that name is in the local tree already and both files were read.
-/

namespace Reconcile

/-! ## Decisions -/

namespace Conflict

/-- The entries of a comparison after each of them has been decided. -/
def Decided (results : DiffResults) (entries : List ConflictEntry) : Prop :=
  List.Forall₂ (fun e e' => ∃ d, e.resolve d = .ok e') (build results) entries

variable {results : DiffResults} {entries : List ConflictEntry} {e : ConflictEntry}

lemma resolve_eq_ok_iff {d : Disposition} {e' : ConflictEntry} :
    e.resolve d = .ok e' ↔ d ≠ .unresolved ∧ e' = { e with disposition := d } := by
  rw [ConflictEntry.resolve]
  split
  · simp_all
  · simp_all [eq_comm]

/-- A decision changes nothing else of an entry. -/
theorem Decided.spec (h : Decided results entries) :
    entries.map ConflictEntry.relativePath = results.different.toList ∧
      ∀ e ∈ entries, e.disposition ≠ .unresolved ∧
        e.localPath = results.localRoot.join e.relativePath ∧
        e.remotePath = results.remoteRoot.join e.relativePath := by
  rw [Decided, build] at h
  generalize results.different.toList = paths at h
  induction paths generalizing entries with
  | nil =>
    cases h
    exact ⟨rfl, by simp⟩
  | cons path paths ih =>
    cases h with
    | cons hd htl =>
      obtain ⟨d, hresolve⟩ := hd
      obtain ⟨hd, rfl⟩ := resolve_eq_ok_iff.1 hresolve
      obtain ⟨hpaths, hall⟩ := ih htl
      refine ⟨congrArg (List.cons path) hpaths, ?_⟩
      intro e he
      rcases List.mem_cons.1 he with rfl | he
      · exact ⟨hd, rfl, rfl⟩
      · exact hall e he

/-- No two decided entries are about the same file. -/
lemma Decided.eq_of_relativePath (h : Decided results entries) {e' : ConflictEntry}
    (he : e ∈ entries) (he' : e' ∈ entries) (hpath : e.relativePath = e'.relativePath) :
    e = e' := by
  have hnodup := results.different.nodup
  rw [← h.spec.1] at hnodup
  exact List.inj_on_of_nodup_map hnodup he he' hpath

lemma Decided.checkAllResolved (h : Decided results entries) :
    checkAllResolved entries = .ok () := by
  have hcount : entries.countP (fun e => !e.isResolved) = 0 := by
    rw [List.countP_eq_zero]
    intro e he
    simp [ConflictEntry.isResolved, (h.spec.2 e he).1]
  simp [Conflict.checkAllResolved, hcount]

lemma Decided.mem_different_iff (h : Decided results entries) {path : Path} :
    path ∈ results.different.toList ↔ ∃ e ∈ entries, e.relativePath = path := by
  rw [← h.spec.1, List.mem_map]

end Conflict

namespace Retrieve

/-- The paths that a retrieve copies, in order. -/
def planned (results : DiffResults) (entries : List ConflictEntry) : List Path :=
  results.missingLocal.toList ++
    (entries.filter fun e => e.disposition = .acceptRemote).map ConflictEntry.relativePath

variable {results : DiffResults} {entries : List ConflictEntry} {path : Path}

lemma mem_planned :
    path ∈ planned results entries ↔ path ∈ results.missingLocal.toList ∨
      ∃ e ∈ entries, e.disposition = .acceptRemote ∧ e.relativePath = path := by
  simp [planned, and_assoc]

/-- The copies of a retrieve take the same path below both roots. -/
lemma copies_eq_map (h : Conflict.Decided results entries) :
    missingCopies results ++ acceptedCopies entries = (planned results entries).map fun path =>
      ⟨results.remoteRoot.join path, results.localRoot.join path⟩ := by
  rw [planned, List.map_append, List.map_map, missingCopies, acceptedCopies]
  congr 1
  refine List.map_congr_left fun e he => ?_
  obtain ⟨-, hlocal, hremote⟩ := h.spec.2 e (List.mem_filter.1 he).1
  rw [hlocal, hremote]
  rfl

/-- Decided conflicts let a retrieve carry out its copies. -/
lemma on_retrieve (h : Conflict.Decided results entries) (fs : FileSystem) :
    (retrieve results entries).on fs =
      (Effect.blame ConflictError.diff (runCopies ((planned results entries).map fun path =>
        ⟨results.remoteRoot.join path, results.localRoot.join path⟩))).on fs := by
  rw [retrieve, runIfResolved, h.checkAllResolved, copies_eq_map h]

/-- Paths through names are lists of names. -/
lemma exists_names {paths : List Path} {P : List Name → Prop}
    (h : ∀ path ∈ paths, ∃ ns, path = Path.ofNames ns ∧ P ns) :
    ∃ plan : List (List Name), paths = plan.map Path.ofNames ∧ ∀ ns ∈ plan, P ns := by
  induction paths with
  | nil => exact ⟨[], rfl, by simp⟩
  | cons path paths ih =>
    obtain ⟨ns, rfl, hns⟩ := h path (List.mem_cons_self ..)
    obtain ⟨plan, rfl, hplan⟩ := ih fun path' hmem => h path' (List.mem_cons_of_mem _ hmem)
    refine ⟨ns :: plan, rfl, ?_⟩
    intro ks hks
    rcases List.mem_cons.1 hks with rfl | hks
    · exact hns
    · exact hplan ks hks

/-! ## What is planned -/

section Planned

open FileSystem Walk

variable {fs fs' : FileSystem} {config : Config} {p q : Path} {loc loc' : Location}
  {ns : List Name} {plan : List (List Name)}

/-- Both roots of a comparison that succeeds are directories. -/
lemma roots_of_diffDirectories (hfree : fs.LinkFree) (hp : fs.locate p = .ok loc)
    (hq : fs.locate q = .ok loc') (hapart : ¬ loc <+: loc') (hapart' : ¬ loc' <+: loc)
    (hdiff : (diffDirectories fs config p q).2 = .ok results) : Roots fs p q loc loc' := by
  obtain ⟨hdir, hdir', -⟩ := (exists_diffDirectories_iff fs config p q).1 ⟨results, hdiff⟩
  obtain ⟨loc₁, inner, hloc₁, hinner⟩ := isDirectoryAt_iff.1 hdir
  obtain ⟨loc₂, inner', hloc₂, hinner'⟩ := isDirectoryAt_iff.1 hdir'
  obtain rfl := Except.ok.inj (hp.symm.trans hloc₁)
  obtain rfl := Except.ok.inj (hq.symm.trans hloc₂)
  exact ⟨hfree, hp, hq, Listing.shape_eq_directory_iff.2 ⟨inner, hinner⟩,
    Listing.shape_eq_directory_iff.2 ⟨inner', hinner'⟩, hapart, hapart'⟩

variable (hroots : Roots fs p q loc loc')
  (hdiff : (diffDirectories fs config p q).2 = .ok results)
  (hdecided : Conflict.Decided results entries)

include hroots hdiff

/-- The remote files are the kept ones. -/
lemma exists_names_of_mem_yielded (hpath : path ∈ yielded fs config q) :
    ∃ ns, path = Path.ofNames ns ∧ ns ≠ [] ∧ config.ignore.Keeps ns ∧
      ∃ content, fs.shape (loc' ++ ns) = some (.file content) := by
  obtain ⟨-, -, -, hfault, -⟩ := (exists_diffDirectories_iff fs config p q).1 ⟨results, hdiff⟩
  obtain ⟨ns, content, hne, rfl, hkeeps, hfile⟩ := (mem_yielded_iff_of_linkFree hroots.linkFree
    hroots.located' hroots.directory' hfault).1 hpath
  exact ⟨ns, rfl, hne, hkeeps, content, hfile⟩

/-- A file of both trees can be read in both, as it stands. -/
lemma exists_read_of_mem_yielded (hl : Path.ofNames ns ∈ yielded fs config p)
    (hr : Path.ofNames ns ∈ yielded fs config q) :
    ∃ x y, fs.shape (loc ++ ns) = some (.file x) ∧ fs.shape (loc' ++ ns) = some (.file y) ∧
      (p.descend ns).tooLong = false ∧ (q.descend ns).tooLong = false := by
  obtain ⟨-, -, hfault, hfault', hread⟩ :=
    (exists_diffDirectories_iff fs config p q).1 ⟨results, hdiff⟩
  obtain ⟨⟨x', hx'⟩, y', hy'⟩ := hread _ hl hr
  obtain ⟨ms, x, hne, hms, -, hx⟩ := (mem_yielded_iff_of_linkFree hroots.linkFree hroots.located
    hroots.directory hfault).1 hl
  obtain rfl := Path.ofNames_injective hms
  obtain ⟨ms, y, -, hms, -, hy⟩ := (mem_yielded_iff_of_linkFree hroots.linkFree hroots.located'
    hroots.directory' hfault').1 hr
  obtain rfl := Path.ofNames_injective hms
  rw [Path.join_ofNames _ hne] at hx' hy'
  obtain ⟨_, hlocate, -⟩ := read_eq_ok_iff.1 hx'
  obtain ⟨_, hlocate', -⟩ := read_eq_ok_iff.1 hy'
  exact ⟨x, y, hx, hy, (locate_eq_ok_iff.1 hlocate).2.2.1, (locate_eq_ok_iff.1 hlocate').2.2.1⟩

/-- Nothing is in the way of an accepted file. -/
lemma not_blocked_of_mem_different (hpath : Path.ofNames ns ∈ results.different.toList) :
    ¬ Blocked fs p q loc ns := by
  obtain ⟨hl, hr, -⟩ := ((exact_of_diffDirectories hdiff).different _).1 hpath
  -- The file is in both trees, and both were read when they were compared.
  obtain ⟨x, y, hx, -, hdest, hsource⟩ := exists_read_of_mem_yielded hroots hdiff hl hr
  rintro ((⟨inner, hinner⟩ | ⟨ms, content, -, hpre, hne, hfile⟩) | hlong | hlong)
  · have hdir := Listing.shape_eq_directory_iff.2 ⟨inner, hinner⟩
    rw [← shape, hx] at hdir
    cases hdir
  · exact hne (ne_of_files (Listing.shape_eq_file_iff.2 hfile) hx hpre)
  · rw [hdest] at hlong
    cases hlong
  · rw [hsource] at hlong
    cases hlong

include hdecided

omit hroots in
lemma mem_yielded_of_planned (hpath : path ∈ planned results entries) :
    path ∈ yielded fs config q := by
  have hexact := exact_of_diffDirectories hdiff
  rcases mem_planned.1 hpath with hmissing | ⟨e, he, -, rfl⟩
  · exact ((hexact.missingLocal path).1 hmissing).1
  · exact ((hexact.different _).1 (hdecided.mem_different_iff.2 ⟨e, he, rfl⟩)).2.1

/-- What is planned are kept remote files. -/
lemma exists_plan :
    ∃ plan : List (List Name), planned results entries = plan.map Path.ofNames ∧
      ∀ ns ∈ plan, ns ≠ [] ∧ config.ignore.Keeps ns ∧
        ∃ content, fs.shape (loc' ++ ns) = some (.file content) :=
  exists_names fun _ hpath =>
    exists_names_of_mem_yielded hroots hdiff (mem_yielded_of_planned hdiff hdecided hpath)

omit hroots in
/-- The copies along the names of the plan. -/
lemma on_retrieve_of_plan (hplan : planned results entries = plan.map Path.ofNames)
    (hne : ∀ ns ∈ plan, ns ≠ []) :
    (retrieve results entries).on fs =
      (Effect.blame ConflictError.diff (runCopies (plan.map (Copy.along p q)))).on fs := by
  have hexact := exact_of_diffDirectories hdiff
  rw [on_retrieve hdecided, hplan, List.map_map, hexact.localRoot, hexact.remoteRoot]
  congr 3
  refine List.map_congr_left fun ns hns => ?_
  rw [Function.comp_apply, Path.join_ofNames _ (hne ns hns), Path.join_ofNames _ (hne ns hns),
    Copy.along]

end Planned

end Retrieve
end Reconcile
