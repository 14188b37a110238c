import Reconcile.Proofs.FileSystem.Shape
import Reconcile.Proofs.Walk.Yield

/-!
# Walks that follow no link

A walk that meets no link it would follow stays among the real directories below its root
(`Walk.visit?_iff_of_stays`).  Without links to follow the only faults are directories whose paths
are too long, and what is yielded can be read off the tree: everything that is not a directory, nor
a link to one, below directories that are kept (`Walk.unfollowed_exact`).
-/

namespace Reconcile

namespace Walk

/-- There is no link that the walk would follow. -/
def Stays (w : Walk) : Prop :=
  w.config.followLinks = true → w.fs.LinkFree

variable {w : Walk} {v v' : Visit} {ns : List Name} {n : Name}

lemma Stays.find?_ne_link (hstays : w.Stays) (hfollow : w.config.followLinks = true)
    (h : v.Sound w) (target : Path) : v.inner.find? n ≠ some (.link target) := by
  intro hfind
  exact hstays hfollow (v.here.loc ++ [n]) target
    (Listing.lookup_concat.2 ⟨v.inner, h.node, hfind⟩)

/-- A directory is entered by its name only. -/
lemma enter?_iff_of_stays (hstays : w.Stays) (h : v.Sound w) :
    w.enter? v n = some v' ↔
      ∃ inner, v' = ⟨v.names ++ [n], ⟨v.here.loc ++ [n], v.pathOf n⟩, v.levels, inner⟩ ∧
        w.config.ignore.covers (Path.ofNames (v.names ++ [n])) = false ∧
        v.inner.find? n = some (.directory inner) ∧ (v.pathOf n).tooLong = false := by
  rw [enter?_eq_some_iff, h.isSome_kept?]
  constructor
  · rintro ⟨loc, inner, rfl, hkept, ⟨hfind, hlong, rfl⟩ | ⟨hfollow, ⟨target, hfind⟩, -⟩⟩
    · exact ⟨inner, rfl, hkept, hfind, hlong⟩
    · exact absurd hfind (hstays.find?_ne_link hfollow h target)
  · rintro ⟨inner, rfl, hkept, hfind, hlong⟩
    exact ⟨_, inner, rfl, hkept, Or.inl ⟨hfind, hlong, rfl⟩⟩

/-- The path of every directory from the root down to the names is short enough. -/
def Short (root : Path) (ns : List Name) : Prop :=
  ∀ ms, ms ≠ [] → ms <+: ns → (root.descend ms).tooLong = false

lemma short_nil (root : Path) : Short root [] := fun _ hne hpre =>
  absurd (List.prefix_nil.1 hpre) hne

lemma short_concat {root : Path} :
    Short root (ns ++ [n]) ↔ Short root ns ∧ (root.descend (ns ++ [n])).tooLong = false := by
  constructor
  · intro h
    exact ⟨fun ms hne hpre => h ms hne (hpre.trans (List.prefix_append _ _)),
      h _ (by simp) (List.prefix_refl _)⟩
  · rintro ⟨hshort, hlast⟩ ms hne hpre
    rcases List.prefix_concat_iff.1 hpre with rfl | hpre
    · exact hlast
    · exact hshort ms hne hpre

/-- Every visit is in the directory that stands at its names. -/
lemma loc_of_visit? (hstays : w.Stays) (h : v.Sound w) (hvisit : w.visit? v ns = some v') :
    v'.here.loc = v.here.loc ++ ns := by
  induction ns using List.reverseRecOn generalizing v' with
  | nil =>
    rw [visit?_nil, Option.some.injEq] at hvisit
    rw [hvisit, List.append_nil]
  | append_singleton ns n ih =>
    obtain ⟨v'', hvisit', henter⟩ := visit?_concat_eq_some.1 hvisit
    obtain ⟨inner, rfl, -⟩ := (enter?_iff_of_stays hstays (h.visit hvisit').1).1 henter
    rw [ih hvisit', List.append_assoc]

lemma inner_of_visit? (hstays : w.Stays) (h : v.Sound w) (hvisit : w.visit? v ns = some v') :
    w.fs.node? (v.here.loc ++ ns) = some (.directory v'.inner) := by
  rw [← loc_of_visit? hstays h hvisit]
  exact (h.visit hvisit).1.node

/-- The walk visits the kept directories that stand below the root. -/
theorem visit?_iff_of_stays (hstays : w.Stays) (h : v.Sound w) (hnil : v.names = []) :
    (∃ v', w.visit? v ns = some v') ↔
      (∃ inner, w.fs.node? (v.here.loc ++ ns) = some (.directory inner)) ∧
        w.config.ignore.Keeps ns ∧ Short w.root ns := by
  induction ns using List.reverseRecOn with
  | nil =>
    simp only [visit?_nil, List.append_nil, Option.some.injEq, exists_eq', true_iff]
    exact ⟨⟨_, h.node⟩, Ignore.keeps_nil, short_nil _⟩
  | append_singleton ns n ih =>
    rw [Ignore.keeps_concat, short_concat, ← List.append_assoc]
    constructor
    · rintro ⟨v', hvisit⟩
      obtain ⟨v'', hvisit', henter⟩ := visit?_concat_eq_some.1 hvisit
      obtain ⟨hsound, hnames⟩ := h.visit_root hnil hvisit'
      obtain ⟨inner, rfl, hkept, hfind, hlong⟩ := (enter?_iff_of_stays hstays hsound).1 henter
      obtain ⟨-, hkeeps, hshort⟩ := ih.1 ⟨v'', hvisit'⟩
      rw [hsound.pathOf, hnames] at hlong
      rw [hnames] at hkept
      exact ⟨⟨inner, Listing.lookup_concat.2 ⟨_, inner_of_visit? hstays h hvisit', hfind⟩⟩,
        ⟨hkeeps, hkept⟩, hshort, hlong⟩
    · rintro ⟨⟨inner, hnode⟩, ⟨hkeeps, hkept⟩, hshort, hlong⟩
      obtain ⟨outer, houter, hfind⟩ := Listing.lookup_concat.1 hnode
      obtain ⟨v'', hvisit'⟩ := ih.2 ⟨⟨outer, houter⟩, hkeeps, hshort⟩
      obtain ⟨hsound, hnames⟩ := h.visit_root hnil hvisit'
      rw [← loc_of_visit? hstays h hvisit'] at houter
      have hinner := hsound.inner_eq houter
      refine ⟨_, visit?_concat_eq_some.2 ⟨v'', hvisit',
        (enter?_iff_of_stays hstays hsound).2 ⟨inner, rfl, ?_, ?_, ?_⟩⟩⟩
      · rw [hnames]
        exact hkept
      · rw [hinner]
        exact hfind
      · rw [hsound.pathOf, hnames]
        exact hlong

/-! ## Items -/

/-- The files of a walk that stays are the kept entries of the directories it visits that are
neither directories nor links to one. -/
lemma file_mem_iff_of_stays (hstays : w.Stays) (h : v.Sound w) (hnil : v.names = []) {p : Path} :
    .file p ∈ w.itemsOf v ↔
      ∃ ns n node, p = Path.ofNames (ns ++ [n]) ∧
        w.fs.node? (v.here.loc ++ (ns ++ [n])) = some node ∧ node.isDirectory = false ∧
        (node.isLink = true → w.fs.isDirectoryAt (w.root.descend (ns ++ [n])) = false) ∧
        w.config.ignore.Keeps (ns ++ [n]) ∧ Short w.root ns := by
  rw [mem_itemsOf_iff h]
  constructor
  · rintro ⟨ns, n, v', hvisit, hmeets⟩
    obtain ⟨hsound, hnames⟩ := h.visit_root hnil hvisit
    obtain ⟨-, hkeeps, hshort⟩ := (visit?_iff_of_stays hstays h hnil).1 ⟨v', hvisit⟩
    have houter := inner_of_visit? hstays h hvisit
    obtain ⟨hkept, hentry⟩ := meets?_eq_file_iff.1 hmeets
    rw [hsound.kept?_pathOf, hnames] at hkept
    rw [hsound.pathOf, hnames] at hentry
    have hkeeps' := Ignore.keeps_concat.2 ⟨hkeeps, hkept.2⟩
    rcases hentry with ⟨content, hfind⟩ | ⟨target, hfind, ⟨hfollow, -⟩ | ⟨-, hdir⟩⟩
    · refine ⟨ns, n, .file content, hkept.1, ?_, rfl, by simp [Node.isLink], hkeeps', hshort⟩
      rw [← List.append_assoc]
      exact Listing.lookup_concat.2 ⟨_, houter, hfind⟩
    · exact absurd hfind (hstays.find?_ne_link hfollow hsound target)
    · refine ⟨ns, n, .link target, hkept.1, ?_, rfl, fun _ => hdir, hkeeps', hshort⟩
      rw [← List.append_assoc]
      exact Listing.lookup_concat.2 ⟨_, houter, hfind⟩
  · rintro ⟨ns, n, node, rfl, hnode, hdirectory, hlink, hkeeps, hshort⟩
    obtain ⟨hkeeps, hkept⟩ := Ignore.keeps_concat.1 hkeeps
    rw [← List.append_assoc] at hnode
    obtain ⟨outer, houter, hfind⟩ := Listing.lookup_concat.1 hnode
    obtain ⟨v', hvisit⟩ := (visit?_iff_of_stays hstays h hnil).2 ⟨⟨outer, houter⟩, hkeeps, hshort⟩
    obtain ⟨hsound, hnames⟩ := h.visit_root hnil hvisit
    rw [← loc_of_visit? hstays h hvisit] at houter
    have hinner := hsound.inner_eq houter
    refine ⟨ns, n, v', hvisit, meets?_eq_file_iff.2 ⟨?_, ?_⟩⟩
    · rw [hsound.kept?_pathOf, hnames]
      exact ⟨rfl, hkept⟩
    · rw [hsound.pathOf, hnames, hinner]
      cases node with
      | file content => exact Or.inl ⟨content, hfind⟩
      | directory inner => simp [Node.isDirectory] at hdirectory
      | link target =>
        -- There is a link here, so the walk follows none.
        refine Or.inr ⟨target, hfind, Or.inr ⟨?_, hlink rfl⟩⟩
        cases hfollow : w.config.followLinks with
        | false => rfl
        | true =>
          rw [← hinner] at hfind
          exact absurd hfind (hstays.find?_ne_link hfollow hsound target)

/-- A walk that stays has a fault where a kept directory has a path that is too long. -/
lemma fault_notMem_iff_of_stays (hstays : w.Stays) (h : v.Sound w) (hnil : v.names = []) :
    (∀ f, .fault f ∉ w.itemsOf v) ↔
      ∀ ns inner, w.fs.node? (v.here.loc ++ ns) = some (.directory inner) →
        w.config.ignore.Keeps ns → Short w.root ns := by
  constructor
  · intro hnone ns
    induction ns using List.reverseRecOn with
    | nil => exact fun _ _ _ => short_nil _
    | append_singleton ns n ih =>
      intro inner hnode hkeeps
      rw [← List.append_assoc] at hnode
      obtain ⟨outer, houter, hfind⟩ := Listing.lookup_concat.1 hnode
      obtain ⟨hkeeps, hkept⟩ := Ignore.keeps_concat.1 hkeeps
      have hshort := ih outer houter hkeeps
      refine short_concat.2 ⟨hshort, ?_⟩
      -- A first directory with a path that is too long is met, and is a fault.
      by_contra hlong
      obtain ⟨v', hvisit⟩ := (visit?_iff_of_stays hstays h hnil).2
        ⟨⟨outer, houter⟩, hkeeps, hshort⟩
      obtain ⟨hsound, hnames⟩ := h.visit_root hnil hvisit
      rw [← loc_of_visit? hstays h hvisit] at houter
      have hinner := hsound.inner_eq houter
      have hmeets : w.meets? v' n = some (.fault (.io (v'.pathOf n) .nameTooLong)) := by
        refine meets?_eq_fault_iff.2 (Or.inl ⟨⟨inner, ?_⟩, ?_, ?_, rfl⟩)
        · rw [hinner]
          exact hfind
        · rw [hsound.isSome_kept?, hnames]
          exact hkept
        · rw [hsound.pathOf, hnames]
          simpa using hlong
      exact hnone _ ((mem_itemsOf_iff h).2 ⟨ns, n, v', hvisit, hmeets⟩)
  · intro hshort f hf
    obtain ⟨ns, n, v', hvisit, hmeets⟩ := (mem_itemsOf_iff h).1 hf
    obtain ⟨hsound, hnames⟩ := h.visit_root hnil hvisit
    obtain ⟨-, hkeeps, -⟩ := (visit?_iff_of_stays hstays h hnil).1 ⟨v', hvisit⟩
    rcases meets?_eq_fault_iff.1 hmeets with
      ⟨⟨inner, hfind⟩, hkept, hlong, -⟩ | ⟨⟨target, hfind⟩, hfollow, -⟩
    · rw [hsound.isSome_kept?, hnames] at hkept
      rw [hsound.pathOf, hnames] at hlong
      have hnode : w.fs.node? (v.here.loc ++ (ns ++ [n])) = some (.directory inner) := by
        rw [← List.append_assoc]
        exact Listing.lookup_concat.2 ⟨_, inner_of_visit? hstays h hvisit, hfind⟩
      have hlast := hshort _ _ hnode (Ignore.keeps_concat.2 ⟨hkeeps, hkept⟩)
      rw [(short_concat.1 hlast).2] at hlong
      cases hlong
    · exact absurd hfind (hstays.find?_ne_link hfollow hsound target)

/-- A walk that follows no link and meets no fault yields every kept entry that is neither a
directory nor a link to one. -/
theorem mem_yielded_of_unfollowed {fs : FileSystem} {config : Config} {root : Path}
    {loc : Location} {node : Node} (hfollow : config.followLinks = false)
    (hfree : FaultFree fs config root) (hloc : fs.locate root = .ok loc) (hns : ns ≠ [])
    (hnode : fs.node? (loc ++ ns) = some node) (hdirectory : node.isDirectory = false)
    (hlink : node.isLink = true → fs.isDirectoryAt (root.descend ns) = false)
    (hkeeps : config.ignore.Keeps ns) : Path.ofNames ns ∈ yielded fs config root := by
  obtain ⟨items, hwalk, hnone⟩ := hfree
  obtain ⟨loc', inner, hloc', hnode', rfl⟩ := walk_eq_ok_iff.1 hwalk
  obtain rfl := Except.ok.inj (hloc.symm.trans hloc')
  let w : Walk := ⟨fs, config, root⟩
  have hstays : w.Stays := fun h => absurd (hfollow.symm.trans h) (by simp)
  have hsound : (w.rootVisit loc inner).Sound w := sound_rootVisit hloc hnode'
  obtain ⟨ms, n, rfl⟩ : ∃ ms n, ns = ms ++ [n] := ⟨_, _, (List.dropLast_concat_getLast hns).symm⟩
  obtain ⟨outer, houter⟩ := Listing.lookup_above hnode (List.prefix_append ms [n])
    (ne_concat_of_isPrefix (List.prefix_refl ms) n)
  have hshort := (fault_notMem_iff_of_stays hstays hsound rfl).1 hnone ms outer houter
    (hkeeps.above (List.prefix_append ms [n]))
  rw [yielded_of_walk hwalk, mem_filesOf, file_mem_iff_of_stays hstays hsound rfl]
  exact ⟨ms, n, node, rfl, hnode, hdirectory, hlink, hkeeps, hshort⟩

/-! ## The whole walk -/

/-- What a walk that follows no link yields below the root, which stands at `loc`. -/
structure Listed (fs : FileSystem) (config : Config) (root : Path) (loc : Location)
    (ns : List Name) : Prop where
  ne_nil : ns ≠ []
  /-- Above it there are real directories only. -/
  above : ∀ ms, ms <+: ns → ms ≠ ns → ∃ inner, fs.node? (loc ++ ms) = some (.directory inner)
  /-- Neither it nor anything above it is left out. -/
  kept : config.ignore.Keeps ns
  /-- It is neither a directory nor a link that leads to one. -/
  entry : ∃ node, fs.node? (loc ++ ns) = some node ∧ node.isDirectory = false ∧
    (node.isLink = true → fs.isDirectoryAt (root.join (Path.ofNames ns)) = false)

lemma listed_iff {fs : FileSystem} {config : Config} {root : Path} {loc : Location} :
    Listed fs config root loc ns ↔
      ns ≠ [] ∧ config.ignore.Keeps ns ∧ ∃ node, fs.node? (loc ++ ns) = some node ∧
        node.isDirectory = false ∧
        (node.isLink = true → fs.isDirectoryAt (root.descend ns) = false) := by
  constructor
  · rintro ⟨hne, -, hkept, node, hnode, hdirectory, hlink⟩
    rw [Path.join_ofNames root hne] at hlink
    exact ⟨hne, hkept, node, hnode, hdirectory, hlink⟩
  · rintro ⟨hne, hkept, node, hnode, hdirectory, hlink⟩
    rw [← Path.join_ofNames root hne] at hlink
    refine ⟨hne, fun ms hpre hms => ?_, hkept, node, hnode, hdirectory, hlink⟩
    exact Listing.lookup_above hnode hpre hms

/-- **A walk that follows no link is exact.**  If no directory has a path that is too long, there is
no fault; the files are the kept entries below real directories that are neither directories nor
links to one, each of them once, and in a sorted walk in strictly increasing order. -/
theorem unfollowed_exact {fs : FileSystem} {config : Config} {root : Path} {loc : Location}
    (hroot : checkRoot fs root = .ok ()) (hloc : fs.locate root = .ok loc)
    (hfollow : config.followLinks = false)
    (hshort : ∀ ns inner, ns ≠ [] → fs.node? (loc ++ ns) = some (.directory inner) →
      config.ignore.Keeps ns → (root.join (Path.ofNames ns)).tooLong = false) :
    ∃ items, walk fs config root = .ok items ∧ (∀ f, .fault f ∉ items) ∧
      (∀ p, .file p ∈ items ↔ ∃ ns, p = Path.ofNames ns ∧ Listed fs config root loc ns) ∧
      (filesOf items).Nodup ∧
      (config.sortEntries = true →
        (filesOf items).Pairwise (fun p q => p.key < q.key) ∧
          ∃ files, listFiles fs config root = .ok files ∧ files.toList = filesOf items) := by
  obtain ⟨loc', inner, hloc', hnode⟩ := exists_directory_of_checkRoot hroot
  obtain rfl := Except.ok.inj (hloc.symm.trans hloc')
  let w : Walk := ⟨fs, config, root⟩
  have hstays : w.Stays := fun h => absurd (hfollow.symm.trans h) (by simp)
  have hsound : (w.rootVisit loc inner).Sound w := sound_rootVisit hloc hnode
  have hwalk : walk fs config root = .ok (w.itemsOf (w.rootVisit loc inner)) :=
    walk_eq_ok_iff.2 ⟨loc, inner, hloc, hnode, rfl⟩
  -- The directories above a directory are short with it.
  have hdirs : ∀ ns inner, fs.node? (loc ++ ns) = some (.directory inner) →
      config.ignore.Keeps ns → Short root ns := by
    intro ns inner hnode hkeeps ms hne hpre
    rw [← Path.join_ofNames root hne]
    by_cases heq : ms = ns
    · exact hshort ms inner hne (heq ▸ hnode) (heq ▸ hkeeps)
    · obtain ⟨outer, houter⟩ := Listing.lookup_above hnode hpre heq
      exact hshort ms outer hne houter (hkeeps.above hpre)
  have hfree := (fault_notMem_iff_of_stays hstays hsound rfl).2 hdirs
  refine ⟨_, hwalk, hfree, ?_, ?_, ?_⟩
  · intro p
    rw [file_mem_iff_of_stays hstays hsound rfl]
    constructor
    · rintro ⟨ns, n, node, rfl, hnode, hdirectory, hlink, hkeeps, -⟩
      exact ⟨ns ++ [n], rfl, listed_iff.2 ⟨by simp, hkeeps, node, hnode, hdirectory, hlink⟩⟩
    · rintro ⟨ns, rfl, hlisted⟩
      obtain ⟨hne, hkeeps, node, hnode, hdirectory, hlink⟩ := listed_iff.1 hlisted
      obtain ⟨outer, houter⟩ := hlisted.above ns.dropLast (List.dropLast_prefix ns)
        fun h => by
          have hlen := congrArg List.length h
          have hpos := List.length_pos_iff.2 hne
          rw [List.length_dropLast] at hlen
          omega
      rw [← List.dropLast_concat_getLast hne] at hnode hlink hkeeps ⊢
      exact ⟨_, _, node, rfl, hnode, hdirectory, hlink, hkeeps,
        hdirs _ outer houter (hkeeps.above (List.prefix_append _ _))⟩
  · rw [← yielded_of_walk hwalk]
    exact nodup_yielded fs config root
  · intro hsort
    rw [← yielded_of_walk hwalk]
    exact ⟨increasing_yielded fs root hsort, listFiles_of_sorted hsort ⟨_, hwalk, hfree⟩⟩

/-- A directory `r` with a file `f`, a directory `d` with a file `g` in it, and links `a` to `d`,
`b` to nothing, `c` back to `r`. -/
def tangled : FileSystem where
  top := .directory ⟨[114], by decide⟩
    (.file ⟨[102], by decide⟩ [1]
      (.link ⟨[97], by decide⟩ ⟨[100]⟩
        (.link ⟨[98], by decide⟩ ⟨[120]⟩
          (.link ⟨[99], by decide⟩ ⟨[46]⟩
            (.directory ⟨[100], by decide⟩ (.file ⟨[103], by decide⟩ [2] .nil) .nil))))) .nil
  distinct := by decide
  current := []

lemma short_of_directory_tangled {ns : List Name} {inner : Listing} (hne : ns ≠ [])
    (h : tangled.node? ([⟨[114], by decide⟩] ++ ns) = some (.directory inner)) :
    (Path.join ⟨[114]⟩ (Path.ofNames ns)).tooLong = false := by
  have hdirs : tangled.top.directories =
      [[⟨[114], by decide⟩], [⟨[114], by decide⟩, ⟨[100], by decide⟩]] := rfl
  have hmem := Listing.mem_directories h
  rw [hdirs] at hmem
  rcases List.mem_cons.1 hmem with heq | hmem
  · exact absurd (List.cons.inj heq).2 hne
  · have hns : ns = [⟨[100], by decide⟩] := by simpa using hmem
    rw [hns]
    rfl

/-- Below `r` the walk passes over the links `a` and `c` and yields the link `b`. -/
theorem unfollowed_exact_tangled :
    checkRoot tangled ⟨[114]⟩ = .ok () ∧
      ∃ items, walk tangled .standard ⟨[114]⟩ = .ok items ∧ (∀ f, .fault f ∉ items) ∧
        (∀ p, .file p ∈ items ↔ ∃ ns, p = Path.ofNames ns ∧
          Listed tangled .standard ⟨[114]⟩ [⟨[114], by decide⟩] ns) ∧
        (filesOf items).Nodup ∧
        (Config.standard.sortEntries = true →
          (filesOf items).Pairwise (fun p q => p.key < q.key) ∧
            ∃ files, listFiles tangled .standard ⟨[114]⟩ = .ok files ∧
              files.toList = filesOf items) :=
  ⟨rfl, unfollowed_exact rfl rfl rfl fun _ _ hne hnode _ => short_of_directory_tangled hne hnode⟩

example : walk tangled .standard ⟨[114]⟩ =
    .ok [.file ⟨[98]⟩, .file ⟨[100, 47, 103]⟩, .file ⟨[102]⟩] := by cbv

end Walk
end Reconcile
