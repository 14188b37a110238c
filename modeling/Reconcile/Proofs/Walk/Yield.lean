import Reconcile.Proofs.FileSystem.Read
import Reconcile.Proofs.Walk.Order

/-!
# What a walk yields

`Walk.yielded` are the relative paths that the walk below a root yields and `Walk.FaultFree` says
that it meets no fault.  Whatever the links are and whether they are followed, all the directories
on the way to a visit are kept (`Walk.keeps_of_visit?`), no path is yielded twice and none leads to
a directory (`Walk.isDirectoryAt_of_mem_yielded`), and `listFiles` gives the same paths as a set
(`Walk.listFiles_eq_ok_iff`).
-/

namespace Reconcile

/-- Neither the path through the names nor a path above it is left out. -/
def Ignore.Keeps (ignore : Ignore) (ns : List Name) : Prop :=
  ∀ ms, ms ≠ [] → ms <+: ns → ignore.covers (Path.ofNames ms) = false

namespace Ignore

instance (ignore : Ignore) (ns : List Name) : Decidable (ignore.Keeps ns) :=
  decidable_of_iff (∀ ms ∈ ns.inits, ms ≠ [] → ignore.covers (Path.ofNames ms) = false)
    ⟨fun h ms hne hpre => h ms ((List.mem_inits ms ns).2 hpre) hne,
      fun h ms hms hne => h ms hne ((List.mem_inits ms ns).1 hms)⟩

variable {ignore : Ignore} {ms ns : List Name} {n : Name}

lemma keeps_nil : ignore.Keeps [] := fun _ hne hpre =>
  absurd (List.prefix_nil.1 hpre) hne

lemma Keeps.above (h : ignore.Keeps ns) (hpre : ms <+: ns) : ignore.Keeps ms :=
  fun ks hne hks => h ks hne (hks.trans hpre)

theorem keeps_concat :
    ignore.Keeps (ns ++ [n]) ↔
      ignore.Keeps ns ∧ ignore.covers (Path.ofNames (ns ++ [n])) = false := by
  constructor
  · intro h
    exact ⟨h.above (List.prefix_append _ _), h _ (by simp) (List.prefix_refl _)⟩
  · rintro ⟨hkeeps, hcovers⟩ ms hne hpre
    rcases List.prefix_concat_iff.1 hpre with rfl | hpre
    · exact hcovers
    · exact hkeeps ms hne hpre

/-- Without tests, what is inside of an ignored path is ignored itself. -/
lemma covers_of_above (htests : ignore.tests = []) (hpre : ms <+: ns)
    (hcovers : ignore.covers (Path.ofNames ms) = true) :
    ignore.covers (Path.ofNames ns) = true := by
  simp only [covers, htests, List.any_nil, Bool.or_false, List.any_eq_true, Path.startsWith,
    List.isPrefixOf_iff_prefix, Path.components_ofNames] at hcovers ⊢
  obtain ⟨p, hp, hstarts⟩ := hcovers
  exact ⟨p, hp, hstarts.trans (hpre.map _)⟩

/-- Without tests, a path is kept with all that is above it if it is kept itself. -/
theorem keeps_iff_of_tests_nil (htests : ignore.tests = []) (hne : ns ≠ []) :
    ignore.Keeps ns ↔ ignore.covers (Path.ofNames ns) = false := by
  constructor
  · intro hkeeps
    exact hkeeps ns hne (List.prefix_refl _)
  · intro hkept ms _ hpre
    rw [← Bool.not_eq_true] at hkept ⊢
    exact mt (covers_of_above htests hpre) hkept

end Ignore

lemma checkRoot_eq_ok_iff {fs : FileSystem} {root : Path} :
    checkRoot fs root = .ok () ↔ fs.isDirectoryAt root = true := by
  rw [checkRoot]
  split <;> simp_all

/-- A root that passes the check is located at a directory. -/
lemma exists_directory_of_checkRoot {fs : FileSystem} {root : Path}
    (h : checkRoot fs root = .ok ()) :
    ∃ loc inner, fs.locate root = .ok loc ∧ fs.node? loc = some (.directory inner) :=
  FileSystem.isDirectoryAt_iff.1 (checkRoot_eq_ok_iff.1 h)

/-- A walk fails at once only if its root is no directory. -/
lemma walk_eq_error_iff {fs : FileSystem} {root : Path} {e : DiffError} (config : Config) :
    walk fs config root = .error e ↔ fs.isDirectoryAt root = false ∧ e = .rootNotFound root := by
  cases hwalk : walk fs config root with
  | ok items =>
    obtain ⟨loc, inner, hloc, hinner, -⟩ := Walk.walk_eq_ok_iff.1 hwalk
    simp [FileSystem.isDirectoryAt_iff.2 ⟨loc, inner, hloc, hinner⟩]
  | error e' =>
    have hdirectory : fs.isDirectoryAt root = false := by
      rw [← Bool.not_eq_true, FileSystem.isDirectoryAt_iff]
      rintro ⟨loc, inner, hloc, hinner⟩
      rw [Walk.walk_eq_ok_iff.2 ⟨loc, inner, hloc, hinner, rfl⟩] at hwalk
      cases hwalk
    have herror : e' = .rootNotFound root := by
      rw [walk] at hwalk
      split at hwalk
      · exact (Except.error.inj hwalk).symm
      · split at hwalk
        · cases hwalk
        · exact (Except.error.inj hwalk).symm
    rw [Except.error.injEq, herror, eq_comm]
    simp [hdirectory]

namespace Walk

variable {fs : FileSystem} {config : Config} {root : Path}

/-- The relative paths that the walk below a root yields, in their order. -/
def yielded (fs : FileSystem) (config : Config) (root : Path) : List Path :=
  match walk fs config root with
  | .ok items => filesOf items
  | .error _ => []

/-- The root can be walked, and nothing below it is a fault. -/
def FaultFree (fs : FileSystem) (config : Config) (root : Path) : Prop :=
  ∃ items, walk fs config root = .ok items ∧ ∀ f, .fault f ∉ items

lemma yielded_of_walk {items : List Item} (h : walk fs config root = .ok items) :
    yielded fs config root = filesOf items := by
  rw [yielded, h]

lemma faultFree_iff_of_walk {items : List Item} (h : walk fs config root = .ok items) :
    FaultFree fs config root ↔ ∀ f, .fault f ∉ items := by
  constructor
  · rintro ⟨items', h', hnone⟩
    rw [h, Except.ok.injEq] at h'
    exact h' ▸ hnone
  · intro hnone
    exact ⟨items, h, hnone⟩

lemma exists_walk_of_mem_yielded {p : Path} (hp : p ∈ yielded fs config root) :
    ∃ items, walk fs config root = .ok items ∧ p ∈ filesOf items := by
  cases h : walk fs config root with
  | error e =>
    rw [yielded, h] at hp
    exact absurd hp List.not_mem_nil
  | ok items => exact ⟨items, rfl, yielded_of_walk h ▸ hp⟩

/-- A walk begins in a sound visit. -/
lemma exists_rootVisit {items : List Item} (h : walk fs config root = .ok items) :
    ∃ w v, w = ⟨fs, config, root⟩ ∧ Visit.Sound w v ∧ v.names = [] ∧ items = w.itemsOf v := by
  obtain ⟨loc, inner, hlocate, hnode, rfl⟩ := walk_eq_ok_iff.1 h
  exact ⟨_, _, rfl, sound_rootVisit hlocate hnode, rfl, rfl⟩

lemma pairwise_yielded (fs : FileSystem) (config : Config) (root : Path) :
    (yielded fs config root).Pairwise (⟨fs, config, root⟩ : Walk).Before := by
  cases h : walk fs config root with
  | error e =>
    rw [yielded, h]
    exact List.Pairwise.nil
  | ok items =>
    obtain ⟨w, v, rfl, hsound, -, rfl⟩ := exists_rootVisit h
    rw [yielded_of_walk h]
    exact pairwise_filesOf_itemsOf hsound

/-- No path is yielded twice. -/
theorem nodup_yielded (fs : FileSystem) (config : Config) (root : Path) :
    (yielded fs config root).Nodup := by
  refine (pairwise_yielded fs config root).imp fun hbefore => ?_
  rintro rfl
  exact hbefore.key_ne rfl

/-- A sorted walk yields its paths in strictly increasing order. -/
theorem increasing_yielded (fs : FileSystem) {config : Config} (root : Path)
    (hsort : config.sortEntries = true) :
    (yielded fs config root).Pairwise fun p q => p.key < q.key :=
  (pairwise_yielded fs config root).imp fun hbefore => hbefore.key_lt hsort

/-- What a walk yields are the paths of entries below the root. -/
lemma ofNames_of_mem_yielded {p : Path} (hp : p ∈ yielded fs config root) :
    ∃ ns, ns ≠ [] ∧ p = Path.ofNames ns := by
  obtain ⟨items, hwalk, hp⟩ := exists_walk_of_mem_yielded hp
  obtain ⟨w, v, rfl, hsound, hnil, rfl⟩ := exists_rootVisit hwalk
  obtain ⟨ns, hne, rfl⟩ := file_of_mem_itemsOf hsound (mem_filesOf.1 hp)
  exact ⟨ns, hne, by rw [hnil, List.nil_append]⟩

lemma plain_of_mem_yielded {p : Path} (hp : p ∈ yielded fs config root) : p.Plain := by
  obtain ⟨ns, -, rfl⟩ := ofNames_of_mem_yielded hp
  exact Path.plain_ofNames ns

/-- The files below a root are those that the walk yields, if it meets no fault. -/
theorem listFiles_eq_ok_iff {files : PathSet} :
    listFiles fs config root = .ok files ↔
      FaultFree fs config root ∧ PathSet.Plain files ∧
        ∀ p, p ∈ files.toList ↔ p ∈ yielded fs config root := by
  have hplain : ∀ p ∈ yielded fs config root, p.Plain := fun p => plain_of_mem_yielded
  rw [listFiles]
  cases h : walk fs config root with
  | error e =>
    simp [FaultFree, h]
  | ok items =>
    rw [yielded_of_walk h] at hplain ⊢
    have hcollect : (Item.collect ∅ items).mapError DiffError.walk = .ok files ↔
        (∀ f, .fault f ∉ items) ∧ files = (filesOf items).foldl SortedList.insert ∅ := by
      rw [← Item.collect_eq_ok_iff]
      cases Item.collect ∅ items <;> simp [Except.mapError]
    rw [hcollect, faultFree_iff_of_walk h, eq_foldl_insert_iff hplain]

/-- Without faults the files below the root can be listed. -/
lemma exists_listFiles_of_faultFree (h : FaultFree fs config root) :
    ∃ files, listFiles fs config root = .ok files := by
  obtain ⟨items, hwalk, hnone⟩ := h
  have hcollect := Item.collect_eq_ok_iff.2 ⟨hnone, Eq.refl ((filesOf items).foldl _ ∅)⟩
  exact ⟨_, by rw [listFiles, hwalk]; exact congrArg (Except.mapError DiffError.walk) hcollect⟩

/-- In a sorted walk the files below the root stand in the order in which they are met. -/
theorem listFiles_of_sorted (hsort : config.sortEntries = true)
    (h : FaultFree fs config root) :
    ∃ files, listFiles fs config root = .ok files ∧ files.toList = yielded fs config root := by
  have hincreasing := increasing_yielded fs root hsort
  refine ⟨⟨yielded fs config root, hincreasing⟩, listFiles_eq_ok_iff.2 ⟨h, ?_, ?_⟩, rfl⟩
  · exact fun p => plain_of_mem_yielded
  · exact fun p => Iff.rfl

/-! ## Visits below the root -/

/-- Everything on the way to a visit is kept. -/
lemma keeps_of_visit? {w : Walk} {v v' : Visit} {ns : List Name} (h : v.Sound w)
    (hnil : v.names = []) (hvisit : w.visit? v ns = some v') : w.config.ignore.Keeps ns := by
  induction ns using List.reverseRecOn generalizing v' with
  | nil => exact Ignore.keeps_nil
  | append_singleton ns n ih =>
    obtain ⟨v'', hvisit, henter⟩ := visit?_concat_eq_some.1 hvisit
    obtain ⟨hsound, hnames⟩ := h.visit_root hnil hvisit
    obtain ⟨loc, inner, -, hkept, -⟩ := enter?_eq_some_iff.1 henter
    rw [hsound.isSome_kept?, hnames] at hkept
    exact Ignore.keeps_concat.2 ⟨ih hvisit, hkept⟩

/-- What is yielded is kept, with everything on the way to it. -/
lemma keeps_of_mem_yielded {ns : List Name} (hp : Path.ofNames ns ∈ yielded fs config root) :
    config.ignore.Keeps ns := by
  obtain ⟨items, hwalk, hp⟩ := exists_walk_of_mem_yielded hp
  obtain ⟨w, v, hw, hsound, hnil, rfl⟩ := exists_rootVisit hwalk
  obtain ⟨ms, n, v', hvisit, hmeets⟩ := (mem_itemsOf_iff hsound).1 (mem_filesOf.1 hp)
  obtain ⟨hsound', hnames⟩ := hsound.visit_root hnil hvisit
  obtain ⟨hpath, hkept⟩ := hsound'.kept?_pathOf.1 (meets?_eq_file_iff.1 hmeets).1
  rw [hnames] at hpath hkept
  obtain rfl := Path.ofNames_injective hpath
  have hkeeps := keeps_of_visit? hsound hnil hvisit
  subst hw
  exact Ignore.keeps_concat.2 ⟨hkeeps, hkept⟩

/-- Where an entry is yielded there is no directory, not even behind a link. -/
lemma isDirectoryAt_of_meets? {w : Walk} {v : Visit} {n : Name} {p : Path} (h : v.Sound w)
    (hmeets : w.meets? v n = some (.file p)) : w.fs.isDirectoryAt (v.pathOf n) = false := by
  rw [← Bool.not_eq_true, FileSystem.isDirectoryAt_iff]
  rintro ⟨loc, inner, hlocate, hnode⟩
  rcases (meets?_eq_file_iff.1 hmeets).2 with
    ⟨content, hfind⟩ | ⟨target, hfind, ⟨-, loc', hlocate', hnode'⟩ | ⟨-, hdir⟩⟩
  · rw [h.eq_of_locate (.of_find? h.node hfind rfl) hlocate, FileSystem.node?,
      Listing.lookup_concat.2 ⟨_, h.node, hfind⟩] at hnode
    cases hnode
  · rw [hlocate, Except.ok.injEq] at hlocate'
    exact hnode' inner (hlocate' ▸ hnode)
  · rw [FileSystem.isDirectoryAt_iff.2 ⟨loc, inner, hlocate, hnode⟩] at hdir
    cases hdir

/-- What a walk yields is no directory. -/
theorem isDirectoryAt_of_mem_yielded {p : Path} (hp : p ∈ yielded fs config root) :
    fs.isDirectoryAt (root.join p) = false := by
  obtain ⟨items, hwalk, hp⟩ := exists_walk_of_mem_yielded hp
  obtain ⟨w, v, hw, hsound, hnil, rfl⟩ := exists_rootVisit hwalk
  obtain ⟨ns, n, v', hvisit, hmeets⟩ := (mem_itemsOf_iff hsound).1 (mem_filesOf.1 hp)
  obtain ⟨hsound', -⟩ := hsound.visit hvisit
  obtain ⟨rfl, -⟩ := hsound'.kept?_pathOf.1 (meets?_eq_file_iff.1 hmeets).1
  have hpath := hsound'.pathOf n
  subst hw
  rw [Path.join_ofNames root (by simp), ← hpath]
  exact isDirectoryAt_of_meets? hsound' hmeets

end Walk
end Reconcile
