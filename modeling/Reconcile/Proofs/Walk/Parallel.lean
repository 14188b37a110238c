import Reconcile.Proofs.FileSystem.Alike
import Reconcile.Proofs.Walk.Yield

/-!
# Two walks that go the same way

Two walks are parallel if they begin at the same path, treat links in the same way and go through
trees that are alike; they may leave out different things (`Walk.Parallel`).  What is met at an
entry depends on what stands there and on the levels around it, not on the order of entries.  So the
walks can be followed side by side (`Walk.Beside`), as far as both keep the entries, and what one
of them yields the other yields if it keeps it (`Walk.Parallel.mem_yielded`).

Of a walk that leaves out whatever the other leaves out (`Walk.Narrows`) the two theorems at the end
say more: it yields just the files of the other that it keeps, and has no fault where the other has
none.  With nothing left out by the other this is about ignore rules; with the same left
out by both it is about the order of entries.
-/

namespace Reconcile
namespace Walk

/-- The walks go the same way, except that each leaves out what it is told to. -/
structure Parallel (w w' : Walk) : Prop where
  alike : w.fs.Alike w'.fs
  root : w.root = w'.root
  followLinks : w.config.followLinks = w'.config.followLinks

/-- A visit of each walk, with the same names and levels. -/
structure Beside (w w' : Walk) (v v' : Visit) : Prop where
  sound : v.Sound w
  sound' : v'.Sound w'
  names : v.names = v'.names
  here : v.here = v'.here
  above : v.above = v'.above

variable {w w' : Walk} {v v' u : Visit} {ns : List Name} {n : Name} {items : List Item}

lemma Parallel.symm (h : w.Parallel w') : w'.Parallel w :=
  ⟨h.alike.symm, h.root.symm, h.followLinks.symm⟩

/-! ## What stands at an entry -/

lemma Visit.Sound.node?_entry (h : v.Sound w) (n : Name) :
    w.fs.node? (v.here.loc ++ [n]) = v.inner.find? n := by
  rw [FileSystem.node?, Listing.lookup_append h.node, Listing.lookup_singleton]

namespace Beside

lemma symm (h : w.Beside w' v v') : w'.Beside w v' v :=
  ⟨h.sound', h.sound, h.names.symm, h.here.symm, h.above.symm⟩

lemma pathOf_eq (h : w.Beside w' v v') (n : Name) : v.pathOf n = v'.pathOf n := by
  rw [Visit.pathOf, Visit.pathOf, h.here]

lemma levels_eq (h : w.Beside w' v v') : v.levels = v'.levels := by
  rw [Visit.levels, Visit.levels, h.here, h.above]

section Entries

variable (h : w.Beside w' v v') (halike : w.fs.Alike w'.fs)

include h halike

lemma file_iff {content : Bytes} :
    v.inner.find? n = some (.file content) ↔ v'.inner.find? n = some (.file content) := by
  rw [← h.sound.node?_entry, ← h.sound'.node?_entry, h.here]
  exact halike.file_iff

lemma link_iff {target : Path} :
    v.inner.find? n = some (.link target) ↔ v'.inner.find? n = some (.link target) := by
  rw [← h.sound.node?_entry, ← h.sound'.node?_entry, h.here]
  exact halike.link_iff

lemma directory_iff :
    (∃ inner, v.inner.find? n = some (.directory inner)) ↔
      ∃ inner, v'.inner.find? n = some (.directory inner) := by
  rw [← h.sound.node?_entry, ← h.sound'.node?_entry, h.here]
  exact halike.directory_iff

end Entries

end Beside

/-! ## One entry -/

namespace Parallel

variable (h : w.Parallel w') (hv : w.Beside w' v v')

include h hv

/-- What one walk enters the other enters if it keeps it. -/
lemma enter (hkept : w'.config.ignore.covers (Path.ofNames (v'.names ++ [n])) = false)
    (henter : w.enter? v n = some u) : ∃ u', w'.enter? v' n = some u' ∧ w.Beside w' u u' := by
  obtain ⟨loc, inner, hu, -, hentry⟩ := enter?_eq_some_iff.1 henter
  have hkept' : (w'.kept? (v'.pathOf n)).isSome := hv.sound'.isSome_kept?.2 hkept
  have hnext : ∃ inner', w'.enter? v' n =
      some ⟨v'.names ++ [n], ⟨loc, v'.pathOf n⟩, v'.levels, inner'⟩ := by
    rcases hentry with ⟨hfind, hlong, hloc⟩ | ⟨hfollow, ⟨target, hfind⟩, hlocate, hnode, hnew⟩
    · obtain ⟨inner', hfind'⟩ := (hv.directory_iff h.alike).1 ⟨inner, hfind⟩
      rw [hv.pathOf_eq] at hlong
      rw [hv.here] at hloc
      refine ⟨inner', enter?_eq_some_iff.2 ⟨loc, inner', rfl, hkept', Or.inl ?_⟩⟩
      exact ⟨hfind', hlong, hloc⟩
    · obtain ⟨inner', hnode'⟩ := h.alike.directory_iff.1 ⟨inner, hnode⟩
      have hfind' : v'.inner.find? n = some (.link target) := (hv.link_iff h.alike).1 hfind
      rw [hv.pathOf_eq, h.alike.locate_iff] at hlocate
      rw [hv.levels_eq] at hnew
      rw [h.followLinks] at hfollow
      refine ⟨inner', enter?_eq_some_iff.2 ⟨loc, inner', rfl, hkept', Or.inr ?_⟩⟩
      exact ⟨hfollow, ⟨target, hfind'⟩, hlocate, hnode', hnew⟩
  obtain ⟨inner', henter'⟩ := hnext
  refine ⟨_, henter', hv.sound.enter henter, hv.sound'.enter henter', ?_, ?_, ?_⟩ <;> rw [hu]
  · simp only [hv.names]
  · simp only [hv.pathOf_eq n]
  · simp only [hv.levels_eq]

/-- What one walk yields at an entry the other yields if it keeps it. -/
lemma meets?_file (hkept : w'.config.ignore.covers (Path.ofNames (v'.names ++ [n])) = false)
    {p : Path} (hmeets : w.meets? v n = some (.file p)) : w'.meets? v' n = some (.file p) := by
  obtain ⟨hp, hentry⟩ := meets?_eq_file_iff.1 hmeets
  obtain ⟨rfl, -⟩ := hv.sound.kept?_pathOf.1 hp
  rw [hv.names]
  refine meets?_eq_file_iff.2 ⟨hv.sound'.kept?_pathOf.2 ⟨rfl, hkept⟩, ?_⟩
  rcases hentry with ⟨content, hfind⟩ | ⟨target, hfind, hlink⟩
  · exact Or.inl ⟨content, (hv.file_iff h.alike).1 hfind⟩
  · refine Or.inr ⟨target, (hv.link_iff h.alike).1 hfind, ?_⟩
    rw [h.followLinks, hv.pathOf_eq] at hlink
    rcases hlink with ⟨hfollow, loc, hlocate, hnode⟩ | ⟨hfollow, hdirectory⟩
    · refine Or.inl ⟨hfollow, loc, h.alike.locate_iff.1 hlocate, ?_⟩
      intro inner hinner
      obtain ⟨inner', hinner'⟩ := h.alike.directory_iff.2 ⟨inner, hinner⟩
      exact hnode inner' hinner'
    · rw [h.alike.isDirectoryAt_eq] at hdirectory
      exact Or.inr ⟨hfollow, hdirectory⟩

/-- Where one walk has a fault the other has one, unless it leaves out more.  It need not
be the same fault: how a link fails to be located may depend on the order of entries. -/
lemma exists_fault
    (hkept : w.config.ignore.covers (Path.ofNames (v.names ++ [n])) = false →
      w'.config.ignore.covers (Path.ofNames (v'.names ++ [n])) = false)
    {f : WalkFault} (hmeets : w.meets? v n = some (.fault f)) :
    ∃ f', w'.meets? v' n = some (.fault f') := by
  rcases meets?_eq_fault_iff.1 hmeets with ⟨hdirectory, hsome, hlong, -⟩ |
    ⟨⟨target, hfind⟩, hfollow, hlink⟩
  · have hsome' : (w'.kept? (v'.pathOf n)).isSome :=
      hv.sound'.isSome_kept?.2 (hkept (hv.sound.isSome_kept?.1 hsome))
    have hdirectory' : ∃ inner, v'.inner.find? n = some (.directory inner) :=
      (hv.directory_iff h.alike).1 hdirectory
    rw [hv.pathOf_eq] at hlong
    exact ⟨_, meets?_eq_fault_iff.2 (Or.inl ⟨hdirectory', hsome', hlong, rfl⟩)⟩
  · have hfind' : v'.inner.find? n = some (.link target) := (hv.link_iff h.alike).1 hfind
    rw [h.followLinks] at hfollow
    rw [hv.pathOf_eq] at hlink
    rcases hlink with ⟨fault, hlocate, -⟩ | ⟨loc, inner, level, hlocate, hnode, hlevel, -⟩
    · obtain ⟨fault', hlocate'⟩ := h.alike.exists_error_iff.1 ⟨fault, hlocate⟩
      exact ⟨_, meets?_eq_fault_iff.2
        (Or.inr ⟨⟨target, hfind'⟩, hfollow, Or.inl ⟨fault', hlocate', rfl⟩⟩)⟩
    · obtain ⟨inner', hnode'⟩ := h.alike.directory_iff.1 ⟨inner, hnode⟩
      have hlocate' : w'.fs.locate (v'.pathOf n) = .ok loc := h.alike.locate_iff.1 hlocate
      rw [hv.levels_eq] at hlevel
      exact ⟨_, meets?_eq_fault_iff.2 (Or.inr ⟨⟨target, hfind'⟩, hfollow,
        Or.inr ⟨loc, inner', level, hlocate', hnode', hlevel, rfl⟩⟩)⟩

/-! ## The whole walk -/

/-- The visits of one walk are beside visits of the other, if that keeps what is on the way. -/
lemma visit (hnil : v.names = []) (hkeeps : w'.config.ignore.Keeps ns)
    (hvisit : w.visit? v ns = some u) : ∃ u', w'.visit? v' ns = some u' ∧ w.Beside w' u u' := by
  induction ns using List.reverseRecOn generalizing u with
  | nil =>
    rw [visit?_nil, Option.some.injEq] at hvisit
    subst hvisit
    exact ⟨v', rfl, hv⟩
  | append_singleton ns n ih =>
    obtain ⟨hkeeps', hkept⟩ := Ignore.keeps_concat.1 hkeeps
    obtain ⟨u₁, hvisit₁, henter⟩ := visit?_concat_eq_some.1 hvisit
    obtain ⟨u₁', hvisit₁', hu₁⟩ := ih hkeeps' hvisit₁
    obtain ⟨-, hnames⟩ := hv.sound.visit_root hnil hvisit₁
    rw [← hnames, hu₁.names] at hkept
    obtain ⟨u', henter', hu⟩ := h.enter hu₁ hkept henter
    exact ⟨u', visit?_concat_eq_some.2 ⟨u₁', hvisit₁', henter'⟩, hu⟩

end Parallel

/-- Two parallel walks begin beside each other. -/
lemma Parallel.exists_walk (h : w.Parallel w')
    (hwalk : Reconcile.walk w.fs w.config w.root = .ok items) :
    ∃ v v', v.names = [] ∧ items = w.itemsOf v ∧
      Reconcile.walk w'.fs w'.config w'.root = .ok (w'.itemsOf v') ∧ w.Beside w' v v' := by
  obtain ⟨loc, inner, hlocate, hnode, rfl⟩ := walk_eq_ok_iff.1 hwalk
  obtain ⟨inner', hnode'⟩ := h.alike.directory_iff.1 ⟨inner, hnode⟩
  have hlocate' := h.alike.locate_iff.1 hlocate
  rw [h.root] at hlocate'
  refine ⟨w.rootVisit loc inner, w'.rootVisit loc inner', rfl, rfl,
    walk_eq_ok_iff.2 ⟨loc, inner', hlocate', hnode', rfl⟩, ?_⟩
  exact ⟨sound_rootVisit hlocate hnode, sound_rootVisit hlocate' hnode', rfl,
    by simp only [rootVisit, h.root], rfl⟩

/-- What one walk yields the other yields if it keeps it. -/
theorem Parallel.mem_yielded (h : w.Parallel w') (hkeeps : w'.config.ignore.Keeps ns)
    (hp : Path.ofNames ns ∈ yielded w.fs w.config w.root) :
    Path.ofNames ns ∈ yielded w'.fs w'.config w'.root := by
  obtain ⟨items, hwalk, hp⟩ := exists_walk_of_mem_yielded hp
  obtain ⟨v, v', hnil, rfl, hwalk', hv⟩ := h.exists_walk hwalk
  obtain ⟨ms, n, u, hvisit, hmeets⟩ := (mem_itemsOf_iff hv.sound).1 (mem_filesOf.1 hp)
  obtain ⟨hsound, hnames⟩ := hv.sound.visit_root hnil hvisit
  -- The names of the file are those of its directory and its own.
  obtain ⟨hpath, -⟩ := hsound.kept?_pathOf.1 (meets?_eq_file_iff.1 hmeets).1
  rw [hnames] at hpath
  obtain rfl := Path.ofNames_injective hpath
  obtain ⟨hkeeps', hkept⟩ := Ignore.keeps_concat.1 hkeeps
  obtain ⟨u', hvisit', hu⟩ := h.visit hv hnil hkeeps' hvisit
  rw [← hnames, hu.names] at hkept
  have hmeets' : w'.meets? u' n = some (.file (Path.ofNames (ms ++ [n]))) :=
    h.meets?_file hu hkept hmeets
  rw [yielded_of_walk hwalk', mem_filesOf]
  exact (mem_itemsOf_iff hv.sound').2 ⟨ms, n, u', hvisit', hmeets'⟩

/-! ## A walk that leaves out more -/

/-- The walk `w` goes the same way as `w'`, and leaves out whatever `w'` leaves out. -/
structure Narrows (w w' : Walk) : Prop extends Parallel w w' where
  covers : ∀ p, w'.config.ignore.covers p = true → w.config.ignore.covers p = true

namespace Narrows

lemma covers_eq_false (h : w.Narrows w') {p : Path} (hkept : w.config.ignore.covers p = false) :
    w'.config.ignore.covers p = false := by
  rw [← Bool.not_eq_true] at hkept ⊢
  exact mt (h.covers p) hkept

lemma keeps (h : w.Narrows w') (hkeeps : w.config.ignore.Keeps ns) :
    w'.config.ignore.Keeps ns :=
  fun ms hne hpre => h.covers_eq_false (hkeeps ms hne hpre)

/-- A walk that leaves out more yields the files of the other that it keeps. -/
theorem mem_yielded_iff (h : w.Narrows w') :
    Path.ofNames ns ∈ yielded w.fs w.config w.root ↔
      Path.ofNames ns ∈ yielded w'.fs w'.config w'.root ∧ w.config.ignore.Keeps ns := by
  constructor
  · intro hp
    have hkeeps : w.config.ignore.Keeps ns := keeps_of_mem_yielded hp
    exact ⟨h.toParallel.mem_yielded (h.keeps hkeeps) hp, hkeeps⟩
  · rintro ⟨hp, hkeeps⟩
    exact h.toParallel.symm.mem_yielded hkeeps hp

/-- A walk that leaves out more has no fault where the other has none. -/
theorem faultFree (h : w.Narrows w') (hfree : FaultFree w'.fs w'.config w'.root) :
    FaultFree w.fs w.config w.root := by
  obtain ⟨items', hwalk', hnone⟩ := hfree
  obtain ⟨v', v, hnil, rfl, hwalk, hv⟩ := h.toParallel.symm.exists_walk hwalk'
  refine ⟨_, hwalk, fun f hf => ?_⟩
  obtain ⟨ns, n, u, hvisit, hmeets⟩ := (mem_itemsOf_iff hv.sound').1 hf
  rw [hv.names] at hnil
  have hkeeps : w'.config.ignore.Keeps ns := h.keeps (keeps_of_visit? hv.sound' hnil hvisit)
  obtain ⟨u', hvisit', hu⟩ := h.toParallel.visit hv.symm hnil hkeeps hvisit
  have hkept : w.config.ignore.covers (Path.ofNames (u.names ++ [n])) = false →
      w'.config.ignore.covers (Path.ofNames (u'.names ++ [n])) = false := by
    intro hkept
    rw [← hu.names]
    exact h.covers_eq_false hkept
  obtain ⟨f', hmeets'⟩ := h.toParallel.exists_fault hu hkept hmeets
  exact hnone f' ((mem_itemsOf_iff hv.sound).2 ⟨ns, n, u', hvisit', hmeets'⟩)

end Narrows
end Walk
end Reconcile
