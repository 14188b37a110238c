import Reconcile.Proofs.FileSystem.Respelled
import Reconcile.Proofs.Walk.Yield

/-!
# Walks below two spellings of one root

A walk finds what it finds by paths that are the root and names behind it, and reports the names
alone.  Stripping the root off never fails (`Walk.Strips`), so that no entry is passed over for its
sake.  Two spellings of one root lead to the same directories by the same names, and what is met
there differs in the paths of faults only.  So the walks can be followed side by side
(`Walk.Abreast`): item by item they yield the same files (`Walk.Agree`), unless the path of some
entry is too long in one spelling and not in the other (`Walk.LengthsAgree`).
-/

namespace Reconcile
namespace Walk

/-- The walk below another root. -/
def respell (w : Walk) (root : Path) : Walk := { w with root := root }

/-- From a visit on, no directory and no link has a path that is too long behind the root `q` and
not behind that of the walk, or the other way round. -/
def Visit.LengthsAgree (w : Walk) (q : Path) (v : Visit) : Prop :=
  ∀ ns u n node, w.visit? v ns = some u → u.inner.find? n = some node → node.isFile = false →
    (u.pathOf n).tooLong = (q.descend (u.names ++ [n])).tooLong

/-- The root and `q` are both too long or both not, and so are the paths of all directories and
links that the walk comes to, with `q` for the root. -/
structure LengthsAgree (w : Walk) (q : Path) : Prop where
  root : w.root.tooLong = q.tooLong
  below : ∀ loc inner, w.fs.locate w.root = .ok loc →
    w.fs.node? loc = some (.directory inner) → (w.rootVisit loc inner).LengthsAgree w q

/-- Visits of the walks below two spellings of one root, which came to the same directory on the
same way. -/
structure Abreast (w : Walk) (q : Path) (v v' : Visit) : Prop where
  components : w.root.components = q.components
  lengths : v.LengthsAgree w q
  sound : v.Sound w
  sound' : v'.Sound (w.respell q)
  names : v.names = v'.names
  levels : v.levels.map Level.loc = v'.levels.map Level.loc

variable {w : Walk} {q : Path} {v v' u u' : Visit} {n : Name} {node : Node} {items : List Item}

/-! ## One entry -/

lemma Visit.LengthsAgree.enter (h : v.LengthsAgree w q) (henter : w.enter? v n = some u) :
    u.LengthsAgree w q :=
  fun ns u' m node hvisit => h (n :: ns) u' m node (visit?_cons_eq_some.2 ⟨u, henter, hvisit⟩)

namespace Abreast

section

variable (h : w.Abreast q v v')

include h

lemma here_loc : v.here.loc = v'.here.loc := (List.cons.inj h.levels).1

lemma inner_eq : v.inner = v'.inner := by
  have hnode := h.sound'.node
  rw [← h.here_loc] at hnode
  exact h.sound.inner_eq hnode

/-- The entry is kept by both or left out by both, under the same relative path. -/
lemma kept?_eq (n : Name) :
    w.kept? (v.pathOf n) = (w.respell q).kept? (v'.pathOf n) := by
  apply Option.ext
  intro relative
  have hkept' : (w.respell q).kept? (v'.pathOf n) = some relative ↔
      relative = Path.ofNames (v'.names ++ [n]) ∧
        w.config.ignore.covers (Path.ofNames (v'.names ++ [n])) = false :=
    h.sound'.kept?_pathOf
  rw [h.sound.kept?_pathOf, hkept', h.names]

lemma tooLong_eq (hfind : v.inner.find? n = some node) (hfile : node.isFile = false) :
    (v.pathOf n).tooLong = (v'.pathOf n).tooLong := by
  rw [h.lengths [] v n node rfl hfind hfile, h.sound'.pathOf, h.names]
  rfl

lemma locate_iff (hfind : v.inner.find? n = some node) (hfile : node.isFile = false)
    {loc : Location} :
    w.fs.locate (v.pathOf n) = .ok loc ↔ w.fs.locate (v'.pathOf n) = .ok loc := by
  have hlong := h.tooLong_eq hfind hfile
  have hpath' : v'.pathOf n = q.descend (v.names ++ [n]) := by
    rw [h.names]
    exact h.sound'.pathOf n
  rw [h.sound.pathOf, hpath'] at hlong ⊢
  exact FileSystem.locate_descend_congr h.components (by simp) hlong

/-- The walks are in the same directories. -/
lemma isSome_find?_levels (loc : Location) :
    (v.levels.find? fun level => level.loc = loc).isSome =
      (v'.levels.find? fun level => level.loc = loc).isSome := by
  have hany : ∀ levels : List Level, (levels.find? fun level => level.loc = loc).isSome =
      (levels.map Level.loc).any fun loc' => loc' = loc := by
    intro levels
    rw [Bool.eq_iff_iff, List.find?_isSome, List.any_map, List.any_eq_true]
    rfl
  rw [hany, hany, h.levels]

/-- A link is located at the same place for both walks, which treat it in the same way. -/
lemma meets?_link_eq {target : Path} (hfind : v.inner.find? n = some (.link target)) :
    (w.meets? v n).map Item.file? = ((w.respell q).meets? v' n).map Item.file? := by
  have hlocate : ∀ {loc}, w.fs.locate (v.pathOf n) = .ok loc ↔
      w.fs.locate (v'.pathOf n) = .ok loc := h.locate_iff hfind rfl
  rw [meets?, meets?, ← h.inner_eq, ← h.kept?_eq, hfind]
  by_cases hfollow : w.config.followLinks = true
  · simp only [respell, hfollow, if_true]
    cases hv : w.fs.locate (v.pathOf n) with
    | error fault =>
      cases hv' : w.fs.locate (v'.pathOf n) with
      | error fault' => rfl
      | ok loc =>
        rw [hlocate.2 hv'] at hv
        cases hv
    | ok loc =>
      rw [hlocate.1 hv]
      dsimp only
      split
      · have hloop := h.isSome_find?_levels loc
        cases hfound : v.levels.find? fun level => level.loc = loc <;>
          cases hfound' : v'.levels.find? fun level => level.loc = loc <;>
          simp_all [Item.file?]
      · rfl
  · have hdirectory : w.fs.isDirectoryAt (v.pathOf n) = w.fs.isDirectoryAt (v'.pathOf n) := by
      rw [Bool.eq_iff_iff, FileSystem.isDirectoryAt_iff, FileSystem.isDirectoryAt_iff]
      simp only [hlocate]
    simp only [respell, hfollow, hdirectory, Bool.false_eq_true, if_false]
    rfl

/-- What the entry gives by itself is the same file for both walks, or a fault for both, or
nothing. -/
theorem meets?_eq (n : Name) :
    (w.meets? v n).map Item.file? = ((w.respell q).meets? v' n).map Item.file? := by
  cases hfind : v.inner.find? n with
  | none => rw [meets?, meets?, ← h.inner_eq, hfind]
  | some node =>
    cases node with
    | file content => rw [meets?, meets?, ← h.inner_eq, ← h.kept?_eq, hfind]
    | link target => exact h.meets?_link_eq hfind
    | directory inner =>
      rw [meets?, meets?, ← h.inner_eq, ← h.kept?_eq, hfind]
      dsimp only
      rw [← h.tooLong_eq hfind rfl]
      split
      · rw [Option.map_map, Option.map_map]
        rfl
      · rfl

lemma forall_levels_iff {loc : Location} :
    (∀ level ∈ v.levels, level.loc ≠ loc) ↔ ∀ level ∈ v'.levels, level.loc ≠ loc := by
  have hnotMem : ∀ levels : List Level,
      (∀ level ∈ levels, level.loc ≠ loc) ↔ loc ∉ levels.map Level.loc := by
    simp
  rw [hnotMem, hnotMem, h.levels]

/-- An entry leads into a directory on the same conditions. -/
lemma entered_iff {loc : Location} {inner : Listing} :
    ((v.inner.find? n = some (.directory inner) ∧ (v.pathOf n).tooLong = false ∧
        loc = v.here.loc ++ [n]) ∨
      (w.config.followLinks = true ∧ (∃ target, v.inner.find? n = some (.link target)) ∧
        w.fs.locate (v.pathOf n) = .ok loc ∧ w.fs.node? loc = some (.directory inner) ∧
        ∀ level ∈ v.levels, level.loc ≠ loc)) ↔
      ((v'.inner.find? n = some (.directory inner) ∧ (v'.pathOf n).tooLong = false ∧
          loc = v'.here.loc ++ [n]) ∨
        (w.config.followLinks = true ∧ (∃ target, v'.inner.find? n = some (.link target)) ∧
          w.fs.locate (v'.pathOf n) = .ok loc ∧ w.fs.node? loc = some (.directory inner) ∧
          ∀ level ∈ v'.levels, level.loc ≠ loc)) := by
  rw [← h.inner_eq, ← h.here_loc, ← h.forall_levels_iff]
  refine or_congr (and_congr_right fun hfind => ?_)
    (and_congr_right fun _ => and_congr_right fun ⟨target, hfind⟩ => ?_)
  · rw [h.tooLong_eq hfind rfl]
  · rw [h.locate_iff hfind rfl]

/-- What one walk enters the other enters. -/
lemma enter (henter : w.enter? v n = some u) :
    ∃ u', (w.respell q).enter? v' n = some u' ∧ w.Abreast q u u' := by
  obtain ⟨loc, inner, hu, hkept, hentry⟩ := enter?_eq_some_iff.1 henter
  have henter' : (w.respell q).enter? v' n =
      some ⟨v'.names ++ [n], ⟨loc, v'.pathOf n⟩, v'.levels, inner⟩ :=
    enter?_eq_some_iff.2 ⟨loc, inner, rfl, h.kept?_eq n ▸ hkept, h.entered_iff.1 hentry⟩
  refine ⟨_, henter', h.components, h.lengths.enter henter, h.sound.enter henter,
    h.sound'.enter henter', ?_, ?_⟩ <;> rw [hu]
  · simp only [h.names]
  · exact congrArg (loc :: ·) h.levels

/-- What one walk does not enter the other does not enter. -/
lemma enter?_eq_none (henter : w.enter? v n = none) : (w.respell q).enter? v' n = none := by
  cases henter' : (w.respell q).enter? v' n with
  | none => rfl
  | some u' =>
    obtain ⟨loc, inner, -, hkept, hentry⟩ := enter?_eq_some_iff.1 henter'
    rw [← h.kept?_eq n] at hkept
    rw [enter?_eq_some_iff.2 ⟨loc, inner, rfl, hkept, h.entered_iff.2 hentry⟩] at henter
    cases henter

end

end Abreast

/-! ## All items -/

lemma map_inNameOrder {α β : Type} (f : α → β) (branches : List (Name × α)) :
    (inNameOrder branches).map (fun b => (b.1, f b.2)) =
      inNameOrder (branches.map fun b => (b.1, f b.2)) :=
  List.map_mergeSort fun _ _ _ _ => rfl

/-- Branches are put together in the same order, whatever the faults in them are. -/
lemma map_arrange (branches : List (Name × List Item)) :
    (w.arrange branches).map Item.file? =
      (if w.config.sortEntries then inNameOrder (branches.map fun b => (b.1, b.2.map Item.file?))
        else branches.map fun b => (b.1, b.2.map Item.file?)).flatMap Prod.snd := by
  rw [arrange, List.map_flatMap]
  split
  · rw [← map_inNameOrder, List.flatMap_map]
  · rw [List.flatMap_map]

/-- Below visits of the same directory the walks yield the same, item by item. -/
theorem Abreast.itemsOf_eq (h : w.Abreast q v v') :
    (w.itemsOf v).map Item.file? = ((w.respell q).itemsOf v').map Item.file? := by
  induction v using visit_induction (w := w) generalizing v' with
  | step v ih =>
    have hunder : ∀ n, (w.itemsUnder v n).map Item.file? =
        ((w.respell q).itemsUnder v' n).map Item.file? := by
      intro n
      rw [itemsUnder, itemsUnder, List.map_append, List.map_append, ← Option.toList_map,
        ← Option.toList_map, h.meets?_eq]
      congr 1
      cases henter : w.enter? v n with
      | none => rw [h.enter?_eq_none henter]; rfl
      | some u =>
        obtain ⟨u', henter', hu⟩ := h.enter henter
        rw [henter']
        exact ih n u henter hu
    rw [Walk.itemsOf_eq h.sound.distinct, Walk.itemsOf_eq h.sound'.distinct, map_arrange,
      map_arrange, List.map_map, List.map_map, h.inner_eq]
    have hbranches : ((fun b => (b.1, b.2.map Item.file?)) ∘
        fun e : Name × Node => (e.1, w.itemsUnder v e.1)) =
        ((fun b => (b.1, b.2.map Item.file?)) ∘
          fun e : Name × Node => (e.1, (w.respell q).itemsUnder v' e.1)) :=
      funext fun e => Prod.ext rfl (hunder e.1)
    rw [hbranches]
    rfl

/-! ## Whole walks -/

/-- The walks below two roots yield the same files in the same order, and have faults at the same
places in between. -/
structure Agree (fs : FileSystem) (config : Config) (p q : Path) : Prop where
  ok_iff : (∃ items, walk fs config p = .ok items) ↔ ∃ items, walk fs config q = .ok items
  items : ∀ items items', walk fs config p = .ok items → walk fs config q = .ok items' →
    items.map Item.file? = items'.map Item.file?

namespace Agree

variable {fs : FileSystem} {config : Config} {p : Path}

lemma filesOf_eq_of_map {items items' : List Item}
    (h : items.map Item.file? = items'.map Item.file?) : filesOf items = filesOf items' := by
  have hfiles : ∀ items : List Item, filesOf items = (items.map Item.file?).filterMap id := by
    intro items
    rw [List.filterMap_map]
    rfl
  rw [hfiles, hfiles, h]

lemma exists_fault_iff {items : List Item} :
    (∃ f, .fault f ∈ items) ↔ none ∈ items.map Item.file? := by
  rw [List.mem_map]
  constructor
  · rintro ⟨f, hf⟩
    exact ⟨_, hf, rfl⟩
  · rintro ⟨item, hitem, hnone⟩
    cases item with
    | file p => cases hnone
    | fault f => exact ⟨f, hitem⟩

lemma yielded_eq (h : Agree fs config p q) : yielded fs config p = yielded fs config q := by
  cases hp : walk fs config p with
  | ok items =>
    obtain ⟨items', hq⟩ := h.ok_iff.1 ⟨items, hp⟩
    rw [yielded_of_walk hp, yielded_of_walk hq, filesOf_eq_of_map (h.items _ _ hp hq)]
  | error e =>
    cases hq : walk fs config q with
    | ok items' =>
      obtain ⟨items, hp'⟩ := h.ok_iff.2 ⟨items', hq⟩
      rw [hp] at hp'
      cases hp'
    | error e' => rw [yielded, yielded, hp, hq]

lemma symm (h : Agree fs config p q) : Agree fs config q p :=
  ⟨h.ok_iff.symm, fun _ _ hq hp => (h.items _ _ hp hq).symm⟩

lemma faultFree (h : Agree fs config p q) (hfree : FaultFree fs config p) :
    FaultFree fs config q := by
  obtain ⟨items, hp, hnone⟩ := hfree
  obtain ⟨items', hq⟩ := h.ok_iff.1 ⟨items, hp⟩
  refine ⟨items', hq, not_exists.1 ?_⟩
  rw [exists_fault_iff, ← h.items _ _ hp hq, ← exists_fault_iff]
  exact not_exists.2 hnone

lemma faultFree_iff (h : Agree fs config p q) : FaultFree fs config p ↔ FaultFree fs config q :=
  ⟨h.faultFree, h.symm.faultFree⟩

end Agree

/-- **Walks below two spellings of one root agree**, if their paths are not too long. -/
theorem agree_of_components (h : w.root.components = q.components) (hlengths : w.LengthsAgree q) :
    Agree w.fs w.config w.root q := by
  have hroot : ∀ {loc inner}, w.fs.node? loc = some (.directory inner) →
      (w.fs.locate w.root = .ok loc ↔ w.fs.locate q = .ok loc) :=
    fun hnode => FileSystem.locate_congr h hlengths.root hnode
  constructor
  · constructor
    · rintro ⟨items, hwalk⟩
      obtain ⟨loc, inner, hlocate, hnode, -⟩ := walk_eq_ok_iff.1 hwalk
      exact ⟨_, walk_eq_ok_iff.2 ⟨loc, inner, (hroot hnode).1 hlocate, hnode, rfl⟩⟩
    · rintro ⟨items, hwalk⟩
      obtain ⟨loc, inner, hlocate, hnode, -⟩ := walk_eq_ok_iff.1 hwalk
      exact ⟨_, walk_eq_ok_iff.2 ⟨loc, inner, (hroot hnode).2 hlocate, hnode, rfl⟩⟩
  · intro items items' hwalk hwalk'
    obtain ⟨loc, inner, hlocate, hnode, rfl⟩ := walk_eq_ok_iff.1 hwalk
    have hlocate' : (w.respell q).fs.locate (w.respell q).root = .ok loc := (hroot hnode).1 hlocate
    have habreast : w.Abreast q (w.rootVisit loc inner) ((w.respell q).rootVisit loc inner) :=
      ⟨h, hlengths.below loc inner hlocate hnode, sound_rootVisit hlocate hnode,
        sound_rootVisit hlocate' hnode, rfl, rfl⟩
    have hwalk'' : walk w.fs w.config q = .ok ((w.respell q).itemsOf
        ((w.respell q).rootVisit loc inner)) :=
      walk_eq_ok_iff.2 ⟨loc, inner, hlocate', hnode, rfl⟩
    rw [hwalk', Except.ok.injEq] at hwalk''
    rw [hwalk'']
    exact habreast.itemsOf_eq

end Walk
end Reconcile
