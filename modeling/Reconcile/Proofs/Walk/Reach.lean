import Mathlib.Data.Set.Finite.Lattice
import Reconcile.Proofs.Walk.Visit

/-!
# What a walk reaches

From the root, each list of names leads to at most one visit (`Walk.visit?`).  A visit is `Sound`:
its path is the root followed by its names, and is located at the directory that the visit is in.
The items of a walk are those that the entries of its visits give (`Walk.mem_itemsOf_iff`), and
there are finitely many visits (`Walk.finite_visits`).
-/

namespace Reconcile
namespace Walk

variable {w : Walk} {v v' : Visit} {n : Name}

/-- The visit to which the names lead from another one. -/
def visit? (w : Walk) (v : Visit) (ns : List Name) : Option Visit := ns.foldlM w.enter? v

@[simp] lemma visit?_nil (v : Visit) : w.visit? v [] = some v := rfl

lemma visit?_cons_eq_some {ns : List Name} {v'' : Visit} :
    w.visit? v (n :: ns) = some v'' ↔
      ∃ v', w.enter? v n = some v' ∧ w.visit? v' ns = some v'' :=
  Option.bind_eq_some_iff

lemma visit?_concat_eq_some {ns : List Name} {v'' : Visit} :
    w.visit? v (ns ++ [n]) = some v'' ↔
      ∃ v', w.visit? v ns = some v' ∧ w.enter? v' n = some v'' := by
  rw [visit?, List.foldlM_append]
  refine Option.bind_eq_some_iff.trans (exists_congr fun v' => and_congr_right fun _ => ?_)
  exact ⟨fun h => by simpa using h, fun h => by simpa using h⟩

/-- A visit that the names and levels describe rightly. -/
structure Visit.Sound (w : Walk) (v : Visit) : Prop where
  root : w.root.bytes ≠ []
  path : v.here.path = w.root.descend v.names
  node : w.fs.node? v.here.loc = some (.directory v.inner)
  located : w.fs.locate v.here.path = .ok v.here.loc

namespace Visit.Sound

lemma inner_eq (h : v.Sound w) {inner : Listing}
    (hnode : w.fs.node? v.here.loc = some (.directory inner)) : v.inner = inner :=
  Node.directory.inj (Option.some.inj (h.node.symm.trans hnode))

lemma distinct (h : v.Sound w) : v.inner.Distinct :=
  Listing.distinct_of_lookup w.fs.distinct h.node

lemma pathOf (h : v.Sound w) (n : Name) : v.pathOf n = w.root.descend (v.names ++ [n]) := by
  rw [Visit.pathOf, h.path, Path.descend_concat]

/-- The names below the root are the relative path, unless they are left out. -/
lemma kept?_pathOf (h : v.Sound w) {n : Name} {relative : Path} :
    w.kept? (v.pathOf n) = some relative ↔
      relative = Path.ofNames (v.names ++ [n]) ∧
        w.config.ignore.covers (Path.ofNames (v.names ++ [n])) = false := by
  rw [kept?, h.pathOf, Path.relativeTo?_descend h.root (by simp), Option.filter_eq_some_iff]
  simp only [Option.some.injEq, Bool.not_eq_true']
  constructor
  · rintro ⟨rfl, hcovers⟩
    exact ⟨rfl, hcovers⟩
  · rintro ⟨rfl, hcovers⟩
    exact ⟨rfl, hcovers⟩

lemma isSome_kept? (h : v.Sound w) {n : Name} :
    (w.kept? (v.pathOf n)).isSome ↔
      w.config.ignore.covers (Path.ofNames (v.names ++ [n])) = false := by
  rw [Option.isSome_iff_exists]
  simp only [h.kept?_pathOf, exists_eq_left]

/-- Where the path of the directory and the name of an entry lead, the path of the entry leads. -/
lemma leads_pathOf (h : v.Sound w) {n : Name} {k : Nat} {loc : Location}
    (hn : FileSystem.Leads w.fs.top k v.here.loc [.enter n] loc) :
    ∃ k, FileSystem.Leads w.fs.top k (FileSystem.startOf (v.pathOf n) w.fs.current)
      (v.pathOf n).steps loc := by
  obtain ⟨-, hne, -, j, -, hleads⟩ := FileSystem.locate_eq_ok_iff.1 h.located
  refine ⟨j + k, ?_⟩
  rw [FileSystem.startOf, Visit.pathOf, Path.isAbsolute_child hne, Path.steps_child]
  exact hleads.openSteps.append hn

/-- An entry is located where its name leads from the directory, if at all. -/
lemma eq_of_locate (h : v.Sound w) {n : Name} {k : Nat} {loc loc' : Location}
    (hn : FileSystem.Leads w.fs.top k v.here.loc [.enter n] loc)
    (hlocate : w.fs.locate (v.pathOf n) = .ok loc') : loc' = loc := by
  obtain ⟨-, -, -, j, -, hleads'⟩ := FileSystem.locate_eq_ok_iff.1 hlocate
  obtain ⟨j', hleads⟩ := h.leads_pathOf hn
  exact (hleads'.unique hleads).1

/-- What is entered from a sound visit is sound. -/
theorem enter (h : v.Sound w) (henter : w.enter? v n = some v') : v'.Sound w := by
  obtain ⟨loc, inner, rfl, -, ⟨hfind, hlong, rfl⟩ | ⟨-, -, hlocate, hnode, -⟩⟩ :=
    enter?_eq_some_iff.1 henter
  · have hnode : w.fs.node? (v.here.loc ++ [n]) = some (.directory inner) :=
      Listing.lookup_concat.2 ⟨_, h.node, hfind⟩
    have hlocate : w.fs.locate (v.here.path.descend [n]) = .ok (v.here.loc ++ [n]) :=
      FileSystem.locate_below h.located h.node hnode rfl hlong
    exact ⟨h.root, h.pathOf n, hnode, hlocate⟩
  · exact ⟨h.root, h.pathOf n, hnode, hlocate⟩

theorem visit {ns : List Name} (h : v.Sound w) (hvisit : w.visit? v ns = some v') :
    v'.Sound w ∧ v'.names = v.names ++ ns := by
  induction ns generalizing v with
  | nil =>
    rw [visit?_nil, Option.some.injEq] at hvisit
    exact ⟨hvisit ▸ h, by rw [hvisit, List.append_nil]⟩
  | cons n ns ih =>
    obtain ⟨v'', henter, hvisit⟩ := visit?_cons_eq_some.1 hvisit
    obtain ⟨hsound, hnames⟩ := ih (h.enter henter) hvisit
    refine ⟨hsound, ?_⟩
    obtain ⟨loc, inner, rfl, -⟩ := enter?_eq_some_iff.1 henter
    rw [hnames, List.append_assoc]
    rfl

/-- From the root, the names of a visit are those that lead there. -/
lemma visit_root {ns : List Name} (h : v.Sound w) (hnil : v.names = [])
    (hvisit : w.visit? v ns = some v') : v'.Sound w ∧ v'.names = ns := by
  obtain ⟨hsound, hnames⟩ := h.visit hvisit
  rw [hnil, List.nil_append] at hnames
  exact ⟨hsound, hnames⟩

end Visit.Sound

/-! ## Items -/

lemma mem_arrange {branches : List (Name × List Item)} {item : Item} :
    item ∈ w.arrange branches ↔ ∃ branch ∈ branches, item ∈ branch.2 := by
  rw [arrange, List.mem_flatMap]
  split
  · simp [inNameOrder, List.mem_mergeSort]
  · rfl

lemma find?_of_itemsUnder {item : Item} (h : item ∈ w.itemsUnder v n) :
    ∃ node, v.inner.find? n = some node := by
  cases hfind : v.inner.find? n with
  | some node => exact ⟨node, rfl⟩
  | none => simp [itemsUnder, meets?, enter?, hfind] at h

/-- The items below a visit are those under its names. -/
lemma mem_itemsOf (h : v.Sound w) {item : Item} :
    item ∈ w.itemsOf v ↔ ∃ n, item ∈ w.itemsUnder v n := by
  rw [itemsOf_eq h.distinct, mem_arrange]
  constructor
  · rintro ⟨branch, hbranch, hitem⟩
    obtain ⟨e, -, rfl⟩ := List.mem_map.1 hbranch
    exact ⟨e.1, hitem⟩
  · rintro ⟨n, hitem⟩
    obtain ⟨node, hfind⟩ := find?_of_itemsUnder hitem
    exact ⟨_, List.mem_map.2 ⟨(n, node), Listing.mem_toList_of_find? hfind, rfl⟩, hitem⟩

lemma mem_itemsUnder {item : Item} :
    item ∈ w.itemsUnder v n ↔
      w.meets? v n = some item ∨ ∃ v', w.enter? v n = some v' ∧ item ∈ w.itemsOf v' := by
  rw [itemsUnder, List.mem_append, Option.mem_toList]
  cases w.enter? v n <;> simp

/-- The items below a visit are those that the entries of the visits below it give. -/
theorem mem_itemsOf_iff (h : v.Sound w) {item : Item} :
    item ∈ w.itemsOf v ↔
      ∃ ns n v', w.visit? v ns = some v' ∧ w.meets? v' n = some item := by
  induction v using visit_induction (w := w) with
  | step v ih =>
    rw [mem_itemsOf h]
    constructor
    · rintro ⟨n, hitem⟩
      rcases mem_itemsUnder.1 hitem with hmeets | ⟨v', henter, hitem⟩
      · exact ⟨[], n, v, rfl, hmeets⟩
      · obtain ⟨ns, m, v'', hvisit, hmeets⟩ := (ih n v' henter (h.enter henter)).1 hitem
        exact ⟨n :: ns, m, v'', visit?_cons_eq_some.2 ⟨v', henter, hvisit⟩, hmeets⟩
    · rintro ⟨ns, m, v'', hvisit, hmeets⟩
      cases ns with
      | nil =>
        rw [visit?_nil, Option.some.injEq] at hvisit
        exact ⟨m, mem_itemsUnder.2 (Or.inl (hvisit ▸ hmeets))⟩
      | cons n ns =>
        obtain ⟨v', henter, hvisit⟩ := visit?_cons_eq_some.1 hvisit
        exact ⟨n, mem_itemsUnder.2 (Or.inr ⟨v', henter,
          (ih n v' henter (h.enter henter)).2 ⟨ns, m, v'', hvisit, hmeets⟩⟩)⟩

/-- Only finitely many lists of names lead to a visit. -/
theorem finite_visits (v : Visit) : {ns | (w.visit? v ns).isSome}.Finite := by
  induction v using visit_induction (w := w) with
  | step v ih =>
    -- Each entry begins finitely many lists, and there are finitely many entries.
    let below (n : Name) : Set (List Name) :=
      {ns | ∃ v', w.enter? v n = some v' ∧ (w.visit? v' ns).isSome}
    have hbelow : ∀ n, (below n).Finite := by
      intro n
      cases henter : w.enter? v n with
      | none => simp [below, henter]
      | some v' => simpa [below, henter] using ih n v' henter
    have hnames : {e | e ∈ v.inner.toList}.Finite := List.finite_toSet _
    refine Set.Finite.subset ((Set.finite_singleton []).union
      (hnames.biUnion fun e _ => (hbelow e.1).image (e.1 :: ·))) ?_
    intro ns hns
    cases ns with
    | nil => exact Or.inl rfl
    | cons n ns =>
      obtain ⟨v'', hvisit⟩ := Option.isSome_iff_exists.1 hns
      obtain ⟨v', henter, hvisit⟩ := visit?_cons_eq_some.1 hvisit
      obtain ⟨node, hfind⟩ : ∃ node, v.inner.find? n = some node := by
        obtain ⟨loc, inner, -, -, ⟨hfind, -, -⟩ | ⟨-, ⟨target, hfind⟩, -⟩⟩ :=
          enter?_eq_some_iff.1 henter
        · exact ⟨_, hfind⟩
        · exact ⟨_, hfind⟩
      refine Or.inr (Set.mem_biUnion (Listing.mem_toList_of_find? hfind) ⟨ns, ?_, rfl⟩)
      exact ⟨v', henter, by rw [hvisit]; rfl⟩

/-! ## From the root -/

/-- The visit in which a walk begins. -/
def rootVisit (w : Walk) (loc : Location) (inner : Listing) : Visit :=
  ⟨[], ⟨loc, w.root⟩, [], inner⟩

/-- A walk begins in the directory that its root leads to, and yields what is below. -/
theorem walk_eq_ok_iff {fs : FileSystem} {config : Config} {root : Path} {items : List Item} :
    walk fs config root = .ok items ↔
      ∃ loc inner, fs.locate root = .ok loc ∧ fs.node? loc = some (.directory inner) ∧
        items = (⟨fs, config, root⟩ : Walk).itemsOf
          ((⟨fs, config, root⟩ : Walk).rootVisit loc inner) := by
  rw [walk]
  cases hlocate : fs.locate root with
  | error fault => simp
  | ok loc =>
    cases hnode : fs.node? loc with
    | none => simp [hnode]
    | some node =>
      cases node with
      | file content => simp [hnode]
      | link target => simp [hnode]
      | directory inner =>
        simp only [Except.ok.injEq, exists_and_left, exists_eq_left', hnode, Option.some.injEq,
          Node.directory.injEq]
        exact eq_comm

lemma sound_rootVisit {loc : Location} {inner : Listing} (hlocate : w.fs.locate w.root = .ok loc)
    (hnode : w.fs.node? loc = some (.directory inner)) : (w.rootVisit loc inner).Sound w :=
  ⟨FileSystem.locate_ne_nil hlocate, rfl, hnode, hlocate⟩

end Walk
end Reconcile
