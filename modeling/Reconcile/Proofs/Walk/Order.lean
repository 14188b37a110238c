import Mathlib.Data.List.Permutation
import Reconcile.Proofs.Path.Set
import Reconcile.Proofs.Walk.Reach

/-!
# The order of a walk

What is under one name of a directory begins with that name, so the files under different names are
different, and in the order of the names if the names are in order.  By induction on the visits, a
walk yields no path twice, and a sorted walk yields its paths in strictly increasing order
(`Walk.pairwise_filesOf_itemsOf`).  Collecting the files gives the set of them
(`Walk.Item.collect_eq_ok_iff`).
-/

namespace Reconcile

/-! ## Names in order -/

lemma Name.le_trans {k m n : Name} (h : k.le m = true) (h' : m.le n = true) : k.le n = true := by
  simp only [Name.le, Bool.not_eq_true', decide_eq_false_iff_not] at h h' ⊢
  intro hlt
  by_cases hmn : m.bytes < n.bytes
  · exact h (TotalOrder.trans hmn hlt)
  · exact h (TotalOrder.connected hmn h' ▸ hlt)

lemma Name.le_total (m n : Name) : (m.le n || n.le m) = true := by
  simp only [Name.le, Bool.or_eq_true, Bool.not_eq_true', decide_eq_false_iff_not]
  by_cases h : n.bytes < m.bytes
  · exact Or.inr fun h' => TotalOrder.irrefl _ (TotalOrder.trans h h')
  · exact Or.inl h

lemma perm_inNameOrder {α : Type} (branches : List (Name × α)) :
    (inNameOrder branches).Perm branches := List.mergeSort_perm _ _

/-- Branches with distinct names are put in the strict order of their names. -/
lemma pairwise_inNameOrder {α : Type} {branches : List (Name × α)}
    (h : branches.Pairwise fun a b => a.1 ≠ b.1) :
    (inNameOrder branches).Pairwise fun a b => a.1.bytes < b.1.bytes := by
  have hne : (inNameOrder branches).Pairwise fun a b => a.1 ≠ b.1 :=
    ((perm_inNameOrder branches).pairwise_iff fun h => h.symm).2 h
  -- Sorting puts the names in their order, which is strict where they are distinct.
  have hle : (inNameOrder branches).Pairwise fun a b => a.1.le b.1 = true := by
    have htrans : ∀ a b c : Name × α, a.1.le b.1 → b.1.le c.1 → a.1.le c.1 :=
      fun _ _ _ => Name.le_trans
    have htotal : ∀ a b : Name × α, (a.1.le b.1 || b.1.le a.1) = true :=
      fun _ _ => Name.le_total _ _
    exact List.pairwise_mergeSort htrans htotal branches
  exact (hle.and hne).imp fun h => Name.lt_of_le_of_ne h.1 h.2

namespace Walk

/-- The file that an item is. -/
def Item.file? : Item → Option Path
  | .file p => some p
  | .fault _ => none

/-- The files among the items. -/
def filesOf (items : List Item) : List Path := items.filterMap Item.file?

lemma filesOf_file (p : Path) (items : List Item) :
    filesOf (.file p :: items) = p :: filesOf items := rfl

lemma filesOf_append (items items' : List Item) :
    filesOf (items ++ items') = filesOf items ++ filesOf items' :=
  List.filterMap_append

lemma filesOf_map_file (ps : List Path) : filesOf (ps.map .file) = ps := by
  rw [filesOf, List.filterMap_map]
  exact List.filterMap_some

lemma mem_filesOf {items : List Item} {p : Path} : p ∈ filesOf items ↔ .file p ∈ items := by
  rw [filesOf, List.mem_filterMap]
  constructor
  · rintro ⟨item, hitem, hfile⟩
    cases item with
    | file q => rwa [← Option.some.inj hfile]
    | fault f => cases hfile
  · intro h
    exact ⟨.file p, h, rfl⟩

variable {w : Walk} {v : Visit} {n : Name} {p : Path}

/-! ## The names in front of a file -/

lemma file_of_mem_itemsOf (h : v.Sound w) (hp : .file p ∈ w.itemsOf v) :
    ∃ ns, ns ≠ [] ∧ p = Path.ofNames (v.names ++ ns) := by
  obtain ⟨ns, m, v', hvisit, hmeets⟩ := (mem_itemsOf_iff h).1 hp
  obtain ⟨hsound, hnames⟩ := h.visit hvisit
  obtain ⟨rfl, -⟩ := hsound.kept?_pathOf.1 (meets?_eq_file_iff.1 hmeets).1
  exact ⟨ns ++ [m], by simp, by rw [hnames, List.append_assoc]⟩

lemma file_of_mem_itemsUnder (h : v.Sound w) (hp : .file p ∈ w.itemsUnder v n) :
    ∃ ns, p = Path.ofNames (v.names ++ n :: ns) := by
  rcases mem_itemsUnder.1 hp with hmeets | ⟨v', henter, hp⟩
  · obtain ⟨rfl, -⟩ := h.kept?_pathOf.1 (meets?_eq_file_iff.1 hmeets).1
    exact ⟨[], rfl⟩
  · obtain ⟨ns, -, rfl⟩ := file_of_mem_itemsOf (h.enter henter) hp
    obtain ⟨loc, inner, rfl, -⟩ := enter?_eq_some_iff.1 henter
    exact ⟨ns, by simp⟩

/-! ## No file twice -/

/-- How two files stand that a walk yields one after the other. -/
def Before (w : Walk) (p q : Path) : Prop :=
  if w.config.sortEntries then p.key < q.key else p.key ≠ q.key

lemma Before.key_ne {q : Path} (h : w.Before p q) : p.key ≠ q.key := by
  rw [Before] at h
  split at h
  · intro heq
    rw [heq] at h
    exact TotalOrder.irrefl _ h
  · exact h

lemma Before.key_lt {q : Path} (h : w.Before p q) (hsort : w.config.sortEntries = true) :
    p.key < q.key := by
  rwa [Before, if_pos hsort] at h

/-- The branches of a directory in the order in which they are put together. -/
def ordered (w : Walk) (branches : List (Name × List Item)) : List (Name × List Item) :=
  if w.config.sortEntries then inNameOrder branches else branches

lemma filesOf_arrange (branches : List (Name × List Item)) :
    filesOf (w.arrange branches) = (w.ordered branches).flatMap fun b => filesOf b.2 := by
  rw [arrange, ordered, filesOf, List.filterMap_flatMap]
  rfl

lemma mem_ordered {branches : List (Name × List Item)} {b : Name × List Item} :
    b ∈ w.ordered branches ↔ b ∈ branches := by
  rw [ordered]
  split
  · exact (perm_inNameOrder branches).mem_iff
  · rfl

/-- Files under different names stand as the names do. -/
lemma before_of_ordered {branches : List (Name × List Item)}
    (h : branches.Pairwise fun a b => a.1 ≠ b.1) (names : List Name) :
    (w.ordered branches).Pairwise fun a b => ∀ ms ns,
      w.Before (Path.ofNames (names ++ a.1 :: ms)) (Path.ofNames (names ++ b.1 :: ns)) := by
  unfold ordered Before
  split
  · exact (pairwise_inNameOrder h).imp fun hlt ms ns => Path.key_lt_of_name_lt names ms ns hlt
  · refine h.imp fun hne ms ns heq => hne ?_
    have hnames := Path.key_ofNames_injective heq
    exact (List.cons.inj (List.append_cancel_left hnames)).1

lemma pairwise_toList (item : Option Item) : item.toList.Pairwise fun _ _ => False := by
  cases item with
  | none => exact List.Pairwise.nil
  | some item => exact List.pairwise_singleton _ _

lemma meets?_of_enter? {v' : Visit} (h : w.enter? v n = some v') : w.meets? v n = none := by
  obtain ⟨loc, inner, -, -, ⟨hfind, hlong, -⟩ | ⟨hfollow, ⟨target, hfind⟩, hlocate, hnode, hnew⟩⟩ :=
    enter?_eq_some_iff.1 h
  · simp [meets?, hfind, hlong]
  · simpa [meets?, hfind, hfollow, hlocate, hnode] using hnew

/-- Below a visit no file is yielded twice, and in a sorted walk they come in order. -/
theorem pairwise_filesOf_itemsOf (h : v.Sound w) : (filesOf (w.itemsOf v)).Pairwise w.Before := by
  induction v using visit_induction (w := w) with
  | step v ih =>
    have hne : (v.inner.toList.map fun e => (e.1, w.itemsUnder v e.1)).Pairwise
        fun a b => a.1 ≠ b.1 :=
      List.pairwise_map.2 (Listing.pairwise_ne_toList h.distinct)
    rw [itemsOf_eq h.distinct, filesOf_arrange, List.pairwise_flatMap]
    have hbranch : ∀ b ∈ w.ordered (v.inner.toList.map fun e => (e.1, w.itemsUnder v e.1)),
        ∃ n, b = (n, w.itemsUnder v n) := by
      intro b hb
      obtain ⟨e, -, rfl⟩ := List.mem_map.1 (mem_ordered.1 hb)
      exact ⟨e.1, rfl⟩
    constructor
    -- Under one name stands the entry itself or a visit, never both.
    · intro b hb
      obtain ⟨n, rfl⟩ := hbranch b hb
      cases henter : w.enter? v n with
      | none =>
        simp only [itemsUnder, henter, Option.elim_none, List.append_nil]
        exact List.Pairwise.filterMap _ (fun _ _ h => absurd h not_false) (pairwise_toList _)
      | some v' =>
        simp only [itemsUnder, henter, meets?_of_enter? henter, Option.toList_none,
          List.nil_append, Option.elim_some]
        exact ih n v' henter (h.enter henter)
    -- Under two names the files begin with these names.
    · refine (before_of_ordered hne v.names).imp_of_mem fun {a b} ha hb hbefore p hp q hq => ?_
      obtain ⟨m, rfl⟩ := hbranch a ha
      obtain ⟨n, rfl⟩ := hbranch b hb
      obtain ⟨ms, rfl⟩ := file_of_mem_itemsUnder h (mem_filesOf.1 hp)
      obtain ⟨ns, rfl⟩ := file_of_mem_itemsUnder h (mem_filesOf.1 hq)
      exact hbefore ms ns

/-! ## Collecting -/

/-- The function `gather` takes a step for each file and stops at the first fault. -/
structure Gathers {σ ε : Type} (step : σ → Path → σ) (gather : σ → List Item → Except ε σ) :
    Prop where
  nil : ∀ s, gather s [] = .ok s
  file : ∀ s p items, gather s (.file p :: items) = gather (step s p) items
  fault : ∀ s f items, ∃ e, gather s (.fault f :: items) = .error e

/-- Without faults all files are gathered, and with one there is no result. -/
lemma Gathers.eq_ok_iff {σ ε : Type} {step : σ → Path → σ}
    {gather : σ → List Item → Except ε σ} (h : Gathers step gather) {items : List Item}
    {s s' : σ} :
    gather s items = .ok s' ↔
      (∀ f, .fault f ∉ items) ∧ s' = (filesOf items).foldl step s := by
  induction items generalizing s with
  | nil =>
    rw [h.nil, Except.ok.injEq]
    exact ⟨fun heq => ⟨by simp, heq.symm⟩, fun heq => heq.2.symm⟩
  | cons item items ih =>
    cases item with
    | file p =>
      rw [h.file, ih, filesOf_file, List.foldl_cons]
      simp
    | fault f =>
      obtain ⟨e, herror⟩ := h.fault s f items
      rw [herror]
      simp only [reduceCtorEq, false_iff, not_and]
      intro hnone
      exact absurd (List.mem_cons_self ..) (hnone f)

lemma Item.collect_eq_ok_iff {items : List Item} {s s' : PathSet} :
    Item.collect s items = .ok s' ↔
      (∀ f, .fault f ∉ items) ∧ s' = (filesOf items).foldl SortedList.insert s :=
  Gathers.eq_ok_iff ⟨fun _ => rfl, fun _ _ _ => rfl, fun _ f _ => ⟨f, rfl⟩⟩

lemma mem_foldl_insert {ps : List Path} {s : PathSet} (hs : PathSet.Plain s)
    (hps : ∀ p ∈ ps, p.Plain) :
    PathSet.Plain (ps.foldl SortedList.insert s) ∧
      ∀ q, q ∈ (ps.foldl SortedList.insert s).toList ↔ q ∈ s.toList ∨ q ∈ ps := by
  induction ps generalizing s with
  | nil => exact ⟨hs, by simp⟩
  | cons p ps ih =>
    have hp : p.Plain := hps p (List.mem_cons_self ..)
    obtain ⟨hplain, hmem⟩ := ih (hs.insert hp) fun q hq => hps q (List.mem_cons_of_mem _ hq)
    refine ⟨hplain, fun q => ?_⟩
    rw [List.foldl_cons, hmem, PathSet.mem_insert hs hp, List.mem_cons, or_assoc]

/-- Paths that are collected are a set of these paths, and there is no other such set. -/
lemma eq_foldl_insert_iff {ps : List Path} {s : PathSet} (hps : ∀ p ∈ ps, p.Plain) :
    s = ps.foldl SortedList.insert ∅ ↔
      PathSet.Plain s ∧ ∀ p, p ∈ s.toList ↔ p ∈ ps := by
  obtain ⟨hplain, hmem⟩ := mem_foldl_insert PathSet.plain_empty hps
  constructor
  · rintro rfl
    exact ⟨hplain, fun p => by simp [hmem]⟩
  · rintro ⟨-, hs⟩
    refine SortedList.ext_of_mem_iff fun p => ?_
    simp [hs, hmem]

end Walk
end Reconcile
