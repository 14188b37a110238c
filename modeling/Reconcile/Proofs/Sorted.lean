import Mathlib.Data.List.Pairwise
import Mathlib.Data.List.Sort
import Reconcile.Sorted

/-!
# Members of sorted lists

Keys are strictly increasing, so a sorted list has one element for a key at most
(`SortedList.eq_of_key_eq`), and is determined by its elements (`SortedList.ext_of_mem_iff`).
Putting an element into it changes the element with the same key, if there is one, and leaves all
others as they are (`SortedList.mem_upsert`).  So its own elements make it again, in whatever order
they are put into an empty list (`SortedList.ofList_eq_of_mem_iff`).
-/

namespace Reconcile
namespace SortedList

variable {α κ : Type} [LT κ] [TotalOrder κ] {key : α → κ} {s t : SortedList key} {a b c : α}
  {l l' : List α}

/-- Two lists in the order of their keys with the same elements are the same. -/
theorem eq_of_mem_iff (hl : l.Pairwise fun a b => key a < key b)
    (hl' : l'.Pairwise fun a b => key a < key b) (h : ∀ a, a ∈ l ↔ a ∈ l') : l = l' := by
  have hirrefl : Std.Irrefl fun a b : α => key a < key b := ⟨fun a => TotalOrder.irrefl (key a)⟩
  have hasymm : Std.Antisymm fun a b : α => key a < key b :=
    ⟨fun a b hab hba => absurd (TotalOrder.trans hab hba) (TotalOrder.irrefl (key a))⟩
  exact List.Pairwise.eq_of_mem_iff hl hl' h

theorem ext_of_mem_iff (h : ∀ a, a ∈ s.toList ↔ a ∈ t.toList) : s = t :=
  ext (eq_of_mem_iff s.increasing t.increasing h)

/-- There is one element for a key at most. -/
lemma eq_of_key_eq (ha : a ∈ s.toList) (hb : b ∈ s.toList) (hkey : key a = key b) : a = b := by
  by_contra hne
  have hpairwise : s.toList.Pairwise fun a b => key a ≠ key b := by
    refine s.increasing.imp fun {a b} hlt heq => ?_
    rw [heq] at hlt
    exact TotalOrder.irrefl _ hlt
  have hsymm : Std.Symm fun a b : α => key a ≠ key b := ⟨fun _ _ h => h.symm⟩
  exact hpairwise.forall ha hb hne hkey

/-- No element occurs twice. -/
lemma nodup (s : SortedList key) : s.toList.Nodup := by
  refine s.increasing.imp fun {a b} hlt => ?_
  rintro rfl
  exact TotalOrder.irrefl _ hlt

/-- The element that is found for a key is the one that has it. -/
lemma find?_eq_some_iff [DecidableEq κ] {k : κ} :
    s.find? k = some a ↔ a ∈ s.toList ∧ key a = k := by
  constructor
  · intro h
    exact ⟨List.mem_of_find?_eq_some h, by simpa using List.find?_some h⟩
  · rintro ⟨ha, rfl⟩
    cases h : s.find? (key a) with
    | none =>
      have hnone := List.find?_eq_none.1 h a ha
      simp at hnone
    | some b =>
      have hkey : key b = key a := by simpa using List.find?_some h
      rw [eq_of_key_eq (List.mem_of_find?_eq_some h) ha hkey]

variable [DecidableLT κ]

lemma mem_upsertList {change : α → α} (hl : l.Pairwise fun a b => key a < key b) :
    c ∈ upsertList key a change l ↔
      (c ∈ l ∧ key c ≠ key a) ∨ (∃ b ∈ l, key b = key a ∧ c = change b) ∨
        (c = a ∧ ∀ b ∈ l, key b ≠ key a) := by
  have hirrefl : ∀ k : κ, ¬ k < k := TotalOrder.irrefl
  induction l with
  | nil => simp [upsertList]
  | cons b rest ih =>
    obtain ⟨hb, hrest⟩ := List.pairwise_cons.1 hl
    rw [upsertList]
    split
    · -- The new element stands in front of all others, which have greater keys.
      rename_i hab
      have hfresh : ∀ d ∈ b :: rest, key d ≠ key a := by
        intro d hd heq
        rcases List.mem_cons.1 hd with rfl | hd
        · rw [heq] at hab
          exact hirrefl _ hab
        · have hlt := TotalOrder.trans hab (hb d hd)
          rw [heq] at hlt
          exact hirrefl _ hlt
      grind
    split
    · rename_i hba
      have hne : key b ≠ key a := fun heq => hirrefl _ (heq ▸ hba)
      simp only [List.mem_cons, ih hrest]
      grind
    · rename_i hab hba
      have heq : key b = key a := TotalOrder.connected hba hab
      have hfresh : ∀ d ∈ rest, key d ≠ key a := by
        intro d hd hd'
        exact hirrefl _ (hd' ▸ heq ▸ hb d hd)
      simp only [List.mem_cons]
      grind

/-- After an element is put into the list, the elements are those with other keys, and the changed
one that had its key, or the new one if there was none. -/
theorem mem_upsert {change : α → α} (keeps : ∀ b, key (change b) = key b) :
    c ∈ (s.upsert a change keeps).toList ↔
      (c ∈ s.toList ∧ key c ≠ key a) ∨ (∃ b ∈ s.toList, key b = key a ∧ c = change b) ∨
        (c = a ∧ ∀ b ∈ s.toList, key b ≠ key a) :=
  mem_upsertList s.increasing

lemma mem_insert_of_subset (hs : ∀ b ∈ s.toList, b ∈ t.toList) (ha : a ∈ t.toList) :
    c ∈ (s.insert a).toList ↔ c ∈ s.toList ∨ c = a := by
  rw [mem_toList_insert]
  constructor
  · rintro (hc | ⟨hc, -⟩)
    · exact .inl hc
    · exact .inr hc
  · rintro (hc | rfl)
    · exact .inl hc
    by_cases hkey : ∃ b ∈ s.toList, key b = key c
    · obtain ⟨b, hb, hkey⟩ := hkey
      rw [← eq_of_key_eq (hs b hb) ha hkey]
      exact .inl hb
    · exact .inr ⟨rfl, fun b hb heq => hkey ⟨b, hb, heq⟩⟩

lemma mem_foldl_insert_of_subset (hs : ∀ b ∈ s.toList, b ∈ t.toList)
    (hl : ∀ a ∈ l, a ∈ t.toList) : c ∈ (l.foldl insert s).toList ↔ c ∈ s.toList ∨ c ∈ l := by
  induction l generalizing s with
  | nil => simp
  | cons a l ih =>
    have ha := hl a List.mem_cons_self
    have hinsert : ∀ b ∈ (s.insert a).toList, b ∈ t.toList := by
      intro b hb
      rcases (mem_insert_of_subset hs ha).1 hb with hb | rfl
      · exact hs b hb
      · exact ha
    rw [List.foldl_cons, ih hinsert fun b hb => hl b (List.mem_cons_of_mem a hb),
      mem_insert_of_subset hs ha, List.mem_cons, or_assoc]

/-- The elements of a list make it again, in whatever order they are put in. -/
theorem ofList_eq_of_mem_iff (h : ∀ a, a ∈ l ↔ a ∈ s.toList) : ofList l = s := by
  refine ext_of_mem_iff fun a => ?_
  rw [ofList, mem_foldl_insert_of_subset (by simp) fun b hb => (h b).1 hb, ← h a]
  simp

end SortedList
end Reconcile
