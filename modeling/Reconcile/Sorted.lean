/-!
# Lists in strictly increasing order of a key

Sets of paths, the members of a manifest and its groups are all shown in order, with one element
for every key.  A `SortedList key` is such a list together with the proof of its order, so two of
them with the same elements are the same list.

* `SortedList.insert` adds an element; one with an equal key that is already there stays.
* `SortedList.upsert` adds an element, or changes the one that has its key.
* `SortedList.erase` drops the element with a given key.
-/

namespace Reconcile

/-- A strict order in which any two different keys can be compared. -/
class TotalOrder (κ : Type) [LT κ] : Prop where
  irrefl : ∀ k : κ, ¬ k < k
  trans : ∀ {j k l : κ}, j < k → k < l → j < l
  connected : ∀ {j k : κ}, ¬ j < k → ¬ k < j → j = k

instance : TotalOrder String where
  irrefl := String.lt_irrefl
  trans := String.lt_trans
  connected h k := String.le_antisymm (String.not_lt.1 k) (String.not_lt.1 h)

instance : TotalOrder UInt8 where
  irrefl := UInt8.lt_irrefl
  trans := UInt8.lt_trans
  connected h k := UInt8.le_antisymm (UInt8.not_lt.1 k) (UInt8.not_lt.1 h)

/-- Lists are ordered by their first difference, and a list that ends first comes first. -/
instance {κ : Type} [LT κ] [TotalOrder κ] : TotalOrder (List κ) where
  irrefl :=
    have : Std.Irrefl (α := κ) (· < ·) := ⟨TotalOrder.irrefl⟩
    List.lt_irrefl
  trans :=
    have : Trans (α := κ) (· < ·) (· < ·) (· < ·) := ⟨TotalOrder.trans⟩
    List.lt_trans
  connected h k :=
    have : Std.Trichotomous (α := κ) (· < ·) := ⟨fun _ _ => TotalOrder.connected⟩
    List.le_antisymm (List.not_lt.1 k) (List.not_lt.1 h)

/-- A list whose keys are strictly increasing. -/
structure SortedList {α κ : Type} [LT κ] (key : α → κ) where
  /-- The elements, in order. -/
  toList : List α
  increasing : toList.Pairwise fun a b => key a < key b

namespace SortedList

variable {α κ : Type} [LT κ] {key : α → κ}

instance [DecidableEq α] : DecidableEq (SortedList key) := fun s t =>
  decidable_of_iff (s.toList = t.toList) (by cases s; cases t; simp)

@[ext] theorem ext {s t : SortedList key} (h : s.toList = t.toList) : s = t := by
  cases s; cases t; simp_all

/-- The list without elements. -/
def empty : SortedList key := ⟨[], List.Pairwise.nil⟩

instance : EmptyCollection (SortedList key) := ⟨empty⟩

instance : Inhabited (SortedList key) := ⟨empty⟩

@[simp] theorem toList_empty : (∅ : SortedList key).toList = [] := rfl

/-- The number of elements. -/
def size (s : SortedList key) : Nat := s.toList.length

/-- Is there no element? -/
def isEmpty (s : SortedList key) : Bool := s.toList.isEmpty

/-- The element with the key `k`. -/
def find? [DecidableEq κ] (s : SortedList key) (k : κ) : Option α :=
  s.toList.find? fun a => key a = k

/-- Is there an element with the key `k`? -/
def contains [DecidableEq κ] (s : SortedList key) (k : κ) : Bool :=
  s.toList.any fun a => key a = k

/-- Drops the element with the key `k`. -/
def erase [DecidableEq κ] (s : SortedList key) (k : κ) : SortedList key :=
  ⟨s.toList.filter fun a => key a ≠ k, s.increasing.filter _⟩

@[simp] theorem toList_erase [DecidableEq κ] (s : SortedList key) (k : κ) :
    (s.erase k).toList = s.toList.filter fun a => key a ≠ k := rfl

variable [DecidableLT κ]

/-- Puts `a` at its place in the order, or changes the element that already has its key. -/
def upsertList (key : α → κ) (a : α) (change : α → α) : List α → List α
  | [] => [a]
  | b :: rest =>
    if key a < key b then a :: b :: rest
    else if key b < key a then b :: upsertList key a change rest
    else change b :: rest

theorem key_lt_of_mem_upsertList {a c : α} {change : α → α} {k : κ} {l : List α}
    (keeps : ∀ b, key (change b) = key b) (hl : ∀ b ∈ l, k < key b) (ha : k < key a)
    (hc : c ∈ upsertList key a change l) : k < key c := by
  induction l with
  | nil => simp_all [upsertList]
  | cons b rest ih =>
    simp only [upsertList] at hc
    split at hc
    · grind
    · split at hc
      · grind
      · have hb := hl b (by simp)
        rcases List.mem_cons.1 hc with rfl | h
        · rw [keeps]; exact hb
        · exact hl c (by simp [h])

theorem pairwise_upsertList [TotalOrder κ] {a : α} {change : α → α}
    {l : List α} (keeps : ∀ b, key (change b) = key b)
    (hl : l.Pairwise fun a b => key a < key b) :
    (upsertList key a change l).Pairwise fun a b => key a < key b := by
  induction l with
  | nil => simp [upsertList]
  | cons b rest ih =>
    obtain ⟨hb, hrest⟩ := List.pairwise_cons.1 hl
    simp only [upsertList]
    split
    · rename_i hab
      refine List.pairwise_cons.2 ⟨fun c hc => ?_, hl⟩
      rcases List.mem_cons.1 hc with rfl | h
      · exact hab
      · exact TotalOrder.trans hab (hb c h)
    · split
      · rename_i hba
        exact List.pairwise_cons.2
          ⟨fun c hc => key_lt_of_mem_upsertList keeps hb hba hc, ih hrest⟩
      · exact List.pairwise_cons.2 ⟨fun c hc => by rw [keeps]; exact hb c hc, hrest⟩

/-- Adds `a`, or changes the element that has its key. -/
def upsert [TotalOrder κ] (s : SortedList key) (a : α)
    (change : α → α) (keeps : ∀ b, key (change b) = key b) : SortedList key :=
  ⟨upsertList key a change s.toList, pairwise_upsertList keeps s.increasing⟩

/-- Adds `a`, unless an element with its key is already there. -/
def insert [TotalOrder κ] (s : SortedList key) (a : α) :
    SortedList key :=
  s.upsert a id fun _ => rfl

/-- The elements of a list, added from left to right. -/
def ofList [TotalOrder κ] (l : List α) : SortedList key :=
  l.foldl insert ∅

/-- After adding `a`, the elements are the former ones, and `a` if its key was new. -/
theorem mem_toList_insert [TotalOrder κ]
    {s : SortedList key} {a c : α} :
    c ∈ (s.insert a).toList ↔ c ∈ s.toList ∨ (c = a ∧ ∀ b ∈ s.toList, key b ≠ key a) := by
  obtain ⟨l, hl⟩ := s
  show c ∈ upsertList key a id l ↔ c ∈ l ∨ (c = a ∧ ∀ b ∈ l, key b ≠ key a)
  induction l with
  | nil => simp [upsertList]
  | cons b rest ih =>
    obtain ⟨hb, hrest⟩ := List.pairwise_cons.1 hl
    have irrefl : ∀ k : κ, ¬ k < k := TotalOrder.irrefl
    simp only [upsertList]
    split
    · rename_i hab
      have fresh : ∀ d ∈ b :: rest, key d ≠ key a := by
        intro d hd e
        rcases List.mem_cons.1 hd with rfl | h
        · exact irrefl _ (e ▸ hab)
        · have := TotalOrder.trans hab (hb d h)
          exact irrefl (key a) (e ▸ this)
      grind
    · split
      · rename_i hba
        have : key b ≠ key a := fun e => irrefl (key a) (e ▸ hba)
        simp only [List.mem_cons, ih hrest]
        grind
      · rename_i hab hba
        have e : key b = key a := TotalOrder.connected hba hab
        simp only [id_eq, List.mem_cons]
        grind

end SortedList
end Reconcile
