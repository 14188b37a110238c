import Mathlib.Data.Finset.Card
import Reconcile.Proofs.Path.Names
import Reconcile.Proofs.Sorted

/-!
# Sets of paths through names

A `PathSet` tells paths apart by their keys.  Paths that go through names only are the same when
their keys are, so a set of such paths (`PathSet.Plain`) is a finite set of paths as they stand:
adding, dropping and asking for a path do what they do there.
-/

namespace Reconcile

/-- The path goes through names only, with one slash between two of them. -/
def Path.Plain (p : Path) : Prop := ∃ ns, p = Path.ofNames ns

lemma Path.plain_ofNames (ns : List Name) : (Path.ofNames ns).Plain := ⟨ns, rfl⟩

lemma Path.Plain.eq_of_key {p q : Path} (hp : p.Plain) (hq : q.Plain) (h : p.key = q.key) :
    p = q := by
  obtain ⟨ms, rfl⟩ := hp
  obtain ⟨ns, rfl⟩ := hq
  rw [Path.key_ofNames_injective h]

namespace PathSet

/-- All paths of the set go through names only. -/
def Plain (s : PathSet) : Prop := ∀ p ∈ s.toList, p.Plain

variable {s : PathSet} {p q : Path}

lemma plain_empty : Plain ∅ := fun _ h => absurd h (List.not_mem_nil)

lemma mem_insert (hs : Plain s) (hp : p.Plain) :
    q ∈ (s.insert p).toList ↔ q ∈ s.toList ∨ q = p := by
  rw [SortedList.mem_toList_insert]
  constructor
  · rintro (h | ⟨h, -⟩)
    · exact Or.inl h
    · exact Or.inr h
  · rintro (h | rfl)
    · exact Or.inl h
    · by_cases hmem : q ∈ s.toList
      · exact Or.inl hmem
      · refine Or.inr ⟨rfl, fun b hb hkey => hmem ?_⟩
        rw [← (hs b hb).eq_of_key hp hkey]
        exact hb

lemma Plain.insert (hs : Plain s) (hp : p.Plain) : Plain (s.insert p) := by
  intro q hq
  rcases (mem_insert hs hp).1 hq with h | rfl
  · exact hs q h
  · exact hp

lemma contains_key (hs : Plain s) (hp : p.Plain) :
    s.contains p.key = true ↔ p ∈ s.toList := by
  rw [SortedList.contains, List.any_eq_true]
  constructor
  · rintro ⟨q, hq, hkey⟩
    rw [← (hs q hq).eq_of_key hp (by simpa using hkey)]
    exact hq
  · intro h
    exact ⟨p, h, by simp⟩

lemma mem_erase (hs : Plain s) (hp : p.Plain) :
    q ∈ (s.erase p.key).toList ↔ q ∈ s.toList ∧ q ≠ p := by
  rw [SortedList.toList_erase, List.mem_filter]
  refine and_congr_right fun hq => ?_
  rw [decide_eq_true_eq]
  exact not_congr ⟨(hs q hq).eq_of_key hp, fun h => by rw [h]⟩

lemma Plain.erase (hs : Plain s) (k : List Bytes) : Plain (s.erase k) := by
  intro q hq
  rw [SortedList.toList_erase, List.mem_filter] at hq
  exact hs q hq.1

lemma size_eq_card (s : PathSet) : s.size = s.toList.toFinset.card :=
  (List.toFinset_card_of_nodup s.nodup).symm

lemma length_filter_eq_card (s : PathSet) (keep : Path → Bool) :
    (s.toList.filter keep).length = (s.toList.filter keep).toFinset.card :=
  (List.toFinset_card_of_nodup (s.nodup.filter keep)).symm

end PathSet
end Reconcile
