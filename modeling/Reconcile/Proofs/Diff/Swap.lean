import Reconcile.Proofs.Diff.Exact

/-!
# Swapping the two sides

A comparison treats its sides differently: one tree is listed and its files are crossed off, the
other is walked on the way, and of two files the local one is opened first.  What it succeeds on and
what it finds do not depend on this.  With the sides swapped, the same files are different and the
files of one tree only change their roles (`diffDirectories_swap`).
-/

namespace Reconcile

open Walk (yielded)

variable {fs : FileSystem} {config : Config} {a b : Path} {x y : DiffResults}
  {filesA filesB : PathSet}

namespace Diff

/-- The number of files that are in both sets. -/
def common (filesA filesB : PathSet) : Nat := (filesA.toList.filter (· ∈ filesB.toList)).length

lemma common_eq_card (hA : listFiles fs config a = .ok filesA)
    (hB : listFiles fs config b = .ok filesB) :
    common filesA filesB =
      ((yielded fs config a).toFinset ∩ (yielded fs config b).toFinset).card := by
  obtain ⟨-, -, hmemA⟩ := Walk.listFiles_eq_ok_iff.1 hA
  obtain ⟨-, -, hmemB⟩ := Walk.listFiles_eq_ok_iff.1 hB
  rw [common, PathSet.length_filter_eq_card]
  congr 1
  ext p
  simp only [List.mem_toFinset, Finset.mem_inter, List.mem_filter, decide_eq_true_eq, hmemA, hmemB]

/-- The remote files that are not local are missing locally. -/
lemma Exact.size_missingLocal (h : Exact fs config a b x) :
    x.missingLocal.size =
      ((yielded fs config b).toFinset \ (yielded fs config a).toFinset).card := by
  rw [PathSet.size_eq_card]
  congr 1
  ext p
  simp only [List.mem_toFinset, Finset.mem_sdiff, h.missingLocal]

/-- The other remote files are those of both trees. -/
lemma Exact.scannedRemote_eq (h : Exact fs config a b x) (hA : listFiles fs config a = .ok filesA)
    (hB : listFiles fs config b = .ok filesB) :
    x.scannedRemote = x.missingLocal.size + common filesA filesB := by
  rw [h.scannedRemote, h.size_missingLocal, common_eq_card hA hB, Finset.inter_comm,
    Finset.card_sdiff_add_card_inter]

/-- What is different does not depend on which side is the local one. -/
lemma Exact.different_eq (hx : Exact fs config a b x) (hy : Exact fs config b a y) :
    x.different = y.different := by
  refine SortedList.ext_of_mem_iff fun p => ?_
  rw [hx.different, hy.different]
  constructor
  · rintro ⟨ha, hb, contentA, contentB, hreadA, hreadB, hne⟩
    exact ⟨hb, ha, contentB, contentA, hreadB, hreadA, hne.symm⟩
  · rintro ⟨hb, ha, contentB, contentA, hreadB, hreadA, hne⟩
    exact ⟨ha, hb, contentA, contentB, hreadA, hreadB, hne.symm⟩

/-- The results `x` and `y` of two comparisons with the sides swapped, of trees that have `shared`
files in common. -/
structure Swapped (shared : Nat) (x y : DiffResults) : Prop where
  different : x.different = y.different
  scannedLocal : x.scannedLocal = y.missingLocal.size
  missingLocal : x.missingLocal.size = y.scannedLocal
  scannedRemote : x.scannedRemote = x.missingLocal.size + shared
  scannedRemote' : y.scannedRemote = y.missingLocal.size + shared

lemma Exact.swapped (hx : Exact fs config a b x) (hy : Exact fs config b a y)
    (hA : listFiles fs config a = .ok filesA) (hB : listFiles fs config b = .ok filesB) :
    Swapped (common filesA filesB) x y where
  different := hx.different_eq hy
  scannedLocal := hx.scannedLocal.trans hy.size_missingLocal.symm
  missingLocal := hx.size_missingLocal.trans hy.scannedLocal.symm
  scannedRemote := hx.scannedRemote_eq hA hB
  scannedRemote' := by
    rw [hy.scannedRemote_eq hB hA, common_eq_card hB hA, common_eq_card hA hB, Finset.inter_comm]

end Diff

/-- With the sides swapped a comparison can still be made. -/
lemma exists_diffDirectories_swap
    (h : ∃ x, (diffDirectories fs config a b).2 = .ok x) :
    ∃ y, (diffDirectories fs config b a).2 = .ok y := by
  obtain ⟨ha, hb, hfreeA, hfreeB, hread⟩ := (exists_diffDirectories_iff ..).1 h
  refine (exists_diffDirectories_iff ..).2 ⟨hb, ha, hfreeB, hfreeA, fun p hpB hpA => ?_⟩
  obtain ⟨hreadA, hreadB⟩ := hread p hpA hpB
  exact ⟨hreadB, hreadA⟩

/-- **A comparison may be swapped.**  Two trees can be compared if they can be with the sides
swapped.  Then the same files are different, what one comparison counts as local only is missing
locally in the other, and what is left of the files of either side are the common files. -/
theorem diffDirectories_swap (fs : FileSystem) (config : Config) (a b : Path) :
    ((∃ x, (diffDirectories fs config a b).2 = .ok x) ↔
      ∃ y, (diffDirectories fs config b a).2 = .ok y) ∧
    ∀ x y, (diffDirectories fs config a b).2 = .ok x → (diffDirectories fs config b a).2 = .ok y →
      ∃ filesA filesB, listFiles fs config a = .ok filesA ∧ listFiles fs config b = .ok filesB ∧
        Diff.Swapped (Diff.common filesA filesB) x y ∧
        x.scannedRemote - x.missingLocal.size = y.scannedRemote - y.missingLocal.size := by
  refine ⟨⟨exists_diffDirectories_swap, exists_diffDirectories_swap⟩, fun x y hx hy => ?_⟩
  obtain ⟨filesA, filesB, hA, hB⟩ := exists_listFiles_of_diffDirectories hx
  have hswapped :=
    (exact_of_diffDirectories hx).swapped (exact_of_diffDirectories hy) hA hB
  refine ⟨filesA, filesB, hA, hB, hswapped, ?_⟩
  rw [hswapped.scannedRemote, hswapped.scannedRemote', Nat.add_sub_cancel_left,
    Nat.add_sub_cancel_left]

namespace Diff

/-- Directories `lc` and `rc` with different files `fc`, a file `oc` below `lc` and two other files
below `rc`. -/
def twoSided : FileSystem where
  top := .directory ⟨[108, 99], by decide⟩
    (.file ⟨[102, 99], by decide⟩ [1] (.file ⟨[111, 99], by decide⟩ [2] .nil))
    (.directory ⟨[114, 99], by decide⟩
      (.file ⟨[102, 99], by decide⟩ [1, 1]
        (.file ⟨[110, 99], by decide⟩ [3] (.file ⟨[113, 99], by decide⟩ [4] .nil))) .nil)
  distinct := by decide
  current := []

/-- What a comparison of `lc` with `rc` finds. -/
def foundThere : DiffResults where
  different := .ofList [⟨[102, 99]⟩]
  missingLocal := .ofList [⟨[110, 99]⟩, ⟨[113, 99]⟩]
  localRoot := ⟨[108, 99]⟩
  remoteRoot := ⟨[114, 99]⟩
  scannedLocal := 1
  scannedRemote := 3

/-- What a comparison of `rc` with `lc` finds. -/
def foundBack : DiffResults where
  different := .ofList [⟨[102, 99]⟩]
  missingLocal := .ofList [⟨[111, 99]⟩]
  localRoot := ⟨[114, 99]⟩
  remoteRoot := ⟨[108, 99]⟩
  scannedLocal := 2
  scannedRemote := 2

/-- Two of the files below `rc` are missing below `lc`, and one the other way round. -/
theorem diffDirectories_swap_twoSided :
    (diffDirectories twoSided .standard ⟨[108, 99]⟩ ⟨[114, 99]⟩).2 = .ok foundThere ∧
      (diffDirectories twoSided .standard ⟨[114, 99]⟩ ⟨[108, 99]⟩).2 = .ok foundBack ∧
      ∃ shared, Swapped shared foundThere foundBack := by
  have hthere : (diffDirectories twoSided .standard ⟨[108, 99]⟩ ⟨[114, 99]⟩).2 =
      .ok foundThere := by cbv
  have hback : (diffDirectories twoSided .standard ⟨[114, 99]⟩ ⟨[108, 99]⟩).2 =
      .ok foundBack := by cbv
  obtain ⟨filesA, filesB, -, -, hswapped, -⟩ :=
    (diffDirectories_swap twoSided .standard ⟨[108, 99]⟩ ⟨[114, 99]⟩).2 _ _ hthere hback
  exact ⟨hthere, hback, _, hswapped⟩

end Diff
end Reconcile
