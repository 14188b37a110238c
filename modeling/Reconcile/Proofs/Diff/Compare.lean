import Reconcile.Diff.Compare
import Reconcile.Proofs.FileSystem.Read
import Reconcile.Proofs.FileSystem.Stream

/-!
# Comparing files byte for byte

Each round of `chunksDiffer` takes one chunk off both streams, so by induction on the rounds the
streams differ exactly when their bytes do, if there are rounds for all chunks and no request fails
(`streamsDiffer_of_unfailing`); how the bytes are handed out makes no difference.  The comparison of
two files that are no directories (`contentsDiffer_eq_ok_iff`) fails only where one of them cannot
be read.
-/

namespace Reconcile

lemma chunkSize_pos : 0 < chunkSize := by decide

/-- The rounds tell whether the bytes are the same, if there are enough of them. -/
lemma chunksDiffer_of_unfailing {rounds : Nat} {a b : Stream} {bufferA bufferB : Bytes}
    (hrounds : a.bytes.length / chunkSize < rounds) (ha : Stream.Unfailing a.schedule)
    (hb : Stream.Unfailing b.schedule) (hA : bufferA.length = chunkSize)
    (hB : bufferB.length = chunkSize) :
    chunksDiffer rounds a b bufferA bufferB = .ok (decide (a.bytes ≠ b.bytes)) := by
  induction rounds generalizing a b bufferA bufferB with
  | zero => exact absurd hrounds (Nat.not_lt_zero _)
  | succ rounds ih =>
    obtain ⟨filledA, hfillA⟩ := Stream.exists_fill ha bufferA
    obtain ⟨filledB, hfillB⟩ := Stream.exists_fill hb bufferB
    have hfillsA := Stream.fills_of_fill hfillA
    have hfillsB := Stream.fills_of_fill hfillB
    have hcountA := hfillsA.count
    have hcountB := hfillsB.count
    rw [hA] at hcountA
    rw [hB] at hcountB
    simp only [chunksDiffer, hfillA, hfillB]
    rw [hfillsA.take_buffer, hfillsB.take_buffer, hA, hB]
    split
    · -- The chunks differ, in length or in a byte.
      rename_i hdiffer
      have hne : a.bytes ≠ b.bytes := by
        intro heq
        simp [hcountA, hcountB, heq] at hdiffer
      rw [decide_eq_true hne]
    · rename_i hsame
      obtain ⟨hcount, htake⟩ := not_or.1 hsame
      rw [not_not] at hcount htake
      split
      · -- A short chunk is all that there is of both.
        rename_i hshort
        have hx : a.bytes.length ≤ chunkSize := by omega
        have hy : b.bytes.length ≤ chunkSize := by omega
        rw [List.take_of_length_le hx, List.take_of_length_le hy] at htake
        simp [htake]
      · rename_i hfull
        have hlen : chunkSize ≤ a.bytes.length := by omega
        have hpos := chunkSize_pos
        have hdiv : filledA.rest.bytes.length / chunkSize < rounds := by
          have hstep : a.bytes.length / chunkSize = (a.bytes.length - chunkSize) / chunkSize + 1 :=
            Nat.div_eq_sub_div hpos hlen
          rw [hfillsA.bytes_rest, hA, List.length_drop]
          omega
        rw [ih hdiv (hfillsA.unfailing_rest ha) (hfillsB.unfailing_rest hb)
          (hfillsA.size.trans hA) (hfillsB.size.trans hB), hfillsA.bytes_rest, hfillsB.bytes_rest,
          hA, hB]
        -- The chunks are the same, so the rest decides.
        have hiff : a.bytes.drop chunkSize = b.bytes.drop chunkSize ↔ a.bytes = b.bytes := by
          constructor
          · intro hdrop
            rw [← List.take_append_drop chunkSize a.bytes, htake, hdrop, List.take_append_drop]
          · intro heq
            rw [heq]
        simp only [ne_eq, hiff]

/-- **Two streams differ exactly when their bytes do**, however the bytes are handed out. -/
theorem streamsDiffer_of_unfailing {a b : Stream} (ha : Stream.Unfailing a.schedule)
    (hb : Stream.Unfailing b.schedule) : streamsDiffer a b = .ok (decide (a.bytes ≠ b.bytes)) :=
  chunksDiffer_of_unfailing (Nat.lt_succ_self _) ha hb List.length_replicate List.length_replicate

variable {fs : FileSystem} {a b : Path}

/-- Two files that can be read differ where their bytes do. -/
lemma contentsDiffer_of_read {x y : Bytes} (ha : fs.read a = .ok x) (hb : fs.read b = .ok y) :
    contentsDiffer fs a b = .ok (decide (x ≠ y)) := by
  obtain ⟨locA, hlocA, hnodeA⟩ := FileSystem.read_eq_ok_iff.1 ha
  obtain ⟨locB, hlocB, hnodeB⟩ := FileSystem.read_eq_ok_iff.1 hb
  simp only [contentsDiffer, hlocA, hlocB, FileSystem.streamAt_of_file hnodeA,
    FileSystem.streamAt_of_file hnodeB, FileSystem.sizeAt, hnodeA, hnodeB]
  rw [streamsDiffer_of_unfailing (Stream.unfailing_ofBytes x) (Stream.unfailing_ofBytes y)]
  split
  · rename_i hlen
    have hne : x ≠ y := by
      rintro rfl
      exact hlen rfl
    rw [decide_eq_true hne]
  · rfl

/-- Where no directories stand, a comparison fails only if one of the files cannot be read. -/
theorem contentsDiffer_eq_ok_iff {differ : Bool} (ha : fs.isDirectoryAt a = false)
    (hb : fs.isDirectoryAt b = false) :
    contentsDiffer fs a b = .ok differ ↔
      ∃ x y, fs.read a = .ok x ∧ fs.read b = .ok y ∧ differ = decide (x ≠ y) := by
  constructor
  · intro h
    cases hlocA : fs.locate a with
    | error fault => simp [contentsDiffer, hlocA] at h
    | ok locA =>
      cases hlocB : fs.locate b with
      | error fault => simp [contentsDiffer, hlocA, hlocB] at h
      | ok locB =>
        obtain ⟨x, -, hx⟩ := FileSystem.exists_read_of_locate hlocA ha
        obtain ⟨y, -, hy⟩ := FileSystem.exists_read_of_locate hlocB hb
        rw [contentsDiffer_of_read hx hy, Except.ok.injEq] at h
        exact ⟨x, y, hx, hy, h.symm⟩
  · rintro ⟨x, y, hx, hy, rfl⟩
    exact contentsDiffer_of_read hx hy

end Reconcile
