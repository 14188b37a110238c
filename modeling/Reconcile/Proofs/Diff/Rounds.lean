import Reconcile.Proofs.Diff.Compare

/-!
# The rounds of a comparison

`Compares` is the loop that reads two streams side by side, round after round, with no bound on the
rounds.  Every round that is not the last takes a whole chunk off the first stream, however the
bytes are handed out (`Stream.fills_of_fill`), so the loop comes to an end whatever the streams
are, and the bound of `streamsDiffer` is never reached (`streamsDiffer_eq_iff`).  For two files it
ends with the answer whether their bytes differ.  From this follow the laws of a comparison
(`contentsDiffer_exact`): it is an equivalence on files, and whether it fails does not depend on the
order of the two paths.
-/

namespace Reconcile

/-! ## The loop -/

/-- Both chunks have the same length and the same bytes. -/
def Filled.Agree (filledA filledB : Filled) : Prop :=
  filledA.count = filledB.count ∧
    filledA.buffer.take filledA.count = filledB.buffer.take filledB.count

/-- What reading two streams into two buffers, again and again, comes to. -/
inductive Compares : (a b : Stream) → (bufferA bufferB : Bytes) → Except (Side × Fault) Bool → Prop
  | firstFails {a b : Stream} {bufferA bufferB : Bytes} {fault : Fault} :
      a.fill bufferA = .error fault → Compares a b bufferA bufferB (.error (.first, fault))
  | secondFails {a b : Stream} {bufferA bufferB : Bytes} {filledA : Filled} {fault : Fault} :
      a.fill bufferA = .ok filledA → b.fill bufferB = .error fault →
      Compares a b bufferA bufferB (.error (.second, fault))
  | differ {a b : Stream} {bufferA bufferB : Bytes} {filledA filledB : Filled} :
      a.fill bufferA = .ok filledA → b.fill bufferB = .ok filledB → ¬ filledA.Agree filledB →
      Compares a b bufferA bufferB (.ok true)
  /-- A short chunk is the last one. -/
  | ends {a b : Stream} {bufferA bufferB : Bytes} {filledA filledB : Filled} :
      a.fill bufferA = .ok filledA → b.fill bufferB = .ok filledB → filledA.Agree filledB →
      filledA.count < bufferA.length → Compares a b bufferA bufferB (.ok false)
  /-- The next round reads on, into the buffers as they are now. -/
  | goesOn {a b : Stream} {bufferA bufferB : Bytes} {filledA filledB : Filled}
      {result : Except (Side × Fault) Bool} :
      a.fill bufferA = .ok filledA → b.fill bufferB = .ok filledB → filledA.Agree filledB →
      ¬ filledA.count < bufferA.length →
      Compares filledA.rest filledB.rest filledA.buffer filledB.buffer result →
      Compares a b bufferA bufferB result

variable {a b : Stream} {bufferA bufferB : Bytes} {result result' : Except (Side × Fault) Bool}

/-- The loop comes to one end at most. -/
theorem Compares.unique (h : Compares a b bufferA bufferB result)
    (h' : Compares a b bufferA bufferB result') : result = result' := by
  induction h with
  | firstFails hA => cases h' <;> simp_all
  | secondFails hA hB => cases h' <;> simp_all
  | differ hA hB hdiffer => cases h' <;> simp_all
  | ends hA hB hagree hshort => cases h' <;> simp_all
  | goesOn hA hB hagree hfull _ ih =>
    cases h' with
    | goesOn hA' hB' _ _ h' =>
      rw [hA, Except.ok.injEq] at hA'
      rw [hB, Except.ok.injEq] at hB'
      subst hA' hB'
      exact ih h'
    | ends hA' _ _ hshort =>
      rw [hA, Except.ok.injEq] at hA'
      exact absurd (hA' ▸ hshort) hfull
    | _ => simp_all

/-! ## It ends -/

/-- With a round for every chunk of the first stream, and one more, the loop comes to its end. -/
theorem compares_chunksDiffer {rounds : Nat} (hrounds : a.bytes.length / chunkSize < rounds)
    (hbuffer : bufferA.length = chunkSize) :
    Compares a b bufferA bufferB (chunksDiffer rounds a b bufferA bufferB) := by
  induction rounds generalizing a b bufferA bufferB with
  | zero => exact absurd hrounds (Nat.not_lt_zero _)
  | succ rounds ih =>
    rw [chunksDiffer]
    cases hA : a.fill bufferA with
    | error fault => exact .firstFails hA
    | ok filledA =>
      cases hB : b.fill bufferB with
      | error fault => exact .secondFails hA hB
      | ok filledB =>
        simp only
        split
        · rename_i hdiffer
          refine .differ hA hB fun hagree => ?_
          rcases hdiffer with hcount | htake
          · exact hcount hagree.1
          · exact htake hagree.2
        · rename_i hsame
          rw [not_or, not_not, not_not] at hsame
          split
          · rename_i hshort
            exact .ends hA hB hsame hshort
          · rename_i hfull
            -- A full chunk was taken off the first stream.
            have hfills := Stream.fills_of_fill hA
            have hcount := hfills.count
            have hpos := chunkSize_pos
            have hstep :
                a.bytes.length / chunkSize = (a.bytes.length - chunkSize) / chunkSize + 1 :=
              Nat.div_eq_sub_div hpos (by omega)
            have hrest : filledA.rest.bytes.length = a.bytes.length - chunkSize := by
              rw [hfills.bytes_rest, List.length_drop, hbuffer]
            refine .goesOn hA hB hsame hfull (ih ?_ (hfills.size.trans hbuffer))
            rw [hrest]
            omega

/-- The buffers before the first round. -/
def blankChunk : Bytes := List.replicate chunkSize 0

/-- **The loop ends, for any two streams**, and comes to what the comparison of them says. -/
theorem streamsDiffer_eq_iff :
    streamsDiffer a b = result ↔ Compares a b blankChunk blankChunk result := by
  have hloop : Compares a b blankChunk blankChunk (streamsDiffer a b) :=
    compares_chunksDiffer (Nat.lt_succ_self _) List.length_replicate
  constructor
  · rintro rfl
    exact hloop
  · exact hloop.unique

/-! ## Two paths -/

/-- A comparison that gives an answer could read both streams. -/
lemma Compares.exists_fill {differ : Bool} (h : Compares a b bufferA bufferB (.ok differ)) :
    (∃ filled, a.fill bufferA = .ok filled) ∧ ∃ filled, b.fill bufferB = .ok filled := by
  cases h with
  | differ hA hB | ends hA hB | goesOn hA hB => exact ⟨⟨_, hA⟩, _, hB⟩

section Paths

variable {fs : FileSystem} {p q : Path} {locA locB : Location} {differ : Bool}

/-- Where two streams can be compared, there are files. -/
lemma isDirectoryAt_of_fill (hlocate : fs.locate p = .ok locA)
    (h : ∃ filled, (fs.streamAt locA).fill blankChunk = .ok filled) :
    fs.isDirectoryAt p = false := by
  obtain ⟨filled, hfill⟩ := h
  rw [← Bool.not_eq_true, FileSystem.isDirectoryAt_iff]
  rintro ⟨loc, inner, hloc, hdir⟩
  obtain rfl := Except.ok.inj (hlocate.symm.trans hloc)
  rw [FileSystem.streamAt_of_directory hdir] at hfill
  cases hfill

/-- Paths that can be located are compared by the sizes of what is there, then by the bytes. -/
lemma contentsDiffer_of_locate (hA : fs.locate p = .ok locA) (hB : fs.locate q = .ok locB) :
    contentsDiffer fs p q = .ok differ ↔
      (fs.sizeAt locA ≠ fs.sizeAt locB ∧ differ = true) ∨
        (fs.sizeAt locA = fs.sizeAt locB ∧
          streamsDiffer (fs.streamAt locA) (fs.streamAt locB) = .ok differ) := by
  simp only [contentsDiffer, hA, hB]
  split
  · rename_i hsize
    simp [hsize, eq_comm]
  · rename_i hsize
    rw [not_not] at hsize
    simp only [hsize, ne_eq, not_true_eq_false, false_and, true_and, false_or]
    rcases streamsDiffer (fs.streamAt locA) (fs.streamAt locB) with ⟨_ | _, fault⟩ | differ' <;>
      simp

/-- An answer is the same the other way round. -/
theorem contentsDiffer_swap (h : contentsDiffer fs p q = .ok differ) :
    contentsDiffer fs q p = .ok differ := by
  cases hA : fs.locate p with
  | error fault => simp [contentsDiffer, hA] at h
  | ok locA =>
    cases hB : fs.locate q with
    | error fault => simp [contentsDiffer, hA, hB] at h
    | ok locB =>
      rcases (contentsDiffer_of_locate hA hB).1 h with ⟨hsize, hdiffer⟩ | ⟨-, hstreams⟩
      · exact (contentsDiffer_of_locate hB hA).2 (Or.inl ⟨hsize.symm, hdiffer⟩)
      · obtain ⟨hfillA, hfillB⟩ := (streamsDiffer_eq_iff.1 hstreams).exists_fill
        have hdirA := isDirectoryAt_of_fill hA hfillA
        have hdirB := isDirectoryAt_of_fill hB hfillB
        obtain ⟨x, y, hx, hy, rfl⟩ := (contentsDiffer_eq_ok_iff hdirA hdirB).1 h
        rw [contentsDiffer_of_read hy hx]
        simp only [ne_comm]

end Paths

/-- What a comparison of paths says. -/
structure ComparesContents (fs : FileSystem) : Prop where
  /-- The answer for two files is whether their bytes differ. -/
  differ : ∀ p q x y, fs.read p = .ok x → fs.read q = .ok y →
    contentsDiffer fs p q = .ok (decide (x ≠ y))
  /-- The loop ends for all streams; for those of two files it ends with this answer. -/
  ends : ∀ a b result, Compares a b blankChunk blankChunk result ↔ streamsDiffer a b = result
  comm : ∀ p q, fs.isFileAt p = true → fs.isFileAt q = true →
    contentsDiffer fs p q = contentsDiffer fs q p
  refl : ∀ p, fs.isFileAt p = true → contentsDiffer fs p p = .ok false
  trans : ∀ p q r, fs.isFileAt p = true → fs.isFileAt q = true → fs.isFileAt r = true →
    contentsDiffer fs p q = .ok false → contentsDiffer fs q r = .ok false →
    contentsDiffer fs p r = .ok false
  /-- The first path that cannot be opened is reported. -/
  first : ∀ p q fault, fs.locate p = .error fault → contentsDiffer fs p q = .error (.read p fault)
  second : ∀ p q loc fault, fs.locate p = .ok loc → fs.locate q = .error fault →
    contentsDiffer fs p q = .error (.read q fault)
  /-- Whatever the paths are, the other way round there is the same answer. -/
  swap : ∀ p q differ, contentsDiffer fs p q = .ok differ → contentsDiffer fs q p = .ok differ

/-- **A comparison tells whether the bytes of two files differ**, whatever their lengths are. -/
theorem contentsDiffer_exact (fs : FileSystem) : ComparesContents fs where
  differ p q x y hx hy := contentsDiffer_of_read hx hy
  ends a b result := streamsDiffer_eq_iff.symm
  comm p q hp hq := by
    obtain ⟨x, hx⟩ := FileSystem.isFileAt_iff.1 hp
    obtain ⟨y, hy⟩ := FileSystem.isFileAt_iff.1 hq
    rw [contentsDiffer_of_read hx hy, contentsDiffer_of_read hy hx]
    simp only [ne_comm]
  refl p hp := by
    obtain ⟨x, hx⟩ := FileSystem.isFileAt_iff.1 hp
    rw [contentsDiffer_of_read hx hx]
    simp
  trans p q r hp hq hr hpq hqr := by
    obtain ⟨x, hx⟩ := FileSystem.isFileAt_iff.1 hp
    obtain ⟨y, hy⟩ := FileSystem.isFileAt_iff.1 hq
    obtain ⟨z, hz⟩ := FileSystem.isFileAt_iff.1 hr
    rw [contentsDiffer_of_read hx hy] at hpq
    rw [contentsDiffer_of_read hy hz] at hqr
    have hxy : x = y := by simpa using hpq
    have hyz : y = z := by simpa using hqr
    rw [contentsDiffer_of_read hx hz, hxy, hyz]
    simp
  first p q fault hp := by rw [contentsDiffer, hp]
  second p q loc fault hp hq := by simp only [contentsDiffer, hp, hq]
  swap p q differ := contentsDiffer_swap

/-- Two whole chunks, and one byte behind them. -/
def brimful (last : UInt8) : Bytes := List.replicate (2 * chunkSize) 97 ++ [last]

/-- Two files of the same length, `ae` and `be`, which have all bytes but the last in common. -/
def almostAlike : FileSystem where
  top := .file ⟨[97, 101], by decide⟩ (brimful 49) (.file ⟨[98, 101], by decide⟩ (brimful 50) .nil)
  distinct := by decide
  current := []

/-- The third round finds the difference; there is no file `ce`. -/
theorem contentsDiffer_exact_almostAlike :
    almostAlike.read ⟨[97, 101]⟩ = .ok (brimful 49) ∧
      almostAlike.read ⟨[98, 101]⟩ = .ok (brimful 50) ∧
      contentsDiffer almostAlike ⟨[97, 101]⟩ ⟨[98, 101]⟩ = .ok true ∧
      contentsDiffer almostAlike ⟨[98, 101]⟩ ⟨[98, 101]⟩ = .ok false ∧
      contentsDiffer almostAlike ⟨[97, 101]⟩ ⟨[99, 101]⟩ =
        .error (.read ⟨[99, 101]⟩ .notFound) := by
  have hexact := contentsDiffer_exact almostAlike
  have hne : brimful 49 ≠ brimful 50 := by
    intro heq
    cases List.append_cancel_left heq
  refine ⟨rfl, rfl, ?_, hexact.refl _ rfl, hexact.second _ _ [⟨[97, 101], by decide⟩] _ rfl rfl⟩
  rw [hexact.differ _ _ (brimful 49) (brimful 50) rfl rfl, decide_eq_true hne]

end Reconcile
