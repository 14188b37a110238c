import Mathlib.Data.List.SplitLengths
import Reconcile.Proofs.FileSystem.Stream

/-!
# Chunks of a stream

Fills that follow each other cut a stream where the sizes of their buffers say (`fillEach_eq`),
however it hands out its bytes.  If one buffer is filled again and again until a chunk is short
(`Chunks`), that chunk is the end of the stream, and all before it are full (`Chunks.cutInto`).
`readsThrough` says this of the bytes of a stream, over all its schedules.
-/

namespace Reconcile
namespace Stream

variable {s : Stream} {filled : Filled} {buffer : Bytes}

/-! ## One fill after the other -/

/-- Fills the buffers in turn.  The chunks are what the stream has put into them. -/
def fillEach (s : Stream) : List Bytes → Except Fault (List Bytes × Stream)
  | [] => .ok ([], s)
  | buffer :: buffers => do
    let filled ← s.fill buffer
    let (chunks, rest) ← filled.rest.fillEach buffers
    return (filled.buffer.take filled.count :: chunks, rest)

lemma fillEach_cons {buffers chunks : List Bytes} {rest : Stream}
    (hfill : s.fill buffer = .ok filled)
    (heach : filled.rest.fillEach buffers = .ok (chunks, rest)) :
    s.fillEach (buffer :: buffers) = .ok (filled.buffer.take filled.count :: chunks, rest) := by
  simp only [fillEach, hfill, bind, Except.bind, heach]
  rfl

/-- **The sizes of the buffers alone say where the stream is cut.** -/
theorem fillEach_eq (hschedule : Unfailing s.schedule) (buffers : List Bytes) :
    ∃ rest, s.fillEach buffers = .ok ((buffers.map List.length).splitLengths s.bytes, rest) ∧
      rest.bytes = s.bytes.drop buffers.flatten.length := by
  induction buffers generalizing s with
  | nil => exact ⟨s, rfl, rfl⟩
  | cons buffer buffers ih =>
    obtain ⟨filled, hfill⟩ := exists_fill hschedule buffer
    have hfills := fills_of_fill hfill
    obtain ⟨rest, heach, hrest⟩ := ih (hfills.unfailing_rest hschedule)
    refine ⟨rest, ?_, ?_⟩
    · rw [fillEach_cons hfill heach, hfills.take_buffer, hfills.bytes_rest, List.map_cons,
        List.splitLengths_cons]
    · rw [hrest, hfills.bytes_rest, List.drop_drop, List.flatten_cons, List.length_append]

/-- The first answers of an endless schedule, up to some number, are enough for the fills of any
buffers, and they leave those that come behind. -/
theorem exists_fillEach_first {answers : ℕ → Grant}
    (hanswers : ∀ i, (answers i).isFailure = false)
    (hfinite : {i | answers i = .interrupted}.Finite) (bytes : Bytes) (buffers : List Bytes) :
    ∃ n, ∀ later, fillEach ⟨bytes, first answers n ++ later⟩ buffers =
      .ok ((buffers.map List.length).splitLengths bytes,
        ⟨bytes.drop buffers.flatten.length, later⟩) := by
  induction buffers generalizing answers bytes with
  | nil => exact ⟨0, fun later => rfl⟩
  | cons buffer buffers ih =>
    obtain ⟨m, hm⟩ := exists_fill_first hanswers hfinite bytes buffer
    -- The next fills begin with answer number `m`.
    have hfinite' : {i | answers (m + i) = .interrupted}.Finite :=
      hfinite.preimage (add_right_injective m).injOn
    obtain ⟨n, hn⟩ := ih (fun i => hanswers (m + i)) hfinite' (bytes.drop buffer.length)
    refine ⟨m + n, fun later => ?_⟩
    rw [first_add, List.append_assoc]
    obtain ⟨filled, hfill, hschedule⟩ := hm (first (fun i => answers (m + i)) n ++ later)
    have hfills := fills_of_fill hfill
    have hrest : filled.rest =
        ⟨bytes.drop buffer.length, first (fun i => answers (m + i)) n ++ later⟩ := by
      rw [← hschedule, ← hfills.bytes_rest]
    have heach := hn later
    rw [← hrest] at heach
    rw [fillEach_cons hfill heach, hfills.take_buffer, List.map_cons, List.splitLengths_cons,
      List.drop_drop, List.flatten_cons, List.length_append]

/-! ## Chunks of one size -/

/-- The chunks that the buffer holds one after the other, when it is filled again and again until
a chunk is short. -/
inductive Chunks : (s : Stream) → (buffer : Bytes) → List Bytes → Prop
  | last {s : Stream} {buffer : Bytes} {filled : Filled} :
      s.fill buffer = .ok filled → filled.count < buffer.length →
      Chunks s buffer [filled.buffer.take filled.count]
  | more {s : Stream} {buffer : Bytes} {filled : Filled} {chunks : List Bytes} :
      s.fill buffer = .ok filled → ¬ filled.count < buffer.length →
      Chunks filled.rest filled.buffer chunks →
      Chunks s buffer (filled.buffer.take filled.count :: chunks)

/-- The bytes are cut into chunks of this size, but for the last one, which is short (and empty if
the others hold all bytes). -/
structure CutInto (size : ℕ) (bytes : Bytes) (chunks : List Bytes) : Prop where
  flatten : chunks.flatten = bytes
  full : ∀ chunk ∈ chunks.dropLast, chunk.length = size
  short : ∃ chunk ∈ chunks.getLast?, chunk.length < size

variable {chunks : List Bytes}

/-- Only the last chunk is short. -/
theorem Chunks.cutInto (h : s.Chunks buffer chunks) : CutInto buffer.length s.bytes chunks := by
  induction h with
  | @last s buffer filled hfill hshort =>
    have hfills := fills_of_fill hfill
    have hbytes : s.bytes.length < buffer.length := by
      have hcount := hfills.count
      omega
    rw [hfills.take_buffer, List.take_of_length_le hbytes.le]
    exact ⟨by simp, by simp, s.bytes, rfl, hbytes⟩
  | @more s buffer filled chunks hfill hfull _ ih =>
    have hfills := fills_of_fill hfill
    have hbytes : buffer.length ≤ s.bytes.length := by
      have hcount := hfills.count
      omega
    rw [hfills.take_buffer]
    rw [hfills.size, hfills.bytes_rest] at ih
    obtain ⟨hflatten, hchunks, last, hlast, hshort⟩ := ih
    have hne : chunks ≠ [] := by
      rintro rfl
      cases hlast
    refine ⟨?_, ?_, last, ?_, hshort⟩
    · rw [List.flatten_cons, hflatten, List.take_append_drop]
    · rw [List.dropLast_cons_of_ne_nil hne, List.forall_mem_cons]
      exact ⟨List.length_take_of_le hbytes, hchunks⟩
    · rw [List.getLast?_cons_of_ne_nil hne]
      exact hlast

/-- Reading chunk after chunk comes to an end. -/
theorem exists_chunks (hschedule : Unfailing s.schedule) (hbuffer : 0 < buffer.length) :
    ∃ chunks, s.Chunks buffer chunks := by
  induction hlength : s.bytes.length using Nat.strongRecOn generalizing s buffer with
  | ind n ih =>
    obtain ⟨filled, hfill⟩ := exists_fill hschedule buffer
    have hfills := fills_of_fill hfill
    by_cases hshort : filled.count < buffer.length
    · exact ⟨_, .last hfill hshort⟩
    · have hrest : filled.rest.bytes.length < n := by
        have hcount := hfills.count
        rw [hfills.bytes_rest, List.length_drop]
        omega
      obtain ⟨chunks, hchunks⟩ := ih _ hrest (hfills.unfailing_rest hschedule)
        (hfills.size ▸ hbuffer) rfl
      exact ⟨_, .more hfill hshort hchunks⟩

/-- The chunks depend on the bytes and on the size of the buffer alone. -/
theorem Chunks.unique {s' : Stream} {buffer' : Bytes} {chunks' : List Bytes}
    (h : s.Chunks buffer chunks) (h' : s'.Chunks buffer' chunks') (hbytes : s.bytes = s'.bytes)
    (hsize : buffer.length = buffer'.length) : chunks = chunks' := by
  induction h generalizing s' buffer' chunks' with
  | last hfill hshort =>
    have hfills := fills_of_fill hfill
    cases h' with
    | last hfill' _ => rw [hfills.take_buffer, (fills_of_fill hfill').take_buffer, hbytes, hsize]
    | more hfill' hfull' _ =>
      refine absurd ?_ hfull'
      rwa [(fills_of_fill hfill').count, ← hbytes, ← hsize, ← hfills.count]
  | more hfill hfull _ ih =>
    have hfills := fills_of_fill hfill
    cases h' with
    | last hfill' hshort' =>
      refine absurd ?_ hfull
      rwa [hfills.count, hbytes, hsize, ← (fills_of_fill hfill').count]
    | more hfill' _ hmore' =>
      have hfills' := fills_of_fill hfill'
      rw [hfills.take_buffer, hfills'.take_buffer, hbytes, hsize,
        ih hmore' (by rw [hfills.bytes_rest, hfills'.bytes_rest, hbytes, hsize])
          (by rw [hfills.size, hfills'.size, hsize])]

/-! ## Under every schedule -/

/-- What fills take from a stream of these bytes, however it answers the requests. -/
structure ReadsThrough (bytes : Bytes) : Prop where
  /-- A fill reads as much as there is room for, if no request fails. -/
  fill : ∀ schedule buffer, Unfailing schedule →
    ∃ filled, (Stream.mk bytes schedule).fill buffer = .ok filled ∧
      (Stream.mk bytes schedule).Fills buffer filled
  /-- So it does under every endless schedule with finitely many interruptions, of which it takes
  the first answers up to some number; the others are left. -/
  fillEndless : ∀ (answers : ℕ → Grant) (buffer : Bytes), (∀ i, (answers i).isFailure = false) →
    {i | answers i = .interrupted}.Finite →
    ∃ n, ∀ later, ∃ filled, (Stream.mk bytes (first answers n ++ later)).fill buffer = .ok filled ∧
      (Stream.mk bytes (first answers n ++ later)).Fills buffer filled ∧
      filled.rest.schedule = later
  /-- A failure is returned if there is still a request to be made when it comes. -/
  failure : ∀ schedule buffer fault, (Stream.mk bytes schedule).fill buffer = .error fault ↔
    ∃ answers later, schedule = answers ++ .failed fault :: later ∧
      AsksAgain buffer.length bytes.length answers
  /-- Fills of any buffers, one after the other, cut the bytes by the sizes of the buffers. -/
  each : ∀ schedule buffers, Unfailing schedule →
    ∃ rest, fillEach ⟨bytes, schedule⟩ buffers =
        .ok ((buffers.map List.length).splitLengths bytes, rest) ∧
      rest.bytes = bytes.drop buffers.flatten.length
  /-- So they do under every endless schedule with finitely many interruptions. -/
  eachEndless : ∀ (answers : ℕ → Grant) (buffers : List Bytes),
    (∀ i, (answers i).isFailure = false) → {i | answers i = .interrupted}.Finite →
    ∃ n, ∀ later, fillEach ⟨bytes, first answers n ++ later⟩ buffers =
      .ok ((buffers.map List.length).splitLengths bytes,
        ⟨bytes.drop buffers.flatten.length, later⟩)
  /-- Fills of one buffer, up to the first short chunk, give the same chunks under every schedule,
  and only the last one is short. -/
  chunks : ∀ size, 0 < size → ∃ chunks, CutInto size bytes chunks ∧
    ∀ schedule buffer chunks', Unfailing schedule → buffer.length = size →
      (Chunks ⟨bytes, schedule⟩ buffer chunks' ↔ chunks' = chunks)

/-- **Fills read through short reads and interruptions**: what they take from a stream does not
depend on how it hands out its bytes. -/
theorem readsThrough (bytes : Bytes) : ReadsThrough bytes where
  fill schedule buffer hschedule := by
    obtain ⟨filled, hfill⟩ := exists_fill (s := ⟨bytes, schedule⟩) hschedule buffer
    exact ⟨filled, hfill, fills_of_fill hfill⟩
  fillEndless answers buffer hanswers hfinite := by
    obtain ⟨n, hn⟩ := exists_fill_first hanswers hfinite bytes buffer
    refine ⟨n, fun later => ?_⟩
    obtain ⟨filled, hfill, hlater⟩ := hn later
    exact ⟨filled, hfill, fills_of_fill hfill, hlater⟩
  failure schedule buffer fault := fill_eq_error_iff
  each schedule buffers hschedule := fillEach_eq hschedule buffers
  eachEndless answers buffers hanswers hfinite :=
    exists_fillEach_first hanswers hfinite bytes buffers
  chunks size hsize := by
    have hbuffer : (List.replicate size (0 : UInt8)).length = size := List.length_replicate
    obtain ⟨chunks, hchunks⟩ := exists_chunks (unfailing_ofBytes bytes) (hbuffer.symm ▸ hsize)
    refine ⟨chunks, hbuffer ▸ hchunks.cutInto, fun schedule buffer chunks' hschedule hlength => ?_⟩
    obtain ⟨found, hfound⟩ := exists_chunks (s := ⟨bytes, schedule⟩) hschedule (hlength ▸ hsize)
    have hunique := hfound.unique hchunks rfl (hlength.trans hbuffer.symm)
    constructor
    · intro h
      exact h.unique hchunks rfl (hlength.trans hbuffer.symm)
    · rintro rfl
      rwa [← hunique]

/-- Three bytes at a time, with one interruption. -/
def trickle (i : ℕ) : Grant := if i = 1 then .interrupted else .upTo 2

/-- The text "hello world" in two chunks of at most eight bytes, and nothing behind them; and the
same text with a failure after the first three bytes. -/
theorem readsThrough_trickle :
    (∀ i, (trickle i).isFailure = false) ∧ {i | trickle i = .interrupted}.Finite ∧
      (∃ n, ∀ later, fillEach
        ⟨[104, 101, 108, 108, 111, 32, 119, 111, 114, 108, 100], first trickle n ++ later⟩
        [List.replicate 8 0, List.replicate 8 0, List.replicate 8 0] =
          .ok ([[104, 101, 108, 108, 111, 32, 119, 111], [114, 108, 100], []], ⟨[], later⟩)) ∧
      AsksAgain 8 11 [.upTo 2, .interrupted] ∧
      fill ⟨[104, 101, 108, 108, 111, 32, 119, 111, 114, 108, 100],
        [.upTo 2, .interrupted, .failed .isDirectory]⟩ (List.replicate 8 0) =
          .error .isDirectory := by
  have hreads := readsThrough [104, 101, 108, 108, 111, 32, 119, 111, 114, 108, 100]
  have hanswers : ∀ i, (trickle i).isFailure = false := by
    intro i
    rw [trickle]
    split <;> rfl
  have hfinite : {i | trickle i = .interrupted}.Finite := by
    refine (Set.finite_singleton 1).subset fun i hi => ?_
    by_contra hne
    simp [trickle, show i ≠ 1 from hne] at hi
  have hasks : AsksAgain 8 11 [.upTo 2, .interrupted] := asksAgain_cons.2 ⟨by simp, by simp⟩
  obtain ⟨n, hn⟩ := hreads.eachEndless trickle
    [List.replicate 8 0, List.replicate 8 0, List.replicate 8 0] hanswers hfinite
  exact ⟨hanswers, hfinite, ⟨n, hn⟩, hasks, (hreads.failure _ _ _).2 ⟨_, [], rfl, hasks⟩⟩

end Stream
end Reconcile
