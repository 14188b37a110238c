import Mathlib.Data.List.Induction
import Mathlib.Data.Set.Finite.Lattice
import Reconcile.FileSystem.Stream

/-!
# Filling buffers from a stream

How a stream answers the requests for its bytes is its own choice: a request gets any number of
bytes, is interrupted, or fails.  `AsksAgain` says after which answers the loop of a fill makes a
further request.  As long as it does, the loop has in its buffer what the answers handed out
(`fillRoom_append`), and the answer that ends it completes what a fill comes to, whatever the
answers were (`fillRoom_settled`).  From this follow

* `fills_of_fill`: a fill reads as much as there is room for, and nothing more;
* `fill_eq_error_iff`: it fails exactly with the failure that it meets;
* `exists_settled_first`: it comes to an end under every endless schedule with finitely many
  interruptions.
-/

namespace Reconcile

namespace Grant

/-- How many bytes the answer hands out at most. -/
def most : Grant → ℕ
  | upTo n => n + 1
  | interrupted => 0
  | failed _ => 0

/-- Is the answer a failure? -/
def isFailure : Grant → Bool
  | failed _ => true
  | _ => false

end Grant

namespace Stream

variable {room left : ℕ} {answers more : List Grant} {grant : Grant}

/-! ## Answers -/

/-- How many bytes the answers hand out at most, together. -/
def supply : List Grant → ℕ
  | [] => 0
  | grant :: answers => grant.most + supply answers

@[simp] lemma supply_nil : supply [] = 0 := rfl

@[simp] lemma supply_cons : supply (grant :: answers) = grant.most + supply answers := rfl

@[simp] lemma supply_append : supply (answers ++ more) = supply answers + supply more := by
  induction answers with
  | nil => simp
  | cons grant answers ih => rw [List.cons_append, supply_cons, supply_cons, ih, Nat.add_assoc]

/-- How many bytes of a stream with `left` bytes the answers hand out. -/
def handedOut (left : ℕ) (answers : List Grant) : ℕ := min (supply answers) left

@[simp] lemma handedOut_nil : handedOut left [] = 0 := by
  simp [handedOut]

@[simp] lemma handedOut_interrupted : handedOut left [.interrupted] = 0 := by
  simp [handedOut, Grant.most]

@[simp] lemma handedOut_upTo {n : ℕ} : handedOut left [.upTo n] = min (n + 1) left := by
  simp [handedOut, Grant.most]

/-- The later answers hand out from what the earlier ones have left. -/
lemma handedOut_append :
    handedOut left (answers ++ more) =
      handedOut left answers + handedOut (left - handedOut left answers) more := by
  simp only [handedOut, supply_append]
  omega

lemma handedOut_cons :
    handedOut left (grant :: answers) =
      handedOut left [grant] + handedOut (left - handedOut left [grant]) answers :=
  @handedOut_append left [grant] answers

/-- None of the answers is a failure. -/
def Unfailing (answers : List Grant) : Prop := ∀ grant ∈ answers, grant.isFailure = false

@[simp] lemma unfailing_append {answers more : List Grant} :
    Unfailing (answers ++ more) ↔ Unfailing answers ∧ Unfailing more :=
  List.forall_mem_append

lemma not_unfailing_of_split {front : List Grant} {fault : Fault}
    (hsplit : answers = front ++ .failed fault :: more) : ¬ Unfailing answers := by
  intro h
  rw [hsplit, unfailing_append] at h
  cases h.2 _ List.mem_cons_self

/-- Bytes that are handed out at once come without a failure. -/
lemma unfailing_ofBytes (bytes : Bytes) : Unfailing (ofBytes bytes).schedule := by
  simp [Unfailing, ofBytes]

/-- After these answers a loop with room for `room` bytes of a stream with `left` bytes makes a
further request. -/
structure AsksAgain (room left : ℕ) (answers : List Grant) : Prop where
  unfailing : Unfailing answers
  /-- There is still room. -/
  room : handedOut left answers < room
  /-- No request for bytes was answered at the end of the stream, where none are left. -/
  left : ∀ front n back, answers = front ++ .upTo n :: back → supply front < left

@[simp] lemma asksAgain_nil : AsksAgain room left [] ↔ 0 < room := by
  constructor
  · intro h
    simpa using h.room
  · intro h
    exact ⟨by simp [Unfailing], by simpa using h, by simp⟩

/-- The later answers are those to a loop that has the bytes of the earlier ones. -/
lemma asksAgain_append :
    AsksAgain room left (answers ++ more) ↔
      AsksAgain room left answers ∧
        AsksAgain (room - handedOut left answers) (left - handedOut left answers) more := by
  constructor
  · rintro ⟨hunfailing, hroom, hleft⟩
    rw [unfailing_append] at hunfailing
    simp only [handedOut, supply_append] at hroom
    refine ⟨⟨hunfailing.1, ?_, fun front n back hsplit => ?_⟩, hunfailing.2, ?_,
      fun front n back hsplit => ?_⟩
    · rw [handedOut]
      omega
    · exact hleft front n (back ++ more) (by simp [hsplit])
    · simp only [handedOut]
      omega
    · have hlt := hleft (answers ++ front) n back (by simp [hsplit])
      rw [supply_append] at hlt
      rw [handedOut]
      omega
  · rintro ⟨⟨hunfailing, hroom, hleft⟩, hunfailing', hroom', hleft'⟩
    simp only [handedOut] at hroom hroom' hleft'
    refine ⟨unfailing_append.2 ⟨hunfailing, hunfailing'⟩, ?_, fun front n back hsplit => ?_⟩
    · rw [handedOut, supply_append]
      omega
    · rcases List.append_eq_append_iff.1 hsplit with ⟨middle, rfl, hmore⟩ | ⟨middle, rfl, hback⟩
      · have hlt := hleft' middle n back hmore
        rw [supply_append]
        omega
      · cases middle with
        | nil =>
          have hlt := hleft' [] n back (by simpa using hback.symm)
          rw [List.append_nil, supply_nil] at hlt
          omega
        | cons grant middle =>
          obtain ⟨rfl, rfl⟩ : Grant.upTo n = grant ∧ back = middle ++ more := by simpa using hback
          exact hleft front n middle rfl

lemma asksAgain_cons :
    AsksAgain room left (grant :: answers) ↔
      AsksAgain room left [grant] ∧
        AsksAgain (room - handedOut left [grant]) (left - handedOut left [grant]) answers :=
  @asksAgain_append room left [grant] answers

@[simp] lemma asksAgain_interrupted : AsksAgain room left [.interrupted] ↔ 0 < room := by
  constructor
  · intro h
    simpa using h.room
  · intro h
    refine ⟨by simp [Unfailing, Grant.isFailure], by simpa using h, ?_⟩
    intro front n back hsplit
    cases front <;> simp at hsplit

@[simp] lemma asksAgain_upTo {n : ℕ} :
    AsksAgain room left [.upTo n] ↔ 0 < left ∧ min (n + 1) left < room := by
  constructor
  · intro h
    exact ⟨by simpa using h.left [] n [] rfl, by simpa using h.room⟩
  · rintro ⟨hleft, hroom⟩
    refine ⟨by simp [Unfailing, Grant.isFailure], by simpa using hroom, ?_⟩
    intro front m back hsplit
    cases front with
    | nil => simpa using hleft
    | cons grant front => simp at hsplit

lemma not_asksAgain_failed {fault : Fault} : ¬ AsksAgain room left [.failed fault] :=
  fun h => not_unfailing_of_split (List.nil_append _).symm h.unfailing

lemma AsksAgain.room_pos (h : AsksAgain room left answers) : 0 < room := by
  have hroom := h.room
  omega

/-- Every answer was an interruption or has handed out a byte. -/
lemma AsksAgain.length_le (h : AsksAgain room left answers) :
    answers.length ≤ answers.count .interrupted + min left (room - 1) := by
  induction answers generalizing room left with
  | nil => exact Nat.zero_le _
  | cons grant answers ih =>
    obtain ⟨hgrant, hanswers⟩ := asksAgain_cons.1 h
    have hlength := ih hanswers
    cases grant with
    | failed fault => exact absurd hgrant not_asksAgain_failed
    | interrupted =>
      rw [handedOut_interrupted] at hlength
      rw [List.length_cons, List.count_cons_self]
      omega
    | upTo n =>
      obtain ⟨hleft, hroom⟩ := asksAgain_upTo.1 hgrant
      rw [handedOut_upTo] at hlength
      rw [List.length_cons, List.count_cons_of_ne (by simp)]
      omega

/-- What is left of the room. -/
lemma AsksAgain.drop_ne_nil {room : Bytes} (h : AsksAgain room.length left answers) :
    room.drop (handedOut left answers) ≠ [] := by
  simpa using h.room

/-! ## The loop -/

variable {front buffer bytes : Bytes} {schedule later : List Grant} {fault : Fault}

/-- What a loop comes to that has `front` in its buffer and leaves the answers `rest`. -/
def outcome (front room bytes : Bytes) (rest : List Grant) : Filled :=
  ⟨front ++ bytes.take room.length ++ room.drop bytes.length,
    front.length + min room.length bytes.length, ⟨bytes.drop room.length, rest⟩⟩

/-- Bytes that are moved from the stream into the buffer do not change what the loop comes to. -/
lemma outcome_advance {room : Bytes} {n : ℕ} (hroom : n ≤ room.length) (hbytes : n ≤ bytes.length)
    (rest : List Grant) :
    outcome (front ++ bytes.take n) (room.drop n) (bytes.drop n) rest =
      outcome front room bytes rest := by
  obtain ⟨k, hk⟩ := Nat.exists_eq_add_of_le hroom
  obtain ⟨l, hl⟩ := Nat.exists_eq_add_of_le hbytes
  simp only [outcome, List.length_append, List.length_take, List.length_drop, List.drop_drop,
    List.append_assoc, Filled.mk.injEq, Stream.mk.injEq, List.append_cancel_left_eq, and_true]
  refine ⟨?_, by omega, by rw [hk, Nat.add_sub_cancel_left]⟩
  rw [← List.append_assoc, hk, hl, Nat.add_sub_cancel_left, Nat.add_sub_cancel_left, List.take_add]

@[simp] lemma fillRoom_full :
    fillRoom front [] bytes schedule = .ok (outcome front [] bytes schedule) := by
  cases schedule <;> simp [fillRoom, outcome]

/-- When the answers are used up, everything is handed out that is asked for. -/
lemma fillRoom_unlimited {room : Bytes} :
    fillRoom front room bytes [] = .ok (outcome front room bytes []) := by
  have hdrop : room.drop (min room.length bytes.length) = room.drop bytes.length := by
    rw [Nat.min_comm, ← List.drop_eq_drop_min]
  simp only [fillRoom, outcome, List.length_take, hdrop]

lemma fillRoom_interrupted {room : Bytes} (hroom : room ≠ []) :
    fillRoom front room bytes (.interrupted :: schedule) = fillRoom front room bytes schedule := by
  rw [fillRoom, if_neg hroom]

lemma fillRoom_failed {room : Bytes} (hroom : room ≠ []) :
    fillRoom front room bytes (.failed fault :: schedule) = .error fault := by
  rw [fillRoom, if_neg hroom]

/-- At the end of the stream nothing is handed out, and the loop ends. -/
lemma fillRoom_ended {room : Bytes} (hroom : room ≠ []) {n : ℕ} :
    fillRoom front room [] (.upTo n :: schedule) = .ok (outcome front room [] schedule) := by
  simp [fillRoom, hroom, outcome]

/-- Before the end something is handed out, and the loop goes on. -/
lemma fillRoom_upTo {room : Bytes} (hroom : room ≠ []) (hbytes : bytes ≠ []) {n : ℕ} :
    fillRoom front room bytes (.upTo n :: schedule) =
      let k := min (min (n + 1) bytes.length) room.length
      fillRoom (front ++ bytes.take k) (room.drop k) (bytes.drop k) schedule := by
  have hgot : bytes.take (min (n + 1) room.length) ≠ [] := by
    simp [hroom, hbytes]
  have hlength : (bytes.take (min (n + 1) room.length)).length =
      min (min (n + 1) bytes.length) room.length := by
    rw [List.length_take, Nat.min_right_comm]
  have htake : bytes.take (min (n + 1) room.length) =
      bytes.take (min (min (n + 1) bytes.length) room.length) := by
    rw [List.take_eq_take_min, Nat.min_right_comm]
  simp only [fillRoom, if_neg hroom, if_neg hgot, hlength]
  rw [htake]

/-- **A step of a loop that asks again** puts what is handed out into the buffer. -/
lemma fillRoom_step {room : Bytes} (h : AsksAgain room.length bytes.length [grant]) :
    fillRoom front room bytes (grant :: schedule) =
      let k := handedOut bytes.length [grant]
      fillRoom (front ++ bytes.take k) (room.drop k) (bytes.drop k) schedule := by
  have hroom : room ≠ [] := List.length_pos_iff.1 h.room_pos
  cases grant with
  | failed fault => exact absurd h not_asksAgain_failed
  | interrupted => simp [fillRoom_interrupted hroom]
  | upTo n =>
    obtain ⟨hbytes, hlt⟩ := asksAgain_upTo.1 h
    rw [fillRoom_upTo hroom (List.length_pos_iff.1 hbytes), Nat.min_eq_left hlt.le, handedOut_upTo]

/-- **A loop that asks again has what the answers handed out.** -/
theorem fillRoom_append {room : Bytes} (h : AsksAgain room.length bytes.length answers) :
    fillRoom front room bytes (answers ++ schedule) =
      let k := handedOut bytes.length answers
      fillRoom (front ++ bytes.take k) (room.drop k) (bytes.drop k) schedule := by
  induction answers generalizing front room bytes with
  | nil => simp
  | cons grant answers ih =>
    obtain ⟨hgrant, hanswers⟩ := asksAgain_cons.1 h
    have hk : handedOut bytes.length (grant :: answers) = handedOut bytes.length [grant] +
        handedOut (bytes.length - handedOut bytes.length [grant]) answers := handedOut_cons
    rw [List.cons_append, fillRoom_step hgrant, hk]
    simp only
    rw [ih (by rwa [List.length_drop, List.length_drop])]
    simp only [List.length_drop, List.take_add, List.drop_drop, List.append_assoc]

/-- **The step after which a loop does not ask again** completes the outcome. -/
lemma fillRoom_last {room : Bytes} (hroom : room ≠ []) (hgrant : grant.isFailure = false)
    (hstop : ¬ AsksAgain room.length bytes.length [grant]) :
    fillRoom front room bytes (grant :: later) = .ok (outcome front room bytes later) := by
  cases grant with
  | failed fault => cases hgrant
  | interrupted => exact absurd (asksAgain_interrupted.2 (List.length_pos_iff.2 hroom)) hstop
  | upTo n =>
    rw [asksAgain_upTo, List.length_pos_iff] at hstop
    by_cases hbytes : bytes = []
    · rw [hbytes, fillRoom_ended hroom]
    · -- The answer fills the room.
      have hfull : room.length ≤ min (n + 1) bytes.length :=
        not_lt.1 fun hlt => hstop ⟨hbytes, hlt⟩
      rw [fillRoom_upTo hroom hbytes, Nat.min_eq_right hfull,
        ← outcome_advance le_rfl (hfull.trans (Nat.min_le_right _ _))]
      simp only [List.drop_length, fillRoom_full]

/-! ## Where the loop ends -/

/-- With the last of these answers a loop ends that has room for `room` bytes of a stream with
`left` bytes. -/
structure Settled (room left : ℕ) (asked : List Grant) : Prop where
  unfailing : Unfailing asked
  ended : ¬ AsksAgain room left asked
  asksAgain : ∀ answers grant, asked = answers ++ [grant] → AsksAgain room left answers

/-- Every answer but the last was an interruption or has handed out a byte. -/
lemma Settled.length_le (h : Settled room left answers) :
    answers.length ≤ answers.count .interrupted + min room (left + 1) := by
  rcases List.eq_nil_or_concat' answers with rfl | ⟨front, grant, rfl⟩
  · exact Nat.zero_le _
  · have hfront := h.asksAgain front grant rfl
    have hlength := hfront.length_le
    have hroom := hfront.room_pos
    rw [List.length_append, List.length_singleton, List.count_append]
    omega

/-- A loop that has ended comes to its outcome, and the answers behind are left. -/
theorem fillRoom_settled {room : Bytes} (h : Settled room.length bytes.length answers) :
    fillRoom front room bytes (answers ++ later) = .ok (outcome front room bytes later) := by
  rcases List.eq_nil_or_concat' answers with rfl | ⟨asked, grant, rfl⟩
  · have hroom : room = [] := by simpa using h.ended
    rw [hroom, List.nil_append, fillRoom_full]
  · have hasked := h.asksAgain asked grant rfl
    have hstop := h.ended
    have hgrant : grant.isFailure = false := h.unfailing _ (by simp)
    rw [asksAgain_append, ← List.length_drop, ← List.length_drop] at hstop
    rw [List.append_assoc, fillRoom_append hasked]
    simp only [List.singleton_append]
    rw [fillRoom_last hasked.drop_ne_nil hgrant fun hasks => hstop ⟨hasked, hasks⟩,
      outcome_advance hasked.room.le (Nat.min_le_right _ _)]

/-- A loop that asks again when the answers are used up gets all that it asks for. -/
lemma fillRoom_asksAgain {room : Bytes} (h : AsksAgain room.length bytes.length answers) :
    fillRoom front room bytes answers = .ok (outcome front room bytes []) := by
  conv_lhs => rw [← List.append_nil answers, fillRoom_append h]
  rw [fillRoom_unlimited, outcome_advance h.room.le (Nat.min_le_right _ _)]

/-- A failure ends the loop that meets it. -/
lemma fillRoom_fails {room : Bytes} (h : AsksAgain room.length bytes.length answers) :
    fillRoom front room bytes (answers ++ .failed fault :: later) = .error fault := by
  rw [fillRoom_append h, fillRoom_failed h.drop_ne_nil]

/-- What becomes of a loop under a schedule, until the answers are used up. -/
inductive Course (room left : ℕ) (schedule : List Grant) : Prop
  | asksAgain (h : AsksAgain room left schedule)
  | settled (asked later : List Grant) (hsplit : schedule = asked ++ later)
      (h : Settled room left asked)
  | fails (answers : List Grant) (fault : Fault) (later : List Grant)
      (hsplit : schedule = answers ++ .failed fault :: later) (h : AsksAgain room left answers)

/-- Every loop asks again, ends or fails. -/
theorem course (room left : ℕ) (schedule : List Grant) : Course room left schedule := by
  -- One answer more matters only to a loop that has asked for it.
  induction schedule using List.reverseRecOn with
  | nil =>
    by_cases hroom : 0 < room
    · exact .asksAgain (asksAgain_nil.2 hroom)
    · exact .settled [] [] rfl ⟨by simp [Unfailing], by simpa using hroom, by simp⟩
  | append_singleton schedule grant ih =>
    cases ih with
    | settled asked later hsplit h =>
      exact .settled asked (later ++ [grant]) (by rw [hsplit, List.append_assoc]) h
    | fails answers fault later hsplit h =>
      exact .fails answers fault (later ++ [grant]) (by rw [hsplit]; simp) h
    | asksAgain h =>
      by_cases hasks : AsksAgain room left (schedule ++ [grant])
      · exact .asksAgain hasks
      · cases hgrant : grant.isFailure with
        | false =>
          refine .settled (schedule ++ [grant]) [] (by simp) ⟨?_, hasks, ?_⟩
          · exact unfailing_append.2 ⟨h.unfailing, by simpa [Unfailing] using hgrant⟩
          · intro answers grant' hsplit
            rwa [← (List.append_inj' hsplit rfl).1]
        | true =>
          cases grant with
          | failed fault => exact .fails schedule fault [] rfl h
          | upTo n | interrupted => cases hgrant

/-! ## Fills -/

variable {s : Stream} {filled : Filled}

/-- As much was read as there is room for. -/
structure Fills (s : Stream) (buffer : Bytes) (filled : Filled) : Prop where
  count : filled.count = min buffer.length s.bytes.length
  /-- The front of the buffer holds the next bytes of the stream. -/
  read : filled.buffer.take filled.count = s.bytes.take filled.count
  /-- The rest of it is as it was. -/
  kept : filled.buffer.drop filled.count = buffer.drop filled.count
  /-- Only what was read is no longer to come. -/
  rest : filled.rest.bytes = s.bytes.drop filled.count
  /-- Interruptions apart, every request but the last has got a byte. -/
  asked : ∃ asked, s.schedule = asked ++ filled.rest.schedule ∧
    asked.length ≤ asked.count .interrupted + min buffer.length (s.bytes.length + 1)

lemma fills_outcome {asked rest : List Grant} (hsplit : s.schedule = asked ++ rest)
    (hlength : asked.length ≤ asked.count .interrupted + min buffer.length (s.bytes.length + 1)) :
    s.Fills buffer (outcome [] buffer s.bytes rest) := by
  have htake : (s.bytes.take buffer.length).length = min buffer.length s.bytes.length :=
    List.length_take
  refine ⟨by simp [outcome], ?_, ?_, ?_, asked, hsplit, hlength⟩
  all_goals simp only [outcome, List.nil_append, List.length_nil, Nat.zero_add]
  · rw [List.take_left' htake, ← List.take_eq_take_min]
  · rw [List.drop_left' htake, Nat.min_comm, ← List.drop_eq_drop_min]
  · rw [← List.drop_eq_drop_min]

/-- A fill under a schedule without failures succeeds. -/
theorem exists_fill (hschedule : Unfailing s.schedule) (buffer : Bytes) :
    ∃ filled, s.fill buffer = .ok filled := by
  cases course buffer.length s.bytes.length s.schedule with
  | asksAgain h => exact ⟨_, fillRoom_asksAgain h⟩
  | settled asked later hsplit h => exact ⟨_, by rw [fill, hsplit, fillRoom_settled h]⟩
  | fails answers fault later hsplit h =>
    exact absurd hschedule (not_unfailing_of_split hsplit)

/-- **A fill that succeeds reads as much as there is room for**, and nothing more. -/
theorem fills_of_fill (h : s.fill buffer = .ok filled) : s.Fills buffer filled := by
  cases course buffer.length s.bytes.length s.schedule with
  | asksAgain hasks =>
    have hlength := hasks.length_le
    rw [fill, fillRoom_asksAgain hasks, Except.ok.injEq] at h
    rw [← h]
    exact fills_outcome (List.append_nil _).symm (by omega)
  | settled asked later hsplit hsettled =>
    rw [fill, hsplit, fillRoom_settled hsettled, Except.ok.injEq] at h
    rw [← h]
    exact fills_outcome hsplit hsettled.length_le
  | fails answers fault later hsplit hasks =>
    rw [fill, hsplit, fillRoom_fails hasks] at h
    cases h

/-- **A fill fails exactly with the failure that it meets.** -/
theorem fill_eq_error_iff :
    s.fill buffer = .error fault ↔
      ∃ answers later, s.schedule = answers ++ .failed fault :: later ∧
        AsksAgain buffer.length s.bytes.length answers := by
  constructor
  · intro h
    cases course buffer.length s.bytes.length s.schedule with
    | asksAgain hasks =>
      rw [fill, fillRoom_asksAgain hasks] at h
      cases h
    | settled asked later hsplit hsettled =>
      rw [fill, hsplit, fillRoom_settled hsettled] at h
      cases h
    | fails answers fault' later hsplit hasks =>
      rw [fill, hsplit, fillRoom_fails hasks, Except.error.injEq] at h
      exact ⟨answers, later, h ▸ hsplit, hasks⟩
  · rintro ⟨answers, later, hsplit, hasks⟩
    rw [fill, hsplit, fillRoom_fails hasks]

namespace Fills

/-- The buffer is as large as it was. -/
lemma size (h : s.Fills buffer filled) : filled.buffer.length = buffer.length := by
  have hread := congrArg List.length h.read
  have hkept := congrArg List.length h.kept
  have hcount := h.count
  simp only [List.length_take, List.length_drop] at hread hkept
  omega

lemma take_buffer (h : s.Fills buffer filled) :
    filled.buffer.take filled.count = s.bytes.take buffer.length := by
  rw [h.read, h.count, ← List.take_eq_take_min]

lemma bytes_rest (h : s.Fills buffer filled) :
    filled.rest.bytes = s.bytes.drop buffer.length := by
  rw [h.rest, h.count, ← List.drop_eq_drop_min]

lemma unfailing_rest (h : s.Fills buffer filled) (hschedule : Unfailing s.schedule) :
    Unfailing filled.rest.schedule := by
  obtain ⟨asked, hsplit, -⟩ := h.asked
  rw [hsplit, unfailing_append] at hschedule
  exact hschedule.2

end Fills

/-! ## Endless schedules -/

/-- The first `n` answers of an endless schedule. -/
def first (answers : ℕ → Grant) (n : ℕ) : List Grant := (List.range n).map answers

lemma first_add (answers : ℕ → Grant) (m n : ℕ) :
    first answers (m + n) = first answers m ++ first (fun i => answers (m + i)) n := by
  simp [first, List.range_add, Function.comp_def]

lemma unfailing_first {answers : ℕ → Grant} (h : ∀ i, (answers i).isFailure = false) (n : ℕ) :
    Unfailing (first answers n) := by
  simp [Unfailing, first, h]

/-- **With finitely many interruptions every loop ends.** -/
theorem exists_settled_first {answers : ℕ → Grant} (hanswers : ∀ i, (answers i).isFailure = false)
    (hfinite : {i | answers i = .interrupted}.Finite) (room left : ℕ) :
    ∃ n, Settled room left (first answers n) := by
  obtain ⟨bound, hbound⟩ := hfinite.bddAbove
  -- From here on, every answer but the last hands out a byte.
  have hlate : (first (fun i => answers (bound + 1 + i)) room).count .interrupted = 0 := by
    rw [List.count_eq_zero]
    intro hmem
    obtain ⟨i, -, hi⟩ := List.mem_map.1 hmem
    have hle : bound + 1 + i ≤ bound := hbound hi
    omega
  cases course room left (first answers (bound + 1 + room)) with
  | asksAgain h =>
    have hlength := h.length_le
    have hroom := h.room_pos
    have hearly : (first answers (bound + 1)).count .interrupted ≤ bound + 1 :=
      List.count_le_length.trans (by simp [first])
    rw [first_add, List.count_append, hlate, List.length_append] at hlength
    simp only [first, List.length_map, List.length_range] at hlength hearly
    omega
  | settled asked later hsplit h =>
    refine ⟨asked.length, ?_⟩
    have hlength : bound + 1 + room = asked.length + later.length := by
      simpa [first] using congrArg List.length hsplit
    rw [hlength, first_add] at hsplit
    rwa [(List.append_inj hsplit (by simp [first])).1]
  | fails answers' fault later hsplit h =>
    exact absurd (unfailing_first hanswers _) (not_unfailing_of_split hsplit)

/-- The first answers of an endless schedule, up to some number, are enough for a fill, and it
leaves those that come behind. -/
theorem exists_fill_first {answers : ℕ → Grant} (hanswers : ∀ i, (answers i).isFailure = false)
    (hfinite : {i | answers i = .interrupted}.Finite) (bytes buffer : Bytes) :
    ∃ n, ∀ later, ∃ filled, (Stream.mk bytes (first answers n ++ later)).fill buffer = .ok filled ∧
      filled.rest.schedule = later := by
  obtain ⟨n, hn⟩ := exists_settled_first hanswers hfinite buffer.length bytes.length
  exact ⟨n, fun later => ⟨_, fillRoom_settled hn, rfl⟩⟩

end Stream
end Reconcile
