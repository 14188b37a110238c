import Mathlib.Data.List.Basic
import Reconcile.Json.Typed

/-!
# What a reader takes from the front of its input

A reader takes the value that was written if it gives that value back and stops right behind the
text, whatever may stand behind a value there (`Json.Takes`).  A complete text is read by what takes
it (`Json.Takes.run`).
-/

namespace Reconcile
namespace Json

variable {α β : Type} {a : α} {c : Char} {cs : List Char} {input input' : Input}
  {r : Reader α} {f : α → Reader β}

namespace Input

/-- The input with a text in front of it. -/
def behind (cs : List Char) (input : Input) : Input :=
  { input with bytes := Utf8.encodeChars cs ++ input.bytes }

@[simp] lemma behind_nil (input : Input) : input.behind [] = input := rfl

lemma behind_append (cs ds : List Char) (input : Input) :
    input.behind (cs ++ ds) = (input.behind ds).behind cs := by
  simp [behind]

/-- May the input stand behind a value?  Either it is at its end, or the list or object around the
value goes on or ends. -/
def Follows (input : Input) : Prop :=
  match input.bytes with
  | [] => input.ending = .complete
  | b :: _ => b = byte ',' ∨ b = byte ']' ∨ b = byte '\x7d'

end Input

/-- Is the character written as one byte, which is no blank? -/
def IsToken (c : Char) : Prop := c.toNat < 128 ∧ Reader.isBlank (byte c) = false

instance (c : Char) : Decidable (IsToken c) := inferInstanceAs (Decidable (_ ∧ _))

/-- May a value start with the character?  In a list it must not be taken for the end. -/
def Opens (c : Char) : Prop := IsToken c ∧ byte c ≠ byte ']'

instance (c : Char) : Decidable (Opens c) := inferInstanceAs (Decidable (_ ∧ _))

/-- The value `a` was written as `written`, and is taken from there. -/
structure Takes (r : Reader α) (written : List Char) (a : α) : Prop where
  opens : ∃ c cs, written = c :: cs ∧ Opens c
  takes : ∀ input, input.Follows → r (input.behind written) = .ok (a, input)

/-! ## Characters at the front -/

lemma encodeChar_ascii (hc : c.toNat < 128) : String.utf8EncodeChar c = [byte c] := by
  have hle : c.val.toNat ≤ 127 := Nat.le_of_lt_succ hc
  rw [String.utf8EncodeChar, if_pos hle]
  rfl

lemma encodeChars_cons_ascii (hc : c.toNat < 128) (cs : List Char) :
    Utf8.encodeChars (c :: cs) = byte c :: Utf8.encodeChars cs := by
  rw [Utf8.encodeChars_cons, encodeChar_ascii hc, List.singleton_append]

lemma encodeChars_ascii (hcs : ∀ c ∈ cs, c.toNat < 128) : Utf8.encodeChars cs = cs.map byte := by
  induction cs with
  | nil => rfl
  | cons c cs ih =>
    rw [encodeChars_cons_ascii (hcs c List.mem_cons_self), ih fun d hd =>
      hcs d (List.mem_cons_of_mem c hd), List.map_cons]

lemma toNat_byte (hc : c.toNat < 128) : (byte c).toNat = c.toNat :=
  UInt8.toNat_ofNat_of_lt' (Nat.lt_trans hc (by decide))

lemma byte_injective (hc : c.toNat < 128) {d : Char} (hd : d.toNat < 128)
    (h : byte c = byte d) : c = d := by
  rwa [← UInt8.toNat_inj, toNat_byte hc, toNat_byte hd, Char.toNat_inj] at h

namespace Reader

lemma bind_of_ok (h : r input = .ok (a, input')) : (r >>= f) input = f a input' := by
  simp only [bind, StateT.bind, h, Except.bind]

lemma get_apply (input : Input) : (get : Reader Input) input = .ok (input, input) := rfl

lemma peek_behind (hc : c.toNat < 128) (cs : List Char) (input : Input) :
    peek (input.behind (c :: cs)) = .ok (some (byte c), input.behind (c :: cs)) := by
  rw [Input.behind, encodeChars_cons_ascii hc]
  rfl

lemma skip_behind (hc : c.toNat < 128) (cs : List Char) (input : Input) :
    skip (input.behind (c :: cs)) = .ok ((), input.behind cs) := by
  rw [Input.behind, encodeChars_cons_ascii hc]
  rfl

lemma peekValue_behind (hc : IsToken c) (cs : List Char) (input : Input) :
    peekValue (input.behind (c :: cs)) = .ok (some (byte c), input.behind (c :: cs)) := by
  have hblanks : takeWhile isBlank (input.behind (c :: cs)) = .ok ([], input.behind (c :: cs)) := by
    simp [takeWhile, Input.behind, encodeChars_cons_ascii hc.1, hc.2]
  rw [peekValue, bind_of_ok hblanks, peek_behind hc.1]

lemma valueStart_behind (hc : IsToken c) (cs : List Char) (input : Input) :
    valueStart (input.behind (c :: cs)) = .ok (byte c, input.behind (c :: cs)) := by
  rw [valueStart, bind_of_ok (peekValue_behind hc cs input)]
  rfl

lemma literal_behind (cs : List Char) (hcs : ∀ c ∈ cs, c.toNat < 128) (input : Input) :
    literal (cs.map byte) (input.behind cs) = .ok ((), input) := by
  induction cs with
  | nil => rfl
  | cons c cs ih =>
    have hc := hcs c List.mem_cons_self
    rw [List.map_cons, literal, bind_of_ok (peek_behind hc cs input)]
    simp only [if_true]
    rw [bind_of_ok (skip_behind hc cs input)]
    exact ih fun d hd => hcs d (List.mem_cons_of_mem c hd)

/-- A word that stands for a value is recognised by its first letter and taken whole. -/
lemma word_behind (hc : c.toNat < 128) (cs : List Char) (hcs : ∀ d ∈ cs, d.toNat < 128) (a : α)
    (input : Input) :
    (do skip; literal (cs.map byte); pure a : Reader α) (input.behind (c :: cs)) =
      .ok (a, input) := by
  rw [bind_of_ok (skip_behind hc cs input), bind_of_ok (literal_behind cs hcs input)]
  rfl

end Reader

/-! ## Values -/

lemma follows_behind (hc : c = ',' ∨ c = ']' ∨ c = '\x7d') (cs : List Char) (input : Input) :
    (input.behind (c :: cs)).Follows := by
  have hascii : c.toNat < 128 := by rcases hc with rfl | rfl | rfl <;> decide
  rw [Input.behind, encodeChars_cons_ascii hascii]
  rcases hc with rfl | rfl | rfl
  · exact .inl rfl
  · exact .inr (.inl rfl)
  · exact .inr (.inr rfl)

namespace Takes

variable {written : List Char}

lemma map (h : Takes r written a) (g : α → β) :
    Takes (do pure (g (← r))) written (g a) where
  opens := h.opens
  takes input hinput := by
    rw [Reader.bind_of_ok (h.takes input hinput)]
    rfl

/-- A complete text is read by what takes it. -/
theorem run (h : Takes r written a) : r.run ⟨Utf8.encodeChars written, .complete⟩ = .ok a := by
  have hread := h.takes ⟨[], .complete⟩ rfl
  rw [Input.behind, List.append_nil] at hread
  have hend : Reader.peekValue ⟨[], .complete⟩ = .ok (none, ⟨[], .complete⟩) := rfl
  rw [Reader.run, StateT.run', Reader.bind_of_ok hread, Reader.bind_of_ok hend]
  rfl

end Takes
end Json
end Reconcile
