import Reconcile.Proofs.Json.Text

/-!
# Written truth values and counts are read back

A count is taken for itself as long as it fits into 64 bits: its digits do not start with a zero
(`Json.head?_toDigits`) and none of them is dropped (`Json.absorb_eq`).
-/

namespace Reconcile
namespace Json

variable {α : Type} {a : α} {c : Char} {cs written : List Char} {input : Input} {n : Nat}
  {r : Reader α}

/-! ## Truth values and missing values -/

lemma takes_boolean (b : Bool) : Takes Reader.bool (boolean b) b := by
  cases b with
  | false =>
    refine ⟨⟨'f', "alse".toList, rfl, by decide⟩, fun input _ => ?_⟩
    have hfalse : boolean false = 'f' :: "alse".toList := rfl
    rw [hfalse, Reader.bool, Reader.bind_of_ok (Reader.valueStart_behind (by decide) _ _)]
    rw [if_neg (by decide), if_pos rfl]
    exact Reader.word_behind (by decide) "alse".toList (by simp) false input
  | true =>
    refine ⟨⟨'t', "rue".toList, rfl, by decide⟩, fun input _ => ?_⟩
    have htrue : boolean true = 't' :: "rue".toList := rfl
    rw [htrue, Reader.bool, Reader.bind_of_ok (Reader.valueStart_behind (by decide) _ _)]
    rw [if_pos rfl]
    exact Reader.word_behind (by decide) "rue".toList (by simp) true input

lemma takes_none : Takes (Reader.option r) "null".toList none := by
  refine ⟨⟨'n', "ull".toList, rfl, by decide⟩, fun input _ => ?_⟩
  have hnull : "null".toList = 'n' :: "ull".toList := rfl
  rw [hnull, Reader.option, Reader.bind_of_ok (Reader.peekValue_behind (by decide) _ _)]
  rw [if_pos rfl]
  exact Reader.word_behind (by decide) "ull".toList (by simp) none input

lemma takes_some (h : Takes r written a) (hnull : ∀ cs, written ≠ 'n' :: cs) :
    Takes (Reader.option r) written (some a) where
  opens := h.opens
  takes input hinput := by
    obtain ⟨c, cs, rfl, htoken, -⟩ := h.opens
    have hne : some (byte c) ≠ some (byte 'n') := by
      intro heq
      exact hnull cs (by rw [byte_injective htoken.1 (by decide) (Option.some.inj heq)])
    rw [Reader.option, Reader.bind_of_ok (Reader.peekValue_behind htoken _ _)]
    rw [if_neg hne, Reader.bind_of_ok (h.takes input hinput)]
    rfl

lemma takes_some_text (s : String) : Takes (Reader.option Reader.text) (quote s) (some s) :=
  takes_some (takes_text s) fun cs => by simp [quote]

/-! ## Counts -/

lemma head?_toDigits (hn : 0 < n) : (Nat.toDigits 10 n).head? ≠ some '0' := by
  induction n using Nat.strongRecOn with
  | ind n ih =>
    rcases Nat.lt_or_ge n 10 with hlt | hge
    · rw [Nat.toDigits_of_lt_base hlt]
      simp [Nat.ne_of_gt hn]
    · rw [Nat.toDigits_of_base_le (by decide) hge,
        List.head?_append_of_ne_nil _ Nat.toDigits_ne_nil]
      exact ih (n / 10) (by omega) (by omega)

lemma le_ofDigitChars (cs : List Char) (n : Nat) : n ≤ Nat.ofDigitChars 10 cs n := by
  rw [Nat.ofDigitChars_eq_ofDigitChars_zero]
  exact Nat.le_add_right_of_le (Nat.le_mul_of_pos_left n (Nat.pow_pos (by decide)))

/-- No digit is dropped from a count that fits. -/
lemma absorb_eq (hcs : ∀ c ∈ cs, c.toNat < 128)
    (h : Nat.ofDigitChars 10 cs n ≤ Number.maxNatural) :
    Number.absorb n (cs.map byte) = (Nat.ofDigitChars 10 cs n, []) := by
  induction cs generalizing n with
  | nil => rfl
  | cons c cs ih =>
    have hnext : 10 * n + ((byte c).toNat - 48) = 10 * n + (c.toNat - '0'.toNat) := by
      rw [toNat_byte (hcs c List.mem_cons_self)]
      rfl
    rw [Nat.ofDigitChars_cons] at h ⊢
    have hle := Nat.le_trans (le_ofDigitChars cs (10 * n + (c.toNat - '0'.toNat))) h
    simp only [List.map_cons, Number.absorb, hnext]
    rw [if_neg (Nat.not_lt.2 hle), ih (fun d hd => hcs d (List.mem_cons_of_mem c hd)) h]

lemma toNat_byte_digit (hc : c.isDigit = true) :
    c.toNat < 128 ∧ 48 ≤ (byte c).toNat ∧ (byte c).toNat ≤ 57 := by
  obtain ⟨hlow, hhigh⟩ : 48 ≤ c.toNat ∧ c.toNat ≤ 57 := by
    simpa [Char.isDigit, UInt32.le_iff_toNat_le] using hc
  rw [toNat_byte (by omega)]
  omega

lemma isDigit_byte (hc : c.isDigit = true) : Reader.isDigit (byte c) = true := by
  obtain ⟨-, hlow, hhigh⟩ := toNat_byte_digit hc
  have h48 : (byte '0').toNat = 48 := rfl
  have h57 : (byte '9').toNat = 57 := rfl
  simp [Reader.isDigit, UInt8.le_iff_toNat_le, h48, h57, hlow, hhigh]

lemma opens_digit (hc : c.isDigit = true) : Opens c := by
  obtain ⟨hascii, hlow, hhigh⟩ := toNat_byte_digit hc
  have hbracket : (byte ']').toNat = 93 := rfl
  refine ⟨⟨hascii, ?_⟩, ?_⟩
  · simp only [Reader.isBlank, ← UInt8.toNat_inj, UInt8.reduceToNat, Bool.or_eq_false_iff,
      decide_eq_false_iff_not]
    omega
  · rw [ne_eq, ← UInt8.toNat_inj]
    omega

/-- Digits are taken up to the end of a value. -/
lemma takeWhile_digits (hcs : ∀ c ∈ cs, c.isDigit = true) (hinput : input.Follows) :
    Reader.takeWhile Reader.isDigit (input.behind cs) = .ok (cs.map byte, input) := by
  have hascii : Utf8.encodeChars cs = cs.map byte :=
    encodeChars_ascii fun c hc => (toNat_byte_digit (hcs c hc)).1
  have hall : ∀ b ∈ cs.map byte, Reader.isDigit b = true := by
    simpa using fun c hc => isDigit_byte (hcs c hc)
  obtain ⟨bytes, ending⟩ := input
  have hend : bytes.takeWhile Reader.isDigit = [] ∧ bytes.dropWhile Reader.isDigit = bytes := by
    cases bytes with
    | nil => exact ⟨rfl, rfl⟩
    | cons b bytes => rcases hinput with rfl | rfl | rfl <;> exact ⟨rfl, rfl⟩
  simp only [Reader.takeWhile, Input.behind, hascii, List.takeWhile_append_of_pos hall,
    List.dropWhile_append_of_pos hall, hend.1, hend.2, List.append_nil]

/-- Behind a value no number goes on. -/
lemma peek_follows (hinput : input.Follows) :
    ∃ b?, Reader.peek input = .ok (b?, input) ∧ b? ≠ some (byte '.') ∧
      b?.any Reader.isExponentMark = false := by
  obtain ⟨bytes, ending⟩ := input
  cases bytes with
  | nil =>
    cases hinput
    exact ⟨none, rfl, by decide, rfl⟩
  | cons b bytes =>
    refine ⟨some b, rfl, ?_⟩
    rcases hinput with rfl | rfl | rfl <;> decide

lemma isDigit_of_mem_natural (hc : c ∈ natural n) : c.isDigit = true :=
  Nat.isDigit_of_mem_toDigits (by decide) (by decide) hc

lemma absorb_natural (hn : n ≤ Number.maxNatural) :
    Number.absorb 0 ((natural n).map byte) = (n, []) := by
  have hvalue : Nat.ofDigitChars 10 (natural n) 0 = n := Nat.ofDigitChars_ten_toDigits
  rw [absorb_eq (fun c hc => (toNat_byte_digit (isDigit_of_mem_natural hc)).1) (by rwa [hvalue]),
    hvalue]

lemma unsigned_natural (hn : n ≤ Number.maxNatural) (hinput : input.Follows) :
    Reader.unsigned false (input.behind (natural n)) = .ok (.natural n, input) := by
  have habsorb := absorb_natural hn
  have htake := takeWhile_digits (fun c => isDigit_of_mem_natural (n := n)) hinput
  obtain ⟨b?, hpeek, hpoint, hmark⟩ := peek_follows hinput
  obtain ⟨d, more, hdigits⟩ : ∃ d more, natural n = d :: more :=
    List.exists_cons_of_ne_nil Nat.toDigits_ne_nil
  have hascii := (toNat_byte_digit (isDigit_of_mem_natural (n := n) (c := d) (by simp [hdigits]))).1
  -- Only zero starts with a zero, and it has no other digit.
  have hzero : ¬ (byte d = byte '0' && more.map byte ≠ []) = true := by
    rw [Bool.and_eq_true, decide_eq_true_iff, decide_eq_true_iff]
    rintro ⟨hd, hmore⟩
    have hd : d = '0' := byte_injective hascii (by decide) hd
    have hn : n = 0 := Nat.eq_zero_of_not_pos fun hpos =>
      head?_toDigits hpos (by rw [← natural, hdigits, hd, List.head?_cons])
    rw [hn, natural, Nat.toDigits_zero, List.cons.injEq] at hdigits
    rw [← hdigits.2] at hmore
    exact hmore rfl
  rw [hdigits] at habsorb htake ⊢
  rw [Reader.unsigned, Reader.bind_of_ok (Reader.peek_behind hascii _ _), Reader.bind_of_ok htake]
  simp only [List.map_cons] at habsorb ⊢
  rw [if_neg hzero, Reader.bind_of_ok hpeek]
  simp only [habsorb]
  rw [if_neg hpoint, if_neg (by simp [hmark])]
  rfl

lemma takes_natural (hn : n ≤ Number.maxNatural) : Takes Reader.count (natural n) n := by
  obtain ⟨d, more, hdigits⟩ : ∃ d more, natural n = d :: more :=
    List.exists_cons_of_ne_nil Nat.toDigits_ne_nil
  have hdigit : d.isDigit = true := isDigit_of_mem_natural (n := n) (by simp [hdigits])
  have hopens := opens_digit hdigit
  refine ⟨⟨d, more, hdigits, hopens⟩, fun input hinput => ?_⟩
  have hstart : ¬ some (byte d) = some (byte '-') := by
    intro h
    rw [byte_injective hopens.1.1 (by decide) (Option.some.inj h)] at hdigit
    exact absurd hdigit (by decide)
  have hnumber : Reader.number (input.behind (natural n)) = .ok (.natural n, input) := by
    rw [Reader.number, hdigits, Reader.bind_of_ok (Reader.peek_behind hopens.1.1 _ _)]
    rw [if_neg hstart, ← hdigits, unsigned_natural hn hinput]
  rw [Reader.count]
  rw [hdigits, Reader.bind_of_ok (Reader.valueStart_behind hopens.1 _ _), ← hdigits]
  rw [if_pos (by simp [isDigit_byte hdigit]), Reader.bind_of_ok hnumber]
  rfl

end Json
end Reconcile
