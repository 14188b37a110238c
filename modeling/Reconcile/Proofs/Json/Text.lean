import Reconcile.Json.Text
import Reconcile.Proofs.Json.Takes
import Reconcile.Proofs.Text.Utf8

/-!
# Written texts are read back

Inside a text every character is written so that the reader, whatever comes next, takes it for the
bytes that encode that character (`Json.standsFor_escapeChar`).  So it takes a text for itself.
-/

namespace Reconcile
namespace Json

variable {c : Char} {b : UInt8} {ending : Ending} {used : Nat}
  {rest written written' meaning meaning' : Bytes}

/-- Inside a text the bytes `written` are taken for the bytes `meaning`. -/
def StandsFor (written meaning : Bytes) : Prop :=
  ∀ ending rest more behind, Reader.textBody ending 0 rest = .ok (more, behind) →
    Reader.textBody ending 0 (written ++ rest) = .ok (meaning ++ more, behind)

namespace StandsFor

lemma nil : StandsFor [] [] := fun _ _ _ _ h => h

lemma append (h : StandsFor written meaning) (h' : StandsFor written' meaning') :
    StandsFor (written ++ written') (meaning ++ meaning') := by
  intro ending rest more behind hrest
  rw [List.append_assoc, List.append_assoc]
  exact h _ _ _ _ (h' _ _ _ _ hrest)

end StandsFor

/-! ## Characters -/

lemma textBody_drop (ending : Ending) (dealt rest : Bytes) :
    Reader.textBody ending dealt.length (dealt ++ rest) = Reader.textBody ending 0 rest := by
  induction dealt with
  | nil => rfl
  | cons b dealt ih => exact ih

/-- A byte that is no quote, and the bytes behind it that belong to it. -/
lemma standsFor_unit (hb : b ≠ byte '"') (dealt : Bytes)
    (h : ∀ ending rest, Reader.textUnit ending b (dealt ++ rest) = .ok (meaning, dealt.length)) :
    StandsFor (b :: dealt) meaning := by
  intro ending rest more behind hrest
  rw [List.cons_append, Reader.textBody, if_neg hb, h]
  simp only [textBody_drop, hrest]

lemma textUnit_plain (hcontrol : 32 ≤ b.toNat) (hescape : b ≠ byte '\\') :
    Reader.textUnit ending b rest = .ok ([b], 0) := by
  have hlt : ¬ b < 32 := by rw [UInt8.lt_iff_toNat_lt]; exact Nat.not_lt.2 hcontrol
  unfold Reader.textUnit
  rw [if_neg hescape, if_neg hlt]

lemma textUnit_letter {letter x : UInt8} (hletter : letter ≠ byte 'u')
    (h : Reader.simpleEscape? letter = some x) :
    Reader.textUnit ending (byte '\\') (letter :: rest) = .ok ([x], 1) := by
  simp only [Reader.textUnit, if_true, if_neg hletter, h]

lemma textUnit_code (h : Reader.codeEscape ending rest = .ok (meaning, used)) :
    Reader.textUnit ending (byte '\\') (byte 'u' :: rest) = .ok (meaning, used + 1) := by
  simp only [Reader.textUnit, if_true, h]
  rfl

lemma standsFor_plain (h : ∀ b ∈ written, 32 ≤ b.toNat ∧ b ≠ byte '"' ∧ b ≠ byte '\\') :
    StandsFor written written := by
  induction written with
  | nil => exact .nil
  | cons b written ih =>
    obtain ⟨hcontrol, hquote, hescape⟩ := h b List.mem_cons_self
    have hunit : StandsFor [b] [b] :=
      standsFor_unit hquote [] fun _ _ => textUnit_plain hcontrol hescape
    exact hunit.append (ih fun x hx => h x (List.mem_cons_of_mem b hx))

lemma hexDigit?_digitChar : ∀ n < 16, Reader.hexDigit? (byte n.digitChar) = some n := by decide

lemma digitChar_ascii : ∀ n < 16, n.digitChar.toNat < 128 := by decide

/-- A character that is written as a letter behind a backslash. -/
lemma standsFor_letter {letter : Char} (hletter : letter.toNat < 128 ∧ byte letter ≠ byte 'u')
    (hc : c.toNat < 128) (h : Reader.simpleEscape? (byte letter) = some (byte c)) :
    StandsFor (Utf8.encodeChars ['\\', letter]) (String.utf8EncodeChar c) := by
  rw [encodeChars_ascii (by simp [hletter.1]), encodeChar_ascii hc]
  exact standsFor_unit (by decide) [byte letter] fun ending rest => textUnit_letter hletter.2 h

/-- A control character is written by its code. -/
lemma standsFor_control (hc : c.toNat < 32) :
    StandsFor (Utf8.encodeChars
      ['\\', 'u', '0', '0', (c.toNat / 16).digitChar, (c.toNat % 16).digitChar])
      (String.utf8EncodeChar c) := by
  have hhigh := digitChar_ascii (c.toNat / 16) (by omega)
  have hlow := digitChar_ascii (c.toNat % 16) (by omega)
  have hcode : Reader.hexCode? (byte '0') (byte '0') (byte (c.toNat / 16).digitChar)
      (byte (c.toNat % 16).digitChar) = some c.toNat := by
    have hzero : Reader.hexDigit? (byte '0') = some 0 := by decide
    rw [Reader.hexCode?, hzero, hexDigit?_digitChar _ (by omega), hexDigit?_digitChar _ (by omega)]
    simp only [Option.pure_def, Option.bind_eq_bind, Option.bind_some, Option.some.injEq]
    omega
  have hescape : ∀ ending rest, Reader.codeEscape ending (byte '0' :: byte '0' ::
      byte (c.toNat / 16).digitChar :: byte (c.toNat % 16).digitChar :: rest) =
      .ok (String.utf8EncodeChar c, 4) := by
    intro ending rest
    simp only [Reader.codeEscape, hcode]
    rw [if_neg (by simp; omega), if_pos (by simp; omega), Reader.ofCode, Char.ofNat_toNat,
      Utf8.encodeChars_cons, Utf8.encodeChars_nil, List.append_nil]
  rw [encodeChars_ascii (by simp [hhigh, hlow])]
  exact standsFor_unit (by decide) _ fun ending rest => textUnit_code (hescape ending rest)

/-- A character stands for itself, however it is written. -/
lemma standsFor_escapeChar (c : Char) :
    StandsFor (Utf8.encodeChars (escapeChar c)) (String.utf8EncodeChar c) := by
  have hnum : ∀ {n : Nat}, c.toNat = n → c = Char.ofNat n := by
    rintro _ rfl
    exact (Char.ofNat_toNat c).symm
  unfold escapeChar
  split_ifs with hquote hescape hbackspace hfeed hline hreturn htab hcontrol
  · subst hquote
    exact standsFor_letter (by decide) (by decide) (by decide)
  · subst hescape
    exact standsFor_letter (by decide) (by decide) (by decide)
  · obtain rfl := hnum hbackspace
    exact standsFor_letter (by decide) (by decide) (by decide)
  · obtain rfl := hnum hfeed
    exact standsFor_letter (by decide) (by decide) (by decide)
  · subst hline
    exact standsFor_letter (by decide) (by decide) (by decide)
  · subst hreturn
    exact standsFor_letter (by decide) (by decide) (by decide)
  · subst htab
    exact standsFor_letter (by decide) (by decide) (by decide)
  · exact standsFor_control hcontrol
  · rw [Utf8.encodeChars_cons, Utf8.encodeChars_nil, List.append_nil]
    refine standsFor_plain fun b hb => ?_
    have hb := Utf8.toNat_of_mem_encodeChar hb
    have hnumQuote : c.toNat ≠ 34 := fun h => hquote (hnum h)
    have hnumEscape : c.toNat ≠ 92 := fun h => hescape (hnum h)
    simp only [ne_eq, ← UInt8.toNat_inj]
    have h34 : (byte '"').toNat = 34 := rfl
    have h92 : (byte '\\').toNat = 92 := rfl
    omega

/-! ## Texts and paths -/

lemma textBody_quoted (ending : Ending) (cs : List Char) (rest : Bytes) :
    Reader.textBody ending 0 (Utf8.encodeChars (cs.flatMap escapeChar) ++ byte '"' :: rest) =
      .ok (Utf8.encodeChars cs, rest) := by
  have hstands : StandsFor (Utf8.encodeChars (cs.flatMap escapeChar)) (Utf8.encodeChars cs) := by
    induction cs with
    | nil => exact .nil
    | cons c cs ih =>
      rw [List.flatMap_cons, Utf8.encodeChars_append, Utf8.encodeChars_cons]
      exact (standsFor_escapeChar c).append ih
  have hend : Reader.textBody ending 0 (byte '"' :: rest) = .ok ([], rest) := by
    rw [Reader.textBody, if_pos rfl]
  rw [hstands _ _ _ _ hend, List.append_nil]

lemma textRest_behind (s : String) (input : Input) :
    Reader.textRest (input.behind (s.toList.flatMap escapeChar ++ ['"'])) = .ok (s, input) := by
  have hbytes : (input.behind (s.toList.flatMap escapeChar ++ ['"'])).bytes =
      Utf8.encodeChars (s.toList.flatMap escapeChar) ++ byte '"' :: input.bytes := by
    rw [Input.behind_append, Input.behind, Input.behind, encodeChars_cons_ascii (by decide),
      Utf8.encodeChars_nil, List.singleton_append]
  simp only [Reader.textRest, hbytes, textBody_quoted, Utf8.decode?_encodeChars,
    String.ofList_toList]
  rfl

lemma takes_textAs (expected : String) (s : String) :
    Takes (Reader.textAs expected) (quote s) s where
  opens := ⟨'"', _, rfl, by decide⟩
  takes input _ := by
    rw [quote, List.cons_append, Reader.textAs,
      Reader.bind_of_ok (Reader.valueStart_behind (by decide) _ _)]
    rw [if_pos rfl, Reader.bind_of_ok (Reader.skip_behind (by decide) _ _), textRest_behind]

lemma takes_text (s : String) : Takes Reader.text (quote s) s := takes_textAs _ s

end Json
end Reconcile
