import Mathlib.Data.List.Basic
import Reconcile.Text.Utf8

/-!
# Texts and the bytes that encode them

The first character is cut from a byte string exactly if the string starts with the bytes that
encode it (`Utf8.front_encodeChar`, `Utf8.encodeChar_of_front`).  So a byte string is a text if
and only if it is the encoding of that text (`Utf8.decode?_eq_some_iff`).
-/

namespace Reconcile
namespace Utf8

variable {b x y z : UInt8} {bytes rest : Bytes} {c : Char} {cs : List Char} {s : String} {n v : Nat}

/-! ## Bytes as numbers -/

lemma isContinuation_iff : isContinuation x = true ↔ 128 ≤ x.toNat ∧ x.toNat ≤ 191 := by
  simp [isContinuation, UInt8.le_iff_toNat_le]

/-- The second byte is a continuation byte, in a narrower range behind four first bytes. -/
lemma isSecond_iff :
    isSecond b x = true ↔ 128 ≤ x.toNat ∧ x.toNat ≤ 191 ∧ (b.toNat = 224 → 160 ≤ x.toNat) ∧
      (b.toNat = 237 → x.toNat ≤ 159) ∧ (b.toNat = 240 → 144 ≤ x.toNat) ∧
      (b.toNat = 244 → x.toNat ≤ 143) := by
  simp only [isSecond, secondRange, ← UInt8.toNat_inj, Bool.and_eq_true, decide_eq_true_eq,
    UInt8.le_iff_toNat_le]
  split_ifs <;> simp_all <;> omega

lemma ofNat_eq (h : n = b.toNat) : UInt8.ofNat n = b := by
  rw [h, UInt8.ofNat_toNat]

/-- The bytes of the character with the code `v`. -/
lemma encodeChar_ofNat (hv : v < 0xD800 ∨ 0xDFFF < v ∧ v < 0x110000) :
    String.utf8EncodeChar (Char.ofNat v) =
      if v ≤ 127 then [UInt8.ofNat v]
      else if v ≤ 2047 then [UInt8.ofNat (v / 64 % 32 + 192), UInt8.ofNat (v % 64 + 128)]
      else if v ≤ 65535 then
        [UInt8.ofNat (v / 4096 % 16 + 224), UInt8.ofNat (v / 64 % 64 + 128),
          UInt8.ofNat (v % 64 + 128)]
      else
        [UInt8.ofNat (v / 262144 % 8 + 240), UInt8.ofNat (v / 4096 % 64 + 128),
          UInt8.ofNat (v / 64 % 64 + 128), UInt8.ofNat (v % 64 + 128)] := by
  have hval : (Char.ofNat v).val.toNat = v := by
    rw [Char.ofNat, dif_pos hv]
    rfl
  rw [String.utf8EncodeChar, hval]

/-! ## The front of a byte string -/

lemma front_one (hb : b.toNat < 128) : front b rest = (.char (Char.ofNat b.toNat), 0) := by
  have hlt : b < 0x80 := UInt8.lt_iff_toNat_lt.2 hb
  unfold front
  rw [if_pos hlt]

lemma front_two (hb : 194 ≤ b.toNat ∧ b.toNat ≤ 223) (hx : isSecond b x = true) :
    front b (x :: rest) = (.char (assemble (b.toNat - 192) [x]), 1) := by
  simp only [front, UInt8.lt_iff_toNat_lt, UInt8.le_iff_toNat_le, UInt8.reduceToNat,
    Bool.and_eq_true, decide_eq_true_eq]
  rw [if_neg (by omega), if_pos hb, if_pos hx]

lemma front_three (hb : 224 ≤ b.toNat ∧ b.toNat ≤ 239) (hx : isSecond b x = true)
    (hy : isContinuation y = true) :
    front b (x :: y :: rest) = (.char (assemble (b.toNat - 224) [x, y]), 2) := by
  simp only [front, UInt8.lt_iff_toNat_lt, UInt8.le_iff_toNat_le, UInt8.reduceToNat,
    Bool.and_eq_true, decide_eq_true_eq]
  rw [if_neg (by omega), if_neg (by omega), if_pos hb, if_neg (by simp [hx]), if_pos hy]

lemma front_four (hb : 240 ≤ b.toNat ∧ b.toNat ≤ 244) (hx : isSecond b x = true)
    (hy : isContinuation y = true) (hz : isContinuation z = true) :
    front b (x :: y :: z :: rest) = (.char (assemble (b.toNat - 240) [x, y, z]), 3) := by
  simp only [front, UInt8.lt_iff_toNat_lt, UInt8.le_iff_toNat_le, UInt8.reduceToNat,
    Bool.and_eq_true, decide_eq_true_eq]
  rw [if_neg (by omega), if_neg (by omega), if_neg (by omega), if_pos hb, if_neg (by simp [hx]),
    if_neg (by simp [hy]), if_pos hz]

/-! ## Characters and their bytes -/

lemma assemble_eq (lead : Nat) (tail : List UInt8) :
    assemble lead tail = Char.ofNat (tail.foldl (fun n b => n * 64 + (b.toNat - 128)) lead) := rfl

lemma encodeChar_one (hb : b.toNat < 128) :
    String.utf8EncodeChar (Char.ofNat b.toNat) = [b] := by
  rw [encodeChar_ofNat (by omega), if_pos (by omega), ofNat_eq rfl]

lemma encodeChar_two (hb : 194 ≤ b.toNat ∧ b.toNat ≤ 223) (hx : isSecond b x = true) :
    String.utf8EncodeChar (assemble (b.toNat - 192) [x]) = [b, x] := by
  have hx := isSecond_iff.1 hx
  simp only [assemble_eq, List.foldl_cons, List.foldl_nil]
  rw [encodeChar_ofNat (by omega), if_neg (by omega), if_pos (by omega),
    ofNat_eq (b := b) (by omega), ofNat_eq (b := x) (by omega)]

lemma encodeChar_three (hb : 224 ≤ b.toNat ∧ b.toNat ≤ 239) (hx : isSecond b x = true)
    (hy : isContinuation y = true) :
    String.utf8EncodeChar (assemble (b.toNat - 224) [x, y]) = [b, x, y] := by
  have hx := isSecond_iff.1 hx
  have hy := isContinuation_iff.1 hy
  simp only [assemble_eq, List.foldl_cons, List.foldl_nil]
  rw [encodeChar_ofNat (by omega), if_neg (by omega), if_neg (by omega), if_pos (by omega),
    ofNat_eq (b := b) (by omega), ofNat_eq (b := x) (by omega), ofNat_eq (b := y) (by omega)]

lemma encodeChar_four (hb : 240 ≤ b.toNat ∧ b.toNat ≤ 244) (hx : isSecond b x = true)
    (hy : isContinuation y = true) (hz : isContinuation z = true) :
    String.utf8EncodeChar (assemble (b.toNat - 240) [x, y, z]) = [b, x, y, z] := by
  have hx := isSecond_iff.1 hx
  have hy := isContinuation_iff.1 hy
  have hz := isContinuation_iff.1 hz
  simp only [assemble_eq, List.foldl_cons, List.foldl_nil]
  rw [encodeChar_ofNat (by omega), if_neg (by omega), if_neg (by omega), if_neg (by omega),
    ofNat_eq (b := b) (by omega), ofNat_eq (b := x) (by omega), ofNat_eq (b := y) (by omega),
    ofNat_eq (b := z) (by omega)]

/-- A character that is cut off is encoded by the bytes that were taken for it. -/
lemma encodeChar_of_front (h : front b rest = (.char c, n)) :
    String.utf8EncodeChar c = b :: rest.take n := by
  revert h
  fun_cases front b rest <;> intro h <;>
    simp only [Prod.mk.injEq, Piece.char.injEq, reduceCtorEq, false_and] at h
  all_goals obtain ⟨rfl, rfl⟩ := h
  case case1 hb => simpa using encodeChar_one (UInt8.lt_iff_toNat_lt.1 hb)
  case case2 hb x more hx =>
    rw [Bool.and_eq_true, decide_eq_true_iff, decide_eq_true_iff] at hb
    simpa using encodeChar_two hb hx
  case case6 hb x y more hx hy =>
    rw [Bool.and_eq_true, decide_eq_true_iff, decide_eq_true_iff] at hb
    simpa using encodeChar_three hb (by simpa using hx) hy
  case case13 hb x y z more hx hy hz =>
    rw [Bool.and_eq_true, decide_eq_true_iff, decide_eq_true_iff] at hb
    simpa using encodeChar_four hb (by simpa using hx) (by simpa using hy) hz

lemma toNat_ofNat (h : n < 256) : (UInt8.ofNat n).toNat = n := UInt8.toNat_ofNat_of_lt' h

lemma exists_byte (h : n < 256) : ∃ b : UInt8, UInt8.ofNat n = b ∧ b.toNat = n :=
  ⟨_, rfl, toNat_ofNat h⟩

/-- A character is cut from the bytes that encode it, whatever follows them. -/
lemma front_encodeChar (c : Char) (rest : Bytes) :
    ∃ b tail, String.utf8EncodeChar c = b :: tail ∧
      front b (tail ++ rest) = (.char c, tail.length) := by
  have hvalid : c.toNat < 0xD800 ∨ 0xDFFF < c.toNat ∧ c.toNat < 0x110000 := c.valid
  have hc : Char.ofNat c.toNat = c := Char.ofNat_toNat c
  have hencode := encodeChar_ofNat hvalid
  rw [hc] at hencode
  rw [hencode]
  generalize c.toNat = v at *
  -- Each byte is named with its number, from which the number of the character is found again.
  split_ifs with hone htwo hthree
  · obtain ⟨b, hb, hbv⟩ := exists_byte (n := v) (by omega)
    refine ⟨b, [], by rw [hb], ?_⟩
    rw [front_one (by omega), hbv, hc]
    rfl
  · obtain ⟨b, hb, hbv⟩ := exists_byte (n := v / 64 % 32 + 192) (by omega)
    obtain ⟨x, hx, hxv⟩ := exists_byte (n := v % 64 + 128) (by omega)
    have hv : (b.toNat - 192) * 64 + (x.toNat - 128) = v := by omega
    refine ⟨b, [x], by rw [hb, hx], ?_⟩
    rw [List.singleton_append, front_two (by omega) (isSecond_iff.2 (by omega)), assemble_eq,
      List.foldl_cons, List.foldl_nil, hv, hc]
    rfl
  · obtain ⟨b, hb, hbv⟩ := exists_byte (n := v / 4096 % 16 + 224) (by omega)
    obtain ⟨x, hx, hxv⟩ := exists_byte (n := v / 64 % 64 + 128) (by omega)
    obtain ⟨y, hy, hyv⟩ := exists_byte (n := v % 64 + 128) (by omega)
    have hv : ((b.toNat - 224) * 64 + (x.toNat - 128)) * 64 + (y.toNat - 128) = v := by omega
    refine ⟨b, [x, y], by rw [hb, hx, hy], ?_⟩
    rw [List.cons_append, List.singleton_append, front_three (by omega) (isSecond_iff.2 (by omega))
      (isContinuation_iff.2 (by omega)), assemble_eq, List.foldl_cons, List.foldl_cons,
      List.foldl_nil, hv, hc]
    rfl
  · obtain ⟨b, hb, hbv⟩ := exists_byte (n := v / 262144 % 8 + 240) (by omega)
    obtain ⟨x, hx, hxv⟩ := exists_byte (n := v / 4096 % 64 + 128) (by omega)
    obtain ⟨y, hy, hyv⟩ := exists_byte (n := v / 64 % 64 + 128) (by omega)
    obtain ⟨z, hz, hzv⟩ := exists_byte (n := v % 64 + 128) (by omega)
    have hv : (((b.toNat - 240) * 64 + (x.toNat - 128)) * 64 + (y.toNat - 128)) * 64 +
        (z.toNat - 128) = v := by omega
    refine ⟨b, [x, y, z], by rw [hb, hx, hy, hz], ?_⟩
    rw [List.cons_append, List.cons_append, List.singleton_append,
      front_four (by omega) (isSecond_iff.2 (by omega)) (isContinuation_iff.2 (by omega))
        (isContinuation_iff.2 (by omega)), assemble_eq, List.foldl_cons, List.foldl_cons,
      List.foldl_cons, List.foldl_nil, hv, hc]
    rfl

/-- A character is written as one byte with its number, or as bytes that are no ASCII. -/
lemma toNat_of_mem_encodeChar (hb : b ∈ String.utf8EncodeChar c) :
    b.toNat = c.toNat ∨ 128 ≤ b.toNat := by
  have hencode := encodeChar_ofNat c.valid
  rw [← Char.toNat, Char.ofNat_toNat] at hencode
  rw [hencode] at hb
  generalize c.toNat = v at hb ⊢
  split_ifs at hb <;> simp only [List.mem_cons, List.not_mem_nil, or_false] at hb
  · exact .inl (by rw [hb, toNat_ofNat (by omega)])
  · rcases hb with rfl | rfl <;> exact .inr (by rw [toNat_ofNat (by omega)]; omega)
  · rcases hb with rfl | rfl | rfl <;> exact .inr (by rw [toNat_ofNat (by omega)]; omega)
  · rcases hb with rfl | rfl | rfl | rfl <;> exact .inr (by rw [toNat_ofNat (by omega)]; omega)

/-! ## Texts and their bytes -/

lemma pieces_encodeChar_append (c : Char) (rest : Bytes) :
    pieces (String.utf8EncodeChar c ++ rest) = .char c :: pieces rest := by
  obtain ⟨b, tail, hencode, hfront⟩ := front_encodeChar c rest
  rw [hencode, List.cons_append, pieces_cons, hfront, List.drop_left]

lemma pieces_encodeChars (cs : List Char) : pieces (encodeChars cs) = cs.map Piece.char := by
  induction cs with
  | nil => rfl
  | cons c cs ih => rw [encodeChars_cons, pieces_encodeChar_append, ih, List.map_cons]

/-- The text that is encoded is decoded. -/
lemma decode?_encodeChars (cs : List Char) :
    decode? (encodeChars cs) = some (String.ofList cs) := by
  have hchars : (cs.map Piece.char).mapM Piece.char? = some cs := by
    induction cs with
    | nil => rfl
    | cons c cs ih => rw [List.map_cons, List.mapM_cons, ih]; rfl
  rw [decode?, pieces_encodeChars, hchars, Option.map_some]

/-- Bytes without broken stretches encode the characters that are cut from them. -/
lemma encodeChars_of_pieces (h : (pieces bytes).mapM Piece.char? = some cs) :
    encodeChars cs = bytes := by
  induction hlength : bytes.length using Nat.strongRecOn generalizing bytes cs with
  | ind k ih =>
    cases bytes with
    | nil => cases h; rfl
    | cons b rest =>
      rw [pieces_cons, List.mapM_cons] at h
      rcases hfront : front b rest with ⟨piece, n⟩
      rw [hfront] at h
      cases piece with
      | broken _ => simp [Piece.char?] at h
      | char c =>
        obtain ⟨cs', hcs, rfl⟩ : ∃ cs', (pieces (rest.drop n)).mapM Piece.char? = some cs' ∧
            c :: cs' = cs := by
          simpa [Piece.char?, Option.bind_eq_some_iff] using h
        have hrest : encodeChars cs' = rest.drop n :=
          ih (rest.drop n).length (by simp at hlength ⊢; omega) hcs rfl
        rw [encodeChars_cons, encodeChar_of_front hfront, hrest, List.cons_append,
          List.take_append_drop]

/-- Bytes encode a text exactly if they are its encoding. -/
theorem decode?_eq_some_iff : decode? bytes = some s ↔ bytes = encode s := by
  constructor
  · intro h
    obtain ⟨cs, hcs, rfl⟩ := Option.map_eq_some_iff.1 h
    rw [encode, String.toList_ofList, encodeChars_of_pieces hcs]
  · rintro rfl
    rw [encode, decode?_encodeChars, String.ofList_toList]

end Utf8
end Reconcile
