/-!
# UTF-8

Names and file contents are byte strings; messages and patterns are about characters.  This file
cuts a byte string into the characters that are encoded in it and the stretches that encode
nothing, and derives from that cut the exact decoding `Utf8.decode?` and the forgiving one
`Utf8.lossy`, which puts one replacement character for every stretch.
-/

namespace Reconcile

/-- A byte string: file contents, names, the text of a path. -/
abbrev Bytes := List UInt8

namespace Utf8

/-- A part of a byte string: a whole encoded character, or the longest start of one that breaks
off (at least one byte). -/
inductive Piece where
  | char (c : Char)
  | broken (bytes : Bytes)
deriving DecidableEq, Repr

/-- A continuation byte carries six bits. -/
def isContinuation (b : UInt8) : Bool := 0x80 ≤ b && b ≤ 0xBF

/-- Puts the payload of continuation bytes behind the payload of the first byte. -/
def assemble (lead : Nat) (tail : List UInt8) : Char :=
  Char.ofNat (tail.foldl (fun n b => n * 64 + (b.toNat - 0x80)) lead)

/-- The range in which the second byte must lie, given the first one.  It is narrower than all
continuation bytes where the encoding would be overlong, a surrogate or beyond U+10FFFF. -/
def secondRange (b : UInt8) : UInt8 × UInt8 :=
  if b = 0xE0 then (0xA0, 0xBF)
  else if b = 0xED then (0x80, 0x9F)
  else if b = 0xF0 then (0x90, 0xBF)
  else if b = 0xF4 then (0x80, 0x8F)
  else (0x80, 0xBF)

/-- May `second` follow the first byte `first`? -/
def isSecond (first second : UInt8) : Bool :=
  (secondRange first).1 ≤ second && second ≤ (secondRange first).2

/-- The piece that starts with the byte `first` when `rest` follows, and the number of bytes of
`rest` that belong to it. -/
def front (first : UInt8) (rest : Bytes) : Piece × Nat :=
  if first < 0x80 then (.char (Char.ofNat first.toNat), 0)
  else if 0xC2 ≤ first && first ≤ 0xDF then
    match rest with
    | b :: _ => if isSecond first b then (.char (assemble (first.toNat - 0xC0) [b]), 1)
        else (.broken [first], 0)
    | [] => (.broken [first], 0)
  else if 0xE0 ≤ first && first ≤ 0xEF then
    match rest with
    | b :: c :: _ =>
      if !isSecond first b then (.broken [first], 0)
      else if isContinuation c then (.char (assemble (first.toNat - 0xE0) [b, c]), 2)
      else (.broken [first, b], 1)
    | [b] => if isSecond first b then (.broken [first, b], 1) else (.broken [first], 0)
    | [] => (.broken [first], 0)
  else if 0xF0 ≤ first && first ≤ 0xF4 then
    match rest with
    | b :: c :: d :: _ =>
      if !isSecond first b then (.broken [first], 0)
      else if !isContinuation c then (.broken [first, b], 1)
      else if isContinuation d then (.char (assemble (first.toNat - 0xF0) [b, c, d]), 3)
      else (.broken [first, b, c], 2)
    | [b, c] =>
      if !isSecond first b then (.broken [first], 0)
      else if isContinuation c then (.broken [first, b, c], 2)
      else (.broken [first, b], 1)
    | [b] => if isSecond first b then (.broken [first, b], 1) else (.broken [first], 0)
    | [] => (.broken [first], 0)
  else (.broken [first], 0)

/-- The pieces of a byte string after its first `skip` bytes. -/
def piecesAfter : (skip : Nat) → Bytes → List Piece
  | _, [] => []
  | skip + 1, _ :: rest => piecesAfter skip rest
  | 0, b :: rest => (front b rest).1 :: piecesAfter (front b rest).2 rest

/-- Cuts a byte string into characters and broken stretches, from left to right. -/
def pieces (bytes : Bytes) : List Piece := piecesAfter 0 bytes

namespace Piece

/-- The character of a whole piece. -/
def char? : Piece → Option Char
  | .char c => some c
  | .broken _ => none

/-- The character shown for a piece: U+FFFD for one that is broken. -/
def shown : Piece → Char
  | .char c => c
  | .broken _ => Char.ofNat 0xFFFD

end Piece

/-- The text that a byte string encodes, if it encodes one. -/
def decode? (bytes : Bytes) : Option String :=
  ((pieces bytes).mapM Piece.char?).map String.ofList

/-- The text of a byte string, with U+FFFD for every broken stretch. -/
def lossy (bytes : Bytes) : String :=
  String.ofList ((pieces bytes).map Piece.shown)

/-- The bytes that encode a list of characters. -/
def encodeChars (cs : List Char) : Bytes := cs.flatMap String.utf8EncodeChar

/-- The bytes that encode a text. -/
def encode (s : String) : Bytes := encodeChars s.toList

@[simp] theorem encodeChars_nil : encodeChars [] = [] := rfl

@[simp] theorem encodeChars_cons (c : Char) (cs : List Char) :
    encodeChars (c :: cs) = String.utf8EncodeChar c ++ encodeChars cs := rfl

@[simp] theorem encodeChars_append (cs ds : List Char) :
    encodeChars (cs ++ ds) = encodeChars cs ++ encodeChars ds := List.flatMap_append

@[simp] theorem pieces_nil : pieces [] = [] := rfl

theorem pieces_cons (b : UInt8) (rest : Bytes) :
    pieces (b :: rest) = (front b rest).1 :: pieces (rest.drop (front b rest).2) := by
  have drop : ∀ (k : Nat) (r : Bytes), piecesAfter k r = pieces (r.drop k) := by
    intro k r
    induction r generalizing k with
    | nil => cases k <;> rfl
    | cons x r ih =>
      cases k with
      | zero => rfl
      | succ k => exact ih k
  rw [pieces, piecesAfter, drop]

end Utf8
end Reconcile
