import Reconcile.Text.CharSet

/-!
# Characters as ranges of bytes

The characters of a range, written in UTF-8, are the sequences of bytes that lie in one of a few
sequences of ranges of bytes.  To find them the range is cut where the number of bytes changes and
at the ends of the blocks that share their first bytes.
-/

namespace Reconcile

/-- The bytes from `first` to `last`. -/
structure ByteRange where
  first : Nat
  last : Nat
deriving DecidableEq, Repr

namespace CharRange

/-- The part of a range from `first` to `last`. -/
def part (r : CharRange) (first last : Nat) : List CharRange :=
  if max r.first first ≤ min r.last last then [⟨max r.first first, min r.last last⟩] else []

/-- The parts of a range in which all characters have the same number of bytes.  Surrogates are no
characters. -/
def byWidth (r : CharRange) : List CharRange :=
  r.part 0 0x7F ++ r.part 0x80 0x7FF ++ r.part 0x800 0xD7FF ++ r.part 0xE000 0xFFFF ++
    r.part 0x10000 CharSet.maxCode

/-- Cuts a range into a rest of a block of the given size, whole blocks, and a part of a block. -/
def cut (size : Nat) (r : CharRange) : List CharRange :=
  if r.first / size = r.last / size then [r]
  else
    let low := (r.first + size - 1) / size * size
    let high := (r.last + 1) / size * size
    r.part r.first (low - 1) ++ (if low < high then [⟨low, high - 1⟩] else []) ++ r.part high r.last

/-- The bytes of a code point. -/
def bytesOf (code : Nat) : List Nat :=
  if code < 0x80 then [code]
  else if code < 0x800 then [0xC0 + code / 0x40, 0x80 + code % 0x40]
  else if code < 0x10000 then
    [0xE0 + code / 0x1000, 0x80 + code / 0x40 % 0x40, 0x80 + code % 0x40]
  else
    [0xF0 + code / 0x40000, 0x80 + code / 0x1000 % 0x40, 0x80 + code / 0x40 % 0x40,
      0x80 + code % 0x40]

/-- The sequences of ranges of bytes that stand for the characters of a range, in order. -/
def byteRanges (r : CharRange) : List (List ByteRange) :=
  let blocks := (((r.byWidth.flatMap (cut 0x40)).flatMap (cut 0x1000)).flatMap (cut 0x40000))
  blocks.map fun b => (bytesOf b.first).zipWith ByteRange.mk (bytesOf b.last)

end CharRange

/-- The sequences of ranges of bytes that stand for the characters of a set, in order. -/
def CharSet.byteRanges (s : CharSet) : List (List ByteRange) :=
  s.ranges.flatMap CharRange.byteRanges

end Reconcile
