/-!
# Sets of characters

A set of code points is a list of ranges in increasing order with gaps between them.  `CharSet.of`
brings any list of ranges into that form; the other operations are Boolean algebra on it, with
complements taken in the code points up to U+10FFFF.
-/

namespace Reconcile

/-- The code points from `first` to `last`. -/
structure CharRange where
  first : Nat
  last : Nat
deriving DecidableEq, Repr, Inhabited

/-- A set of code points. -/
structure CharSet where
  ranges : List CharRange
deriving DecidableEq, Repr, Inhabited

namespace CharSet

/-- The greatest code point. -/
def maxCode : Nat := 0x10FFFF

/-- Is the code point in the set? -/
def containsCode (s : CharSet) (code : Nat) : Bool :=
  s.ranges.any fun r => r.first ≤ code && code ≤ r.last

/-- Is the character in the set? -/
def contains (s : CharSet) (c : Char) : Bool := s.containsCode c.toNat

/-- Joins ranges, sorted by their first code point, that overlap or touch. -/
def merge : CharRange → List CharRange → List CharRange
  | r, [] => [r]
  | r, next :: rest =>
    if next.first ≤ r.last + 1 then merge ⟨r.first, max r.last next.last⟩ rest
    else r :: merge next rest

/-- The set of the code points in any of the ranges. -/
def of (ranges : List CharRange) : CharSet :=
  match ranges.mergeSort fun r q => r.first ≤ q.first with
  | [] => ⟨[]⟩
  | r :: rest => ⟨merge r rest⟩

/-- The empty set. -/
def empty : CharSet := ⟨[]⟩

/-- All code points. -/
def all : CharSet := ⟨[⟨0, maxCode⟩]⟩

/-- The code points from `first` to `last`. -/
def range (first last : Nat) : CharSet := ⟨[⟨first, last⟩]⟩

/-- The set of one character. -/
def single (c : Char) : CharSet := range c.toNat c.toNat

/-- What is in either set. -/
def union (s t : CharSet) : CharSet := of (s.ranges ++ t.ranges)

/-- The gaps between ranges, from the code point `start` on. -/
def gaps (start : Nat) : List CharRange → List CharRange
  | [] => if start ≤ maxCode then [⟨start, maxCode⟩] else []
  | r :: rest =>
    if start < r.first then ⟨start, r.first - 1⟩ :: gaps (r.last + 1) rest
    else gaps (r.last + 1) rest

/-- What is not in the set. -/
def complement (s : CharSet) : CharSet := ⟨gaps 0 s.ranges⟩

/-- What is in both sets. -/
def inter (s t : CharSet) : CharSet := (s.complement.union t.complement).complement

/-- What is in the first set only. -/
def diff (s t : CharSet) : CharSet := s.inter t.complement

/-- What is in one of the sets only. -/
def symmDiff (s t : CharSet) : CharSet := (s.diff t).union (t.diff s)

/-- Does the set hold ASCII characters only? -/
def isAscii (s : CharSet) : Bool := s.ranges.all fun r => r.last < 0x80

/-! ## Tables -/

/-- The value of a hexadecimal digit. -/
def hexValue (c : Char) : Nat :=
  if c.isDigit then c.toNat - '0'.toNat else c.toUpper.toNat - 'A'.toNat + 10

/-- The number that hexadecimal digits stand for. -/
def ofHex (digits : List Char) : Nat := digits.foldl (fun n c => 16 * n + hexValue c) 0

/-- The range that is written `first-last`, or as one number. -/
def rangeOfText (text : List Char) : CharRange :=
  let first := text.takeWhile (· ≠ '-')
  match text.dropWhile (· ≠ '-') with
  | [] => ⟨ofHex first, ofHex first⟩
  | _ :: last => ⟨ofHex first, ofHex last⟩

/-- The ranges that are written in hexadecimal, with spaces between them. -/
def rangesOfText (text : String) : List CharRange :=
  ((text.toList.splitOn ' ').filter (· ≠ [])).map rangeOfText

/-- The set whose ranges are written in order, line by line. -/
def ofText (lines : List String) : CharSet := ⟨lines.flatMap rangesOfText⟩

end CharSet
end Reconcile
