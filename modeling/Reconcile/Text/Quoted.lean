import Reconcile.Text.Category
import Reconcile.Text.Property
import Reconcile.Text.Utf8

/-!
# Quoted text

Messages show paths and texts in double quotes.  The quote and the backslash are escaped, as are
characters that cannot be seen: controls, format characters, separators other than the space,
unassigned and private code points, and characters that extend the one before them.  A byte that
belongs to no character is shown by its number.
-/

namespace Reconcile

namespace Unicode

/-- The categories of characters that are seen.  The space is shown as it is, other spaces are
not. -/
def shownCategories : List Category :=
  Category.all.filter fun c => c ∉ [.cc, .cf, .co, .zl, .zp, .zs]

/-- Has the character a shape of its own?  Those of the shown categories have, but for the fillers,
which stand for nothing. -/
def isShown (c : Char) : Bool :=
  ((Category.union .seventeen shownCategories).diff
    (Property.defaultIgnorable.set .seventeen)).contains c

/-- The characters with a shape of their own, and the space. -/
def isPrintable (c : Char) : Bool :=
  if c.toNat < 0x7F then 0x20 ≤ c.toNat else isShown c

/-- Does the character combine with the one before it? -/
def extendsGrapheme (c : Char) : Bool :=
  0x300 ≤ c.toNat && (Property.graphemeExtend.set .seventeen).contains c

end Unicode

namespace Quoted

/-- A number in hexadecimal, in lower case. -/
def hex (n : Nat) : List Char := Nat.toDigits 16 n

/-- A character as it is shown between quotes. -/
def escape (c : Char) : List Char :=
  if c = '\x00' then ['\\', '0']
  else if c = '\t' then ['\\', 't']
  else if c = '\r' then ['\\', 'r']
  else if c = '\n' then ['\\', 'n']
  else if c = '"' then ['\\', '"']
  else if c = '\\' then ['\\', '\\']
  else if Unicode.extendsGrapheme c || !Unicode.isPrintable c then
    ['\\', 'u', '\x7b'] ++ hex c.toNat ++ ['\x7d']
  else [c]

/-- A byte that belongs to no character, by its number in upper case. -/
def escapeByte (b : UInt8) : List Char :=
  let digits := (hex b.toNat).map Char.toUpper
  ['\\', 'x'] ++ (if digits.length < 2 then '0' :: digits else digits)

/-- A piece of a byte string as it is shown between quotes. -/
def escapePiece : Utf8.Piece → List Char
  | .char c => escape c
  | .broken bytes => bytes.flatMap escapeByte

/-- A byte string in quotes. -/
def ofBytes (bytes : Bytes) : String :=
  String.ofList (['"'] ++ (Utf8.pieces bytes).flatMap escapePiece ++ ['"'])

/-- A text in quotes. -/
def ofString (s : String) : String :=
  String.ofList (['"'] ++ s.toList.flatMap escape ++ ['"'])

end Quoted
end Reconcile
