/-!
# Writing JSON

Values are written without blanks.  In a text the quote, the backslash and the control characters
are escaped, with a letter of their own where they have one.
-/

namespace Reconcile
namespace Json

/-- A character as it is written inside a text. -/
def escapeChar (c : Char) : List Char :=
  if c = '"' then ['\\', '"']
  else if c = '\\' then ['\\', '\\']
  else if c.toNat = 8 then ['\\', 'b']
  else if c.toNat = 12 then ['\\', 'f']
  else if c = '\n' then ['\\', 'n']
  else if c = '\r' then ['\\', 'r']
  else if c = '\t' then ['\\', 't']
  else if c.toNat < 32 then
    ['\\', 'u', '0', '0', (c.toNat / 16).digitChar, (c.toNat % 16).digitChar]
  else [c]

/-- A text. -/
def quote (s : String) : List Char := '"' :: s.toList.flatMap escapeChar ++ ['"']

/-- A count. -/
def natural (n : Nat) : List Char := Nat.toDigits 10 n

/-- A truth value. -/
def boolean (b : Bool) : List Char := if b then "true".toList else "false".toList

/-- A value that may be missing. -/
def optional {α : Type} (write : α → List Char) : Option α → List Char
  | none => "null".toList
  | some a => write a

/-- A list of written values. -/
def array (values : List (List Char)) : List Char := '[' :: [','].intercalate values ++ [']']

/-- A member of an object. -/
def member (entry : String × List Char) : List Char := quote entry.1 ++ ':' :: entry.2

/-- An object of written values. -/
def object (entries : List (String × List Char)) : List Char :=
  '\x7b' :: [','].intercalate (entries.map member) ++ ['\x7d']

end Json
end Reconcile
