/-!
# Faults

What an operation on a path can fail with, and the text that says so.
-/

namespace Reconcile

/-- Why an operation on a path failed. -/
inductive Fault where
  /-- A name on the way, or the last one, does not exist. -/
  | notFound
  /-- Something is already there. -/
  | alreadyExists
  /-- A name on the way is not a directory. -/
  | notDirectory
  /-- A directory stands where file contents are asked for. -/
  | isDirectory
  /-- A name or the whole path is too long. -/
  | nameTooLong
  /-- The path leads through too many links. -/
  | tooManyLinks
  /-- The path holds a NUL byte. -/
  | nulByte
deriving DecidableEq, Repr

namespace Fault

/-- The text of a fault. -/
def message : Fault → String
  | notFound => "No such file or directory (os error 2)"
  | alreadyExists => "File exists (os error 17)"
  | notDirectory => "Not a directory (os error 20)"
  | isDirectory => "Is a directory (os error 21)"
  | nameTooLong => "File name too long (os error 36)"
  | tooManyLinks => "Too many levels of symbolic links (os error 40)"
  | nulByte => "file name contained an unexpected NUL byte"

end Fault
end Reconcile
