import Reconcile.Diff.Error
import Reconcile.Json.Problem

/-!
# Failures of the registry and of classification
-/

namespace Reconcile

/-- Why a registry could not be loaded or used. -/
inductive RegistryError where
  /-- Its data could not be read. -/
  | io (cause : String)
  /-- Its data are not those of a registry. -/
  | parse (problem : Json.Problem)
  /-- A suffix or directory leads to an identifier without a type. -/
  | danglingSuffix (suffix : String) (id : String)
deriving DecidableEq, Repr

namespace RegistryError

/-- The text of a failure. -/
def message : RegistryError → String
  | io cause => "io error: " ++ cause
  | parse problem => "invalid registry data: " ++ problem.message
  | danglingSuffix suffix id =>
    "suffix " ++ Quoted.ofString suffix ++ " maps to undefined type " ++ Quoted.ofString id

/-- The texts of what lies behind a failure. -/
def sources : RegistryError → List String
  | io cause => [cause]
  | parse problem => [problem.message]
  | danglingSuffix _ _ => []

end RegistryError

/-- Why a file belongs to no metadata component. -/
inductive ClassifyError where
  | fileNotFound (path : Path)
  /-- The name of the file has no extension, or is no text. -/
  | malformedFileName (path : Path)
  /-- Neither the extension nor that of the described file is known. -/
  | unsupportedType (path : Path)
  /-- A file with contents stands without its descriptor. -/
  | missingDescriptor (path descriptor : Path)
  /-- An identifier has no type. -/
  | unknownType (id : String)
deriving DecidableEq, Repr

namespace ClassifyError

/-- The text of a failure. -/
def message : ClassifyError → String
  | fileNotFound path => "file not found: " ++ path.quoted
  | malformedFileName path => "file name has no extension: " ++ path.quoted
  | unsupportedType path =>
    "types missing a defined suffix are currently unsupported: " ++ path.quoted
  | missingDescriptor path descriptor =>
    "metadata xml file " ++ descriptor.quoted ++ " missing for " ++ path.quoted
  | unknownType id => "missing metadata type definition for " ++ id

end ClassifyError
end Reconcile
