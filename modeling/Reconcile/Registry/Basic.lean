import Reconcile.Registry.Error
import Reconcile.Sorted
import Reconcile.Text.LowerCase

/-!
# The registry of metadata types

A registry knows metadata types by an identifier, the lower-cased name.  File suffixes and the
names of directories with mixed content lead to identifiers; a registry is closed if each of those
identifiers has a type (`Registry.validate`).
-/

namespace Reconcile

/-- A metadata type. -/
structure MetadataType where
  name : String
  /-- The directory where components of this type are found. -/
  directoryName : String
  /-- Are components kept in named folders? -/
  inFolder : Bool
  /-- The suffix of its files, unless they vary. -/
  suffix : Option String
  /-- The types of the parts of a component. -/
  childXmlNames : List String
deriving DecidableEq, Repr

/-- A finite map from texts, in the order of its keys. -/
abbrev Table (α : Type) := SortedList (Prod.fst : String × α → String)

namespace Table

variable {α : Type}

/-- Lets `key` stand for `value`, whatever it stood for before. -/
def put (t : Table α) (key : String) (value : α) : Table α :=
  t.upsert (key, value) (fun e => (e.1, value)) fun _ => rfl

/-- What `key` stands for. -/
def get? (t : Table α) (key : String) : Option α := (t.find? key).map Prod.snd

/-- The table with these entries; of several with one key the last counts. -/
def ofEntries (entries : List (String × α)) : Table α :=
  entries.foldl (fun t e => t.put e.1 e.2) ∅

end Table

/-- The known metadata types and the ways to find them. -/
structure Registry where
  /-- Types by identifier. -/
  types : Table MetadataType
  /-- Identifiers by file suffix. -/
  suffixes : Table String
  /-- Identifiers by directory, for types without a suffix of their own. -/
  mixedContent : Table String
deriving DecidableEq

namespace Registry

/-- The types, in the order of their identifiers. -/
def allTypes (r : Registry) : List MetadataType := r.types.toList.map Prod.snd

/-- Checks that every suffix and every directory leads to a type. -/
def validate (r : Registry) : Except RegistryError Unit :=
  match (r.suffixes.toList ++ r.mixedContent.toList).find? fun e => (r.types.get? e.2).isNone with
  | some (suffix, id) => .error (.danglingSuffix suffix id)
  | none => .ok ()

/-- The type with an identifier. -/
def typeById (r : Registry) (id : String) : Except ClassifyError MetadataType :=
  match r.types.get? id with
  | some t => .ok t
  | none => .error (.unknownType id)

/-- The identifier of a name: spaces are dropped and case is ignored. -/
def idOfName (name : String) : String :=
  Unicode.lower (String.ofList (name.toList.filter fun c => c ≠ ' '))

/-- The type with a name. -/
def typeFromName (r : Registry) (name : String) : Except ClassifyError MetadataType :=
  r.typeById (idOfName name)

/-- The identifier that a file suffix leads to. -/
def idForSuffix (r : Registry) (suffix : String) : Option String := r.suffixes.get? suffix

/-- The type that a file suffix leads to. -/
def typeForSuffix (r : Registry) (suffix : String) : Option MetadataType :=
  (r.idForSuffix suffix).bind r.types.get?

/-- The type with mixed content that a directory leads to. -/
def typeForDirectory (r : Registry) (directory : String) : Option MetadataType :=
  (r.mixedContent.get? directory).bind r.types.get?

end Registry
end Reconcile
