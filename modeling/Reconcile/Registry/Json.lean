import Reconcile.Json.Text
import Reconcile.Json.Typed
import Reconcile.Registry.Basic

/-!
# The JSON form of types and registries
-/

namespace Reconcile

namespace MetadataType

/-- The fields of a type that have been read. -/
structure Draft where
  name : Option String
  directoryName : Option String
  inFolder : Option Bool
  suffix : Option (Option String)
  childXmlNames : Option (List String)

/-- The written form of a type.  The suffix and the parts may be left out. -/
def form : Json.Form Draft MetadataType where
  title := "MetadataType"
  fields := [
    { label := "name"
      isSet := fun d => d.name.isSome
      read := fun d => do pure { d with name := some (← Json.Reader.text) }
      optional := false
      optionalAtEnd := false },
    { label := "directoryName"
      isSet := fun d => d.directoryName.isSome
      read := fun d => do pure { d with directoryName := some (← Json.Reader.text) }
      optional := false
      optionalAtEnd := false },
    { label := "inFolder"
      isSet := fun d => d.inFolder.isSome
      read := fun d => do pure { d with inFolder := some (← Json.Reader.bool) }
      optional := false
      optionalAtEnd := false },
    { label := "suffix"
      isSet := fun d => d.suffix.isSome
      read := fun d => do pure { d with suffix := some (← Json.Reader.option Json.Reader.text) }
      optional := true
      optionalAtEnd := true },
    { label := "childXmlNames"
      isSet := fun d => d.childXmlNames.isSome
      read := fun d => do
        pure { d with childXmlNames := some (← Json.Reader.list Json.Reader.text) }
      optional := true
      optionalAtEnd := true }]
  start := ⟨none, none, none, none, none⟩
  build := fun d => do
    pure ⟨← d.name, ← d.directoryName, ← d.inFolder, d.suffix.join, d.childXmlNames.getD []⟩

/-- The text of a type.  A missing suffix and an empty list of parts are left out. -/
def toJson (t : MetadataType) : List Char :=
  Json.object (
    [("name", Json.quote t.name), ("directoryName", Json.quote t.directoryName),
     ("inFolder", Json.boolean t.inFolder)] ++
    (t.suffix.map fun s => ("suffix", Json.quote s)).toList ++
    if t.childXmlNames.isEmpty then []
    else [("childXmlNames", Json.array (t.childXmlNames.map Json.quote))])

end MetadataType

namespace Registry

/-- The fields of a registry that have been read. -/
structure Draft where
  types : Option (Table MetadataType)
  suffixes : Option (Table String)
  mixedContent : Option (Table String)

/-- Takes a table of texts. -/
def textTable : Json.Reader (Table String) :=
  Json.Reader.mapInto Json.Reader.text Table.put ∅

/-- Takes a table of types. -/
def typeTable : Json.Reader (Table MetadataType) :=
  Json.Reader.mapInto MetadataType.form.reader Table.put ∅

/-- The written form of a registry.  Directories with mixed content may be left out. -/
def form : Json.Form Draft Registry where
  title := "MetadataRegistry"
  fields := [
    { label := "types"
      isSet := fun d => d.types.isSome
      read := fun d => do pure { d with types := some (← typeTable) }
      optional := false
      optionalAtEnd := false },
    { label := "suffixes"
      isSet := fun d => d.suffixes.isSome
      read := fun d => do pure { d with suffixes := some (← textTable) }
      optional := false
      optionalAtEnd := false },
    { label := "mixedContent"
      isSet := fun d => d.mixedContent.isSome
      read := fun d => do pure { d with mixedContent := some (← textTable) }
      optional := true
      optionalAtEnd := true }]
  start := ⟨none, none, none⟩
  build := fun d => do pure ⟨← d.types, ← d.suffixes, d.mixedContent.getD ∅⟩

/-- The registry in a text. -/
def ofJson (input : Json.Input) : Except RegistryError Registry :=
  (form.reader.run input).mapError .parse

end Registry
end Reconcile
