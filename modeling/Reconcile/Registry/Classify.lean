import Reconcile.FileSystem.Basic
import Reconcile.Registry.Basic

/-!
# From a file to its component

A component has a descriptor, a file whose name ends in `-meta.xml`, and perhaps a file with the
contents beside it, whose name is the same without that end.  Either file names the component; its
type is found by what stands behind the first dot of the name.
-/

namespace Reconcile

/-- A metadata component and its files. -/
structure MetadataComponent where
  /-- The name, with the folder in front for types that are kept in folders. -/
  fullName : String
  type : MetadataType
  /-- The descriptor. -/
  xmlPath : Path
  /-- The file with the contents, if there is one. -/
  sources : List Path
deriving DecidableEq

namespace Registry

/-- The end of the name of a descriptor. -/
def descriptorEnd : List Char := "-meta.xml".toList

/-- What stands in front of `-meta.xml` in an extension, if anything does. -/
def describedSuffix? (extension : List Char) : Option (List Char) :=
  if descriptorEnd.length < extension.length && descriptorEnd.isSuffixOf extension then
    some (extension.take (extension.length - descriptorEnd.length))
  else none

/-- The path with the text `cs`. -/
def pathOf (cs : List Char) : Path := ⟨Utf8.encodeChars cs⟩

/-- The part that a file plays in a component. -/
structure FileRole where
  /-- The identifier of the type. -/
  typeId : String
  xmlPath : Path
  sources : List Path
deriving DecidableEq

/-- The part of the file at the path with the text `cs`, whose name has the extension
`extension`. -/
def roleOf (r : Registry) (fs : FileSystem) (cs extension : List Char) :
    Except ClassifyError FileRole :=
  match r.idForSuffix (String.ofList extension) with
  | some id =>
    let descriptor := pathOf (cs ++ descriptorEnd)
    if fs.existsAt descriptor then .ok ⟨id, descriptor, [pathOf cs]⟩
    else .error (.missingDescriptor (pathOf cs) descriptor)
  | none =>
    match (describedSuffix? extension).bind fun suffix => r.idForSuffix (String.ofList suffix) with
    | some id =>
      let source := pathOf (cs.take (cs.length - descriptorEnd.length))
      .ok ⟨id, pathOf cs, if fs.existsAt source then [source] else []⟩
    | none => .error (.unsupportedType (pathOf cs))

/-- The component of the file at a path. -/
def classify (r : Registry) (fs : FileSystem) (p : Path) :
    Except ClassifyError MetadataComponent :=
  match Utf8.decode? p.bytes with
  | none => .error (.malformedFileName p)
  | some text =>
    let cs := text.toList
    let segments := (cs.splitOn '/').reverse
    let file := segments.headD []
    let folder := (segments.drop 1).headD []
    if !fs.existsAt p then .error (.fileNotFound p)
    else
      match file.dropWhile (· ≠ '.') with
      | [] => .error (.malformedFileName p)
      | _ :: extension =>
        match r.roleOf fs cs extension with
        | .error e => .error e
        | .ok role =>
          match r.typeById role.typeId with
          | .error e => .error e
          | .ok type =>
            let base := file.takeWhile (· ≠ '.')
            .ok {
              fullName := String.ofList
                (if type.inFolder && folder ≠ [] then folder ++ '/' :: base else base)
              type := type
              xmlPath := role.xmlPath
              sources := role.sources }

/-- The name of the type of the file at a path, if the file has a component. -/
def typeNameOf? (r : Registry) (fs : FileSystem) (p : Path) : Option String :=
  (r.classify fs p).toOption.map fun c => c.type.name

end Registry
end Reconcile
