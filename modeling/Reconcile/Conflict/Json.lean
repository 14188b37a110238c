import Reconcile.Conflict.Basic
import Reconcile.Json.Path
import Reconcile.Json.Typed

/-!
# The JSON form of conflicts

A decision is written as its name, or as an object with its name as the only key and `null` as the
value.
-/

namespace Reconcile

namespace Disposition

/-- The name of a decision. -/
def name : Disposition → String
  | unresolved => "Unresolved"
  | acceptLocal => "AcceptLocal"
  | acceptRemote => "AcceptRemote"

/-- The decision with a name. -/
def ofName? (s : String) : Option Disposition :=
  [unresolved, acceptLocal, acceptRemote].find? fun d => d.name = s

/-- The decision with a name that was read. -/
def ofName (s : String) : Json.Reader Disposition :=
  match ofName? s with
  | some d => pure d
  | none =>
    Json.Reader.stop (.mismatch ("unknown variant `" ++ s ++
      "`, expected one of `Unresolved`, `AcceptLocal`, `AcceptRemote`"))

open Json Json.Reader in
/-- Takes a decision. -/
def reader : Reader Disposition := do
  let b ← valueStart
  if b = byte '"' then
    skip
    ofName (← textRest)
  else if b = byte '\x7b' then
    skip
    let d ← ofName (← textAs "variant identifier")
    colon
    if (← valueStart) = byte 'n' then
      skip
      literal ("ull".toList.map byte)
    else unexpected "unit"
    objectEnd
    pure d
  else stop .malformed

end Disposition

namespace ConflictEntry

/-- The fields of a conflict that have been read. -/
structure Draft where
  relativePath : Option Path
  fileName : Option String
  localRoot : Option Path
  remoteRoot : Option Path
  typeName : Option (Option String)
  disposition : Option Disposition

/-- The written form of a conflict.  The type may be missing from an object. -/
def form : Json.Form Draft ConflictEntry where
  title := "ConflictEntry"
  fields := [
    { label := "relative_path"
      isSet := fun d => d.relativePath.isSome
      read := fun d => do pure { d with relativePath := some (← Json.Reader.path) }
      optional := false
      optionalAtEnd := false },
    { label := "file_name"
      isSet := fun d => d.fileName.isSome
      read := fun d => do pure { d with fileName := some (← Json.Reader.text) }
      optional := false
      optionalAtEnd := false },
    { label := "local_root"
      isSet := fun d => d.localRoot.isSome
      read := fun d => do pure { d with localRoot := some (← Json.Reader.path) }
      optional := false
      optionalAtEnd := false },
    { label := "remote_root"
      isSet := fun d => d.remoteRoot.isSome
      read := fun d => do pure { d with remoteRoot := some (← Json.Reader.path) }
      optional := false
      optionalAtEnd := false },
    { label := "type_name"
      isSet := fun d => d.typeName.isSome
      read := fun d => do pure { d with typeName := some (← Json.Reader.option Json.Reader.text) }
      optional := true
      optionalAtEnd := false },
    { label := "disposition"
      isSet := fun d => d.disposition.isSome
      read := fun d => do pure { d with disposition := some (← Disposition.reader) }
      optional := false
      optionalAtEnd := false }]
  start := ⟨none, none, none, none, none, none⟩
  build := fun d => do
    pure ⟨← d.relativePath, ← d.fileName, ← d.localRoot, ← d.remoteRoot, d.typeName.join,
      ← d.disposition⟩

/-- The text of a conflict, unless a path in it is no text. -/
def toJson (e : ConflictEntry) : Except Json.Problem (List Char) := do
  pure (Json.object [
    ("relative_path", ← Json.path e.relativePath), ("file_name", Json.quote e.fileName),
    ("local_root", ← Json.path e.localRoot), ("remote_root", ← Json.path e.remoteRoot),
    ("type_name", Json.optional Json.quote e.typeName),
    ("disposition", Json.quote e.disposition.name)])

end ConflictEntry

namespace Conflict

/-- The conflicts in a text. -/
def ofJson (input : Json.Input) : Except Json.Problem (List ConflictEntry) :=
  (Json.Reader.list ConflictEntry.form.reader).run input

/-- The text of some conflicts, unless a path in one of them is no text. -/
def toJson (entries : List ConflictEntry) : Except Json.Problem (List Char) := do
  pure (Json.array (← entries.mapM ConflictEntry.toJson))

end Conflict
end Reconcile
