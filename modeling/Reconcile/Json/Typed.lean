import Reconcile.Json.Skip
import Reconcile.Path.Basic
import Reconcile.Text.Quoted

/-!
# Reading values of an expected form

Each reader here takes one value and refuses one of another form, saying what it met and what it
expected.  A `Form` describes a structure by its fields: it may be written as an object, in which
fields come in any order and unknown ones are passed over, or as the list of its fields.
-/

namespace Reconcile
namespace Json
namespace Reader

/-- Stops at a value of another form than `expected`. -/
def unexpected {α : Type} (expected : String) : Reader α := do
  let refuse (met : String) : Reader α :=
    stop (.mismatch ("invalid type: " ++ met ++ ", expected " ++ expected))
  match ← peek with
  | none => stop .malformed
  | some b =>
    if b = byte '-' || isDigit b then refuse (← number).shown
    else if b = byte '[' then refuse "sequence"
    else if b = byte '\x7b' then refuse "map"
    else
      skip
      if b = byte 'n' then do literal ("ull".toList.map byte); refuse "null"
      else if b = byte 't' then do literal ("rue".toList.map byte); refuse "boolean `true`"
      else if b = byte 'f' then do literal ("alse".toList.map byte); refuse "boolean `false`"
      else if b = byte '"' then do
        let s ← textRest
        refuse ("string " ++ Quoted.ofString s)
      else stop .malformed

/-- Shows the first byte of a value. -/
def valueStart : Reader UInt8 := do
  match ← peekValue with
  | none => stop .unfinished
  | some b => pure b

/-- Takes a text. -/
def textAs (expected : String) : Reader String := do
  if (← valueStart) = byte '"' then
    skip
    textRest
  else unexpected expected

/-- Takes a text. -/
def text : Reader String := textAs "a string"

/-- Takes a path. -/
def path : Reader Path := do
  pure (.ofString (← textAs "path string"))

/-- Takes a truth value. -/
def bool : Reader Bool := do
  let b ← valueStart
  if b = byte 't' then do skip; literal ("rue".toList.map byte); pure true
  else if b = byte 'f' then do skip; literal ("alse".toList.map byte); pure false
  else unexpected "a boolean"

/-- Takes a count. -/
def count : Reader Nat := do
  let b ← valueStart
  if b = byte '-' || isDigit b then
    match ← number with
    | .natural n => pure n
    | .negative n =>
      stop (.mismatch ("invalid value: " ++ (Number.negative n).shown ++ ", expected usize"))
    | .float isNegative x =>
      stop (.mismatch ("invalid type: " ++ (Number.float isNegative x).shown ++ ", expected usize"))
  else unexpected "usize"

/-- Takes `null`, or what `r` takes. -/
def option {α : Type} (r : Reader α) : Reader (Option α) := do
  if (← peekValue) = some (byte 'n') then do skip; literal ("ull".toList.map byte); pure none
  else do pure (some (← r))

/-! ## Lists -/

/-- Is there another element in a list?  In front of it a comma is taken, unless it is the
`first`. -/
def nextElement (first : Bool) : Reader Bool := do
  match ← peekValue with
  | none => stop .unfinished
  | some b =>
    if b = byte ']' then pure false
    else if first then pure true
    else if b = byte ',' then
      skip
      match ← peekValue with
      | none => stop .unfinished
      | some c => if c = byte ']' then stop .malformed else pure true
    else stop .malformed

/-- Takes the end of a list. -/
def listEnd : Reader Unit := do
  match ← peekValue with
  | none => stop .unfinished
  | some b => if b = byte ']' then skip else stop .malformed

/-- Takes the elements that are left of a list, of which there are at most `bound`. -/
def elements {σ α : Type} (r : Reader α) (enter : σ → α → σ) : (bound : Nat) → Bool → σ → Reader σ
  | 0, _, s => pure s
  | bound + 1, first, s => do
    if ← nextElement first then
      let a ← r
      elements r enter bound false (enter s a)
    else pure s

/-- Takes a list and enters its elements one by one into `s`. -/
def listInto {σ α : Type} (r : Reader α) (enter : σ → α → σ) (s : σ) : Reader σ := do
  if (← valueStart) = byte '[' then
    skip
    let input ← get
    let s ← elements r enter (input.bytes.length + 1) true s
    listEnd
    pure s
  else unexpected "a sequence"

/-- Takes a list. -/
def list {α : Type} (r : Reader α) : Reader (List α) := do
  pure (← listInto r (fun l a => a :: l) []).reverse

/-! ## Objects -/

/-- The next key of an object, if there is one. -/
def nextKey (first : Bool) : Reader (Option String) := do
  match ← peekValue with
  | none => stop .unfinished
  | some b =>
    if b = byte '\x7d' then pure none
    else
      if !first then
        if b = byte ',' then skip else stop .malformed
      match ← peekValue with
      | none => stop .unfinished
      | some c =>
        if c = byte '"' then do
          skip
          pure (some (← textRest))
        else stop .malformed

/-- Takes the colon behind a key. -/
def colon : Reader Unit := do
  match ← peekValue with
  | none => stop .unfinished
  | some b => if b = byte ':' then skip else stop .malformed

/-- Takes the end of an object. -/
def objectEnd : Reader Unit := do
  match ← peekValue with
  | none => stop .unfinished
  | some b => if b = byte '\x7d' then skip else stop .malformed

/-- Takes the members that are left of an object, of which there are at most `bound`. -/
def members {σ : Type} (enter : String → σ → Reader σ) : (bound : Nat) → Bool → σ → Reader σ
  | 0, _, s => pure s
  | bound + 1, first, s => do
    match ← nextKey first with
    | none => pure s
    | some key => members enter bound false (← enter key s)

/-- Takes an object behind its opening brace.  `enter` takes a member behind its key. -/
def objectRest {σ : Type} (enter : String → σ → Reader σ) (s : σ) : Reader σ := do
  let input ← get
  let s ← members enter (input.bytes.length + 1) true s
  objectEnd
  pure s

/-- Takes an object with any keys and enters its members one by one into `s`. -/
def mapInto {σ α : Type} (r : Reader α) (enter : σ → String → α → σ) (s : σ) : Reader σ := do
  if (← valueStart) = byte '\x7b' then
    skip
    objectRest (fun key s => do
      colon
      pure (enter s key (← r))) s
  else unexpected "a map"

end Reader

/-! ## Structures -/

/-- A field of a structure that is put together in a `σ`. -/
structure Field (σ : Type) where
  label : String
  /-- Has the field been read? -/
  isSet : σ → Bool
  /-- Takes the value of the field. -/
  read : σ → Reader σ
  /-- May the field be missing from an object? -/
  optional : Bool
  /-- May the field be missing from the end of a list? -/
  optionalAtEnd : Bool

/-- The written form of a structure. -/
structure Form (σ α : Type) where
  /-- The name of the structure in messages. -/
  title : String
  fields : List (Field σ)
  /-- Nothing is read yet. -/
  start : σ
  /-- The structure, once all that is needed has been read. -/
  build : σ → Option α

namespace Form

open Reader

variable {σ α : Type}

/-- Takes a member of an object behind its key. -/
def enter (f : Form σ α) (key : String) (s : σ) : Reader σ :=
  match f.fields.find? fun field => field.label = key with
  | none => do
    colon
    skipValue
    pure s
  | some field => do
    if field.isSet s then stop (.mismatch ("duplicate field `" ++ key ++ "`"))
    colon
    field.read s

/-- Takes the fields that are left of a list; `taken` of them have been read. -/
def positional (f : Form σ α) : (taken : Nat) → List (Field σ) → σ → Reader σ
  | _, [], s => pure s
  | taken, field :: rest, s => do
    if ← nextElement (taken = 0) then positional f (taken + 1) rest (← field.read s)
    else if field.optionalAtEnd then positional f (taken + 1) rest s
    else
      stop (.mismatch ("invalid length " ++ toString taken ++ ", expected struct " ++ f.title ++
        " with " ++ toString f.fields.length ++ " elements"))

/-- The structure, or the first field that is missing. -/
def finish (f : Form σ α) (s : σ) : Reader α :=
  match f.fields.find? fun field => !field.optional && !field.isSet s with
  | some field => stop (.mismatch ("missing field `" ++ field.label ++ "`"))
  | none =>
    match f.build s with
    | some a => pure a
    | none => stop .malformed

/-- Takes a structure. -/
def reader (f : Form σ α) : Reader α := do
  let b ← valueStart
  if b = byte '[' then
    skip
    let s ← f.positional 0 f.fields f.start
    let a ← f.finish s
    listEnd
    pure a
  else if b = byte '\x7b' then
    skip
    let input ← get
    let s ← members f.enter (input.bytes.length + 1) true f.start
    let a ← f.finish s
    objectEnd
    pure a
  else unexpected ("struct " ++ f.title)

end Form

/-- The value of a complete text: nothing but blanks may follow it. -/
def Reader.run {α : Type} (r : Reader α) (input : Input) : Except Problem α :=
  (do
    let a ← r
    match ← peekValue with
    | none => pure a
    | some _ => stop .malformed : Reader α).run' input

end Json
end Reconcile
