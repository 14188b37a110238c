import Reconcile.Json.Number

/-!
# Passing over values

A value that nobody asks for is passed over without being built, and however deep it is nested.
Only its form counts: numbers may be of any size and texts need not be UTF-8.
-/

namespace Reconcile
namespace Json
namespace Reader

/-- A list or an object that is not closed yet. -/
inductive Frame where
  | list
  | object
deriving DecidableEq, Repr

/-- The byte that closes a frame. -/
def Frame.close : Frame → UInt8
  | .list => byte ']'
  | .object => byte '\x7d'

/-- Where the reader stands while it passes over a value. -/
inductive Stage where
  /-- In front of a value. -/
  | value
  /-- Behind the start of a list or an object. -/
  | opened
  /-- Behind a value. -/
  | closed
deriving DecidableEq, Repr

/-- Passes over the key in front of the next value of a frame, if it is an object. -/
def skipKey : Frame → Reader Unit
  | .list => pure ()
  | .object => do
    match ← peekValue with
    | none => stop .unfinished
    | some b => if b = byte '"' then skip else stop .malformed
    skipTextRest
    match ← peekValue with
    | none => stop .unfinished
    | some b => if b = byte ':' then skip else stop .malformed

/-- Passes over the start of a value: all of it, or the bracket that opens it. -/
def skipStart : Reader (Option Frame) := do
  match ← peekValue with
  | none => stop .unfinished
  | some b =>
    if isDigit b then do skipUnsigned; pure none
    else
      skip
      if b = byte 'n' then do literal ("ull".toList.map byte); pure none
      else if b = byte 't' then do literal ("rue".toList.map byte); pure none
      else if b = byte 'f' then do literal ("alse".toList.map byte); pure none
      else if b = byte '"' then do skipTextRest; pure none
      else if b = byte '-' then do skipUnsigned; pure none
      else if b = byte '[' then pure (some .list)
      else if b = byte '\x7b' then pure (some .object)
      else stop .malformed

/-- Passes over what is left of a value inside of `frames`, in at most `steps` steps. -/
def skipRest : (steps : Nat) → Stage → List Frame → Reader Unit
  | 0, _, _ => stop .malformed
  | steps + 1, .value, frames => do
    match ← skipStart with
    | none => skipRest steps .closed frames
    | some frame => skipRest steps .opened (frame :: frames)
  | _ + 1, .closed, [] => pure ()
  | _ + 1, .opened, [] => pure ()
  | steps + 1, stage, frame :: frames => do
    match ← peekValue with
    | none => stop .unfinished
    | some b =>
      if b = frame.close then
        skip
        skipRest steps .closed frames
      else if stage = .opened then
        skipKey frame
        skipRest steps .value (frame :: frames)
      else if b = byte ',' then
        skip
        skipKey frame
        skipRest steps .value (frame :: frames)
      else stop .malformed

/-- Passes over a value.  Every second step takes at least one byte. -/
def skipValue : Reader Unit := do
  let input ← get
  skipRest (2 * input.bytes.length + 2) .value []

end Reader
end Json
end Reconcile
