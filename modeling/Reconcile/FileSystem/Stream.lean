import Reconcile.FileSystem.Fault
import Reconcile.Text.Utf8

/-!
# Streams

An open file hands out its bytes in portions of its own choice.  A `Stream` is what is still to
come together with a schedule of the answers to the next requests; when the schedule is used up,
every request gets all it asks for.  `Stream.fill` asks until a buffer is full or the stream has
ended, so that what it returns does not depend on the schedule, except for failures.
-/

namespace Reconcile

/-- How a stream answers one request for bytes. -/
inductive Grant where
  /-- At most `n + 1` bytes are handed out, and none only at the end. -/
  | upTo (n : Nat)
  /-- The request was interrupted and may be repeated. -/
  | interrupted
  /-- The request failed. -/
  | failed (fault : Fault)
deriving DecidableEq, Repr

/-- An open file or directory. -/
structure Stream where
  /-- What is still to come. -/
  bytes : Bytes
  /-- How the next requests are answered. -/
  schedule : List Grant
deriving DecidableEq, Repr

/-- A buffer after reading into it. -/
structure Filled where
  /-- All bytes of the buffer. -/
  buffer : Bytes
  /-- How many of them, at the front, come from the stream. -/
  count : Nat
  /-- What is left of the stream. -/
  rest : Stream
deriving DecidableEq, Repr

namespace Stream

/-- A stream that hands out `bytes` at once. -/
def ofBytes (bytes : Bytes) : Stream := ⟨bytes, []⟩

/-- Reads into the buffer `filled ++ room`, of which `filled` already comes from the stream. -/
def fillRoom (filled room bytes : Bytes) : List Grant → Except Fault Filled
  | [] =>
    let got := bytes.take room.length
    .ok ⟨filled ++ got ++ room.drop got.length, filled.length + got.length,
      ⟨bytes.drop room.length, []⟩⟩
  | grant :: schedule =>
    if room = [] then .ok ⟨filled, filled.length, ⟨bytes, grant :: schedule⟩⟩
    else
      match grant with
      | .interrupted => fillRoom filled room bytes schedule
      | .failed fault => .error fault
      | .upTo n =>
        let got := bytes.take (min (n + 1) room.length)
        if got = [] then .ok ⟨filled ++ room, filled.length, ⟨bytes, schedule⟩⟩
        else fillRoom (filled ++ got) (room.drop got.length) (bytes.drop got.length) schedule

/-- Reads until `buffer` is full or the stream has ended. -/
def fill (s : Stream) (buffer : Bytes) : Except Fault Filled :=
  fillRoom [] buffer s.bytes s.schedule

/-- Reads everything that is still to come. -/
def drain (s : Stream) : Except Fault Bytes :=
  go s.bytes s.schedule
where
  go (bytes : Bytes) : List Grant → Except Fault Bytes
    | [] => .ok bytes
    | .interrupted :: schedule => go bytes schedule
    | .failed fault :: _ => .error fault
    | .upTo n :: schedule =>
      if bytes = [] then .ok []
      else (go (bytes.drop (n + 1)) schedule).map (bytes.take (n + 1) ++ ·)

@[simp] theorem drain_ofBytes (bytes : Bytes) : (ofBytes bytes).drain = .ok bytes := rfl

end Stream
end Reconcile
