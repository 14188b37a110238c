import Reconcile.Diff.Error
import Reconcile.FileSystem.Basic

/-!
# Comparing two files

Files of different sizes differ.  Otherwise both are read in chunks of `chunkSize` bytes until a
pair of chunks differs or a chunk is short, which means that the end is reached.
-/

namespace Reconcile

/-- The number of bytes that are read at a time. -/
def chunkSize : Nat := 8 * 1024

/-- Which of two streams failed. -/
inductive Side where
  | first
  | second
deriving DecidableEq, Repr

/-- Do the streams differ?  The chunks are read into the buffers `bufferA` and `bufferB`, which are
used again and again. -/
def chunksDiffer : (rounds : Nat) → (a b : Stream) → (bufferA bufferB : Bytes) →
    Except (Side × Fault) Bool
  | 0, _, _, _, _ => .ok false
  | rounds + 1, a, b, bufferA, bufferB =>
    match a.fill bufferA, b.fill bufferB with
    | .error fault, _ => .error (.first, fault)
    | .ok _, .error fault => .error (.second, fault)
    | .ok filledA, .ok filledB =>
      if filledA.count ≠ filledB.count ∨
          filledA.buffer.take filledA.count ≠ filledB.buffer.take filledB.count then .ok true
      else if filledA.count < bufferA.length then .ok false
      else chunksDiffer rounds filledA.rest filledB.rest filledA.buffer filledB.buffer

/-- Do the streams differ?  A round for each full chunk and one for the short chunk behind them is
enough. -/
def streamsDiffer (a b : Stream) : Except (Side × Fault) Bool :=
  chunksDiffer (a.bytes.length / chunkSize + 1) a b
    (List.replicate chunkSize 0) (List.replicate chunkSize 0)

/-- Do two files differ in any byte? -/
def contentsDiffer (fs : FileSystem) (a b : Path) : Except DiffError Bool :=
  match fs.locate a with
  | .error fault => .error (.read a fault)
  | .ok locA =>
    match fs.locate b with
    | .error fault => .error (.read b fault)
    | .ok locB =>
      if fs.sizeAt locA ≠ fs.sizeAt locB then .ok true
      else
        match streamsDiffer (fs.streamAt locA) (fs.streamAt locB) with
        | .ok differ => .ok differ
        | .error (.first, fault) => .error (.read a fault)
        | .error (.second, fault) => .error (.read b fault)

end Reconcile
