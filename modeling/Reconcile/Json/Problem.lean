/-!
# Problems with JSON texts

A JSON text that is not accepted has a problem of one of four kinds.  The first one in the order
of the text counts.
-/

namespace Reconcile
namespace Json

/-- Why a JSON text was not accepted. -/
inductive Problem where
  /-- The text could not be read on. -/
  | io
  /-- It is no JSON. -/
  | malformed
  /-- It ends too early. -/
  | unfinished
  /-- It is JSON of another form than expected. -/
  | mismatch (message : String)
deriving DecidableEq, Repr

/-- The text of a problem. -/
def Problem.message : Problem → String
  | io => "the data could not be read"
  | malformed => "the data are not JSON"
  | unfinished => "the data end too early"
  | mismatch message => message

end Json
end Reconcile
