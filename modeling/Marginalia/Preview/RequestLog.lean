import Marginalia.Log
import Marginalia.Url

/-!
The log entry of a request.
-/

namespace Marginalia

/-- A request that was answered: what came, how it was answered, and the errors met on the way. -/
structure Exchange where
  method : Text
  path : Text
  status : Nat
  errors : List Text := []
  client : Text := "192.0.2.1"
deriving DecidableEq, Repr

namespace Exchange

/-- The errors, numbered, each on lines of its own. -/
def errorsText (errors : List Text) : Text :=
  (errors.zipIdx 1).flatMap fun (e, k) => "Error #" ++ Text.padNat 2 k ++ ": " ++ e ++ "\n"

/-- Failures of the server are errors, files that belong to pages matter least. -/
def level (x : Exchange) : Log.Level :=
  if 500 ≤ x.status then .error
  else if Text.startsWith x.path "/assets/" then .debug
  else .info

/-- The log entry. -/
def entry (x : Exchange) : Log.Entry :=
  let request : List (Text × Log.Value) :=
    [("method", .text x.method), ("path", .text x.path), ("status", .int x.status),
      ("client_ip", .text x.client)]
  let errors : List (Text × Log.Value) :=
    if x.errors.isEmpty then [] else [("errors", .text (errorsText x.errors))]
  { level := x.level, message := "request", fields := request ++ errors }

end Exchange

end Marginalia
