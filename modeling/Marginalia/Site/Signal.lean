import Marginalia.Site.Comments
import Marginalia.Site.Deploy

/-!
Signals: at certain points of a building the handlers that are connected run in order, and the first that
fails stops it.
-/

namespace Marginalia

namespace Build

/-- Runs a handler. -/
def handle : Handler → Build HandlerError Unit
  | .loadComments => loadComments
  | .deploy => deploy
  | .labelled label fails => do
    change fun s => { s with trace := s.trace ++ [label] }
    if fails then throw (.labelled label)

/-- Runs the handlers of a signal. -/
def emit (signal : Text) : Build SiteError Unit := do
  let handlers := (← get).handlersOf signal
  note { level := .debug, message := "emit signal"
         fields := [("signal", .text signal), ("handlers", .int handlers.length)] }
  (handlers.forM handle : Build HandlerError Unit).adapt (.handler signal)

end Build

end Marginalia
