import Marginalia.Html.Modes

/-!
Reading HTML. Any text is some document: what is missing is supplied, and what is in the wrong place
is moved.
-/

namespace Marginalia

namespace Html

/-- Reads the tokens of a text into a draft; `raw` is the element whose content is one text. -/
def readTokens : (fuel : Nat) → (raw : Option Text) → Text → Draft → Draft
  | 0, _, _, d => d
  | fuel + 1, raw, t, d =>
    let dataAllowed := d.space d.top != .html
    let (token, rest) := Token.next raw dataAllowed t
    let d := Draft.handle (2 * d.stack.length + 64) token { d with plainNext := false }
    if token == .stop then d
    else readTokens fuel (if d.plainNext then none else token.raw?) rest d

/-- The nodes of a draft by number, to a given depth. -/
def Draft.nodes (d : Draft) : (depth : Nat) → List Nat → List Node
  | 0, _ => []
  | depth + 1, is => is.filterMap fun i =>
    let e := d.entry i
    match e.content with
    | .document => none
    | .text t => some (.text t)
    | .comment t => some (.comment t)
    | .doctype t => some (.doctype t)
    | .element l => some (.element l (d.nodes depth e.children))

/-- The nodes of the document that a text is. -/
def parse (t : Text) : List Node :=
  let d := readTokens (t.length + 1) none t {}
  d.nodes d.entries.size (d.entry 0).children

end Html

end Marginalia
