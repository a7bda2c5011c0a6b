import Marginalia.Html.Token

/-!
Documents as trees, and how they are written.
-/

namespace Marginalia

namespace Html

/-- The vocabulary an element belongs to. -/
inductive Space where
  | html
  | math
  | svg
deriving DecidableEq, Repr, Inhabited

/-- What an element is, apart from what is inside it. -/
structure Label where
  name : Text
  space : Space := .html
  attributes : List Attribute := []
deriving DecidableEq, Repr, Inhabited

/-- A declaration of the type of a document, with its public and its system identifier. -/
structure Doctype where
  name : Text
  identifiers : List (Bool × Text) := []
deriving DecidableEq, Repr, Inhabited

/-- A node of a document. -/
inductive Node where
  | text (value : Text)
  | comment (value : Text)
  | doctype (value : Doctype)
  | element (label : Label) (children : List Node)
deriving Repr, Inhabited

namespace Node

/-- Is this an element of a name? -/
def isNamed (name : Text) : Node → Bool
  | .element label _ => label.name == name
  | _ => false

def isElement : Node → Bool
  | .element _ _ => true
  | _ => false

def children : Node → List Node
  | .element _ cs => cs
  | _ => []

mutual

/-- All text in a node. -/
def allText : Node → Text
  | .text t => t
  | .element _ cs => allTexts cs
  | _ => []

/-- All text in nodes one after another. -/
def allTexts : List Node → Text
  | [] => []
  | n :: ns => n.allText ++ allTexts ns

end

mutual

/-- The first element of a name, in the order of the document. -/
def find? (name : Text) : Node → Option Node
  | .element label cs => if label.name == name then some (.element label cs) else findIn? name cs
  | _ => none

/-- The first element of a name in nodes one after another. -/
def findIn? (name : Text) : List Node → Option Node
  | [] => none
  | n :: ns => (n.find? name).or (findIn? name ns)

end

end Node

/-! ### Writing -/

/-- The elements that have no content and no closing tag. -/
def voidElements : List Text :=
  Text.words "area base br col embed hr img input keygen link meta param source track wbr"

/-- The elements whose text is written as it is. -/
def literalElements : List Text :=
  Text.words "iframe noembed noframes noscript plaintext script style xmp"

/-- The text of a comment. An ampersand is escaped, and so is a closing angle bracket that could end the
comment; `previous` is the octet before. -/
def commentText : (previous : Option UInt8) → Text → Text
  | _, [] => []
  | previous, c :: t =>
    let ends := previous == none || previous == some '!' || previous == some '-'
    let shown : Text := if c == '&' then "&amp;" else if c == '>' && ends then "&gt;" else [c]
    shown ++ commentText (some c) t

/-- An identifier in quotes it does not contain. -/
def quotedIdentifier (t : Text) : Text :=
  let q : Text := if t.contains '"' then [Text.apostrophe] else "\""
  q ++ t ++ q

/-- A declaration of the type of a document. -/
def Doctype.text (d : Doctype) : Text :=
  let last (isPublic : Bool) : Text :=
    ((d.identifiers.filter (·.1 == isPublic)).getLast?.map (·.2)).getD []
  let p := last true
  let s := last false
  let ids : Text :=
    if !p.isEmpty then
      " PUBLIC " ++ quotedIdentifier p ++ Text.onlyIf (!s.isEmpty) (" " ++ quotedIdentifier s)
    else Text.onlyIf (!s.isEmpty) (" SYSTEM " ++ quotedIdentifier s)
  "<!DOCTYPE " ++ escape d.name ++ ids ++ ">"

/-- An attribute with the blank in front of it. -/
def Attribute.text (a : Attribute) : Text := " " ++ a.name ++ "=\"" ++ escape a.value ++ "\""

/-- The opening tag of an element, without its end. -/
def Label.opening (l : Label) : Text := "<" ++ l.name ++ l.attributes.flatMap Attribute.text

/-- A line feed that keeps the first one of the content from being lost. -/
def leadingFeed (l : Label) (children : List Node) : Text :=
  match children with
  | .text t :: _ =>
    Text.onlyIf (t.head? == some '\n' && (Text.words "pre listing textarea").contains l.name) "\n"
  | _ => []

/-- What writing comes to. -/
inductive Written where
  | whole (t : Text)
  /-- Nothing may follow the text, not even a closing tag. -/
  | final (t : Text)
  /-- An element that can have no content has some. -/
  | impossible
deriving DecidableEq, Repr, Inhabited

namespace Written

/-- Text in front of what is written. -/
def after (before : Text) : Written → Written
  | .whole t => .whole (before ++ t)
  | .final t => .final (before ++ t)
  | .impossible => .impossible

/-- One thing written behind another. -/
def andThen : Written → (Unit → Written) → Written
  | .whole t, next => (next ()).after t
  | w, _ => w

end Written

mutual

/-- A node as HTML. -/
def Node.write : Node → Written
  | .text t => .whole (escape t)
  | .comment t => .whole ("<!--" ++ commentText none t ++ "-->")
  | .doctype d => .whole d.text
  | .element l cs =>
    if voidElements.contains l.name then
      if cs.isEmpty then .whole (l.opening ++ "/>") else .impossible
    else
      let literal := l.space == .html && literalElements.contains l.name
      let inner := (writeAll literal cs).after (l.opening ++ ">" ++ leadingFeed l cs)
      inner.andThen fun _ =>
        if literal && l.name == "plaintext" then .final []
        else .whole ("</" ++ l.name ++ ">")

/-- Nodes one after another as HTML; `literal` keeps their text as it is. -/
def writeAll (literal : Bool) : List Node → Written
  | [] => .whole []
  | n :: ns =>
    match literal, n with
    | true, .text t => (writeAll literal ns).after t
    | _, n => n.write.andThen fun _ => writeAll literal ns

end

/-- Nodes as HTML, each on its own: what may be followed by nothing is still followed by the next node.
Nothing at all is written if one of them cannot be. -/
def writeEach : List Node → Text
  | ns =>
    let texts := ns.map fun n => match n.write with
      | .whole t | .final t => some t
      | .impossible => none
    if texts.all (·.isSome) then (texts.filterMap id).flatten else []

end Html

end Marginalia
