import Marginalia.Text.Basic

/-!
The blocks of a document: paragraphs, headings, lists and the like, with the raw lines of what they
hold.
-/

namespace Marginalia

namespace Markdown

/-- A line of running text with what ends it. -/
structure Line where
  text : Text
  /-- The sign of a quotation stands right before the text. -/
  quoted : Bool := false
deriving DecidableEq, Repr, Inhabited

namespace Line

/-- The text of lines one after another. -/
def joined (lines : List Line) : Text := lines.flatMap text

/-- How much text is left where a line begins right behind the sign of a quotation. -/
def quotedTails : List Line → List Nat
  | [] => []
  | l :: ls => if l.quoted then (joined (l :: ls)).length :: quotedTails ls else quotedTails ls

end Line

/-- How the cells of a column are set. -/
inductive Alignment where
  | none
  | left
  | right
  | center
deriving DecidableEq, Repr, Inhabited

/-- What a block is, apart from the blocks inside it. -/
inductive Kind where
  | paragraph (lines : List Line)
  /-- The text of a list item that is set without paragraphs. -/
  | plain (lines : List Line)
  | heading (level : Nat) (id : Text) (lines : List Line)
  | rule
  | code (language : Option Text) (lines : List Text)
  | html (lines : List Text) (last : Option Text)
  | quote
  | list (marker : UInt8) (start : Nat)
  | item
  | table (alignments : List Alignment) (header : List Text) (rows : List (List Text))
deriving DecidableEq, Repr, Inhabited

/-- A block. It is `spaced` when a blank line stands before it. -/
inductive Block where
  | node (kind : Kind) (spaced : Bool) (children : List Block)
deriving Repr, Inhabited

namespace Block

def kind : Block → Kind
  | .node k _ _ => k

def spaced : Block → Bool
  | .node _ s _ => s

def children : Block → List Block
  | .node _ _ cs => cs

end Block

end Markdown

end Marginalia
