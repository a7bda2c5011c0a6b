import Marginalia.Markdown.Reference

/-!
What stands inside a line of running text: words, emphasis, links, code and the like.
-/

namespace Marginalia

namespace Markdown

/-- A piece of running text. -/
inductive Inline where
  /-- Text in which escapes and character references are still to be resolved. -/
  | text (value : Text)
  | softBreak
  | hardBreak
  | code (value : Text)
  | emphasis (children : List Inline)
  | strong (children : List Inline)
  | strike (children : List Inline)
  | link (target : Target) (children : List Inline)
  | image (target : Target) (children : List Inline)
  /-- An address that is its own text. -/
  | address (destination : Text) (label : Text)
  | html (value : Text)
  | checkbox (checked : Bool)
deriving Repr, Inhabited

mutual

/-- Is there a link in it? -/
def Inline.hasLink : Inline → Bool
  | .link _ _ => true
  | .emphasis cs | .strong cs | .strike cs | .image _ cs => hasLinkIn cs
  | _ => false

/-- Is there a link in one of them? -/
def hasLinkIn : List Inline → Bool
  | [] => false
  | i :: is => i.hasLink || hasLinkIn is

end

end Markdown

end Marginalia
