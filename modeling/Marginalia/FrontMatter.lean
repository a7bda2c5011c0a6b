import Marginalia.Text.Symbols

/-!
Front matter: a block of settings at the head of a source file, between two lines of three hyphens.
-/

namespace Marginalia

/-- A source file taken apart. The settings are absent where the file has no block; an empty block is
present. -/
structure FrontMatter where
  settings : Option Text
  body : Text
deriving DecidableEq, Repr

namespace FrontMatter

/-- The mark that an editor may put in front of a text in UTF-8. -/
def byteOrderMark : Text := [0xef, 0xbb, 0xbf]

/-- Is the line, apart from white space around it, three hyphens? -/
def isDelimiter (line : Text) : Bool := Text.trim line == "---"

/-- The lines before and after the first delimiter. -/
def atDelimiter? : List Text → Option (List Text × List Text)
  | [] => none
  | l :: ls =>
    if isDelimiter l then some ([], ls)
    else (atDelimiter? ls).map fun (before, after) => (l :: before, after)

/-- Takes a file apart. The first line opens a block only if it is a delimiter that ends in a line
feed, and only if another delimiter follows; otherwise the whole file is the body. -/
def split (data : Text) : FrontMatter :=
  let text := Text.dropStart data byteOrderMark
  match Text.lines text with
  | [] => ⟨none, text⟩
  | first :: rest =>
    if first.getLast? == some '\n' && isDelimiter first then
      match atDelimiter? rest with
      | some (before, after) => ⟨some before.flatten, after.flatten⟩
      | none => ⟨none, text⟩
    else ⟨none, text⟩

end FrontMatter

end Marginalia
