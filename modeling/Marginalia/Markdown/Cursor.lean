import Marginalia.Text.Basic

/-!
Where reading stands in a line. Tabs reach to the next multiple of four columns; a tab of which only
a part belongs to an indentation leaves blanks that are still to be read.
-/

namespace Marginalia

namespace Markdown

/-- The columns a tab takes at a column. -/
def tabWidth (column : Nat) : Nat := 4 - column % 4

/-- The octets that count as white space: blanks, tabs and the ends of lines. -/
def isSpace (c : UInt8) : Bool := c == ' ' || c == '\t' || c == '\n' || c == '\r'

/-- Is there nothing but white space? -/
def isBlank (t : Text) : Bool := t.all isSpace

/-- The width of the blanks and tabs in front of a text that starts at a column, and how many octets
they are. -/
def indentWidth : (column : Nat) → Text → Nat × Nat
  | _, [] => (0, 0)
  | column, c :: t =>
    if c == ' ' then
      let (w, n) := indentWidth (column + 1) t
      (w + 1, n + 1)
    else if c == '\t' then
      let (w, n) := indentWidth (column + tabWidth column) t
      (w + tabWidth column, n + 1)
    else (0, 0)

/-- How many octets of a text that starts at a column make up an indentation of `width`, and how many
columns of the last tab are left over; nothing if the indentation is smaller. -/
def indentPosition? : (column : Nat) → (width : Nat) → Text → Option (Nat × Nat)
  | _, 0, _ => some (0, 0)
  | _, _ + 1, [] => none
  | column, width + 1, c :: t =>
    if c == ' ' then (indentPosition? (column + 1) width t).map fun (n, pad) => (n + 1, pad)
    else if c == '\t' then
      let w := tabWidth column
      if width + 1 ≤ w then some (1, w - (width + 1))
      else (indentPosition? (column + w) (width + 1 - w) t).map fun (n, pad) => (n + 1, pad)
    else none

/-- A text without an indentation of `width`, in which every tab counts four columns. The last octet stays,
and columns of a tab beyond the width are left as blanks. -/
def withoutIndent : (width : Nat) → Text → Text
  | 0, t => t
  | width + 1, c :: d :: t =>
    if c == ' ' then withoutIndent width (d :: t)
    else if c == '\t' then
      if width + 1 ≤ 4 then List.replicate (3 - width) ' '.toUInt8 ++ d :: t
      else withoutIndent (width - 3) (d :: t)
    else c :: d :: t
  | _ + 1, t => t

/-- A place in a line: the column of the octets left, the blanks before them that a tab still owes,
and the octets left. -/
structure Cursor where
  column : Nat := 0
  pad : Nat := 0
  rest : Text
  /-- The octet read last is the sign of a quotation. -/
  quoted : Bool := false
deriving DecidableEq, Repr, Inhabited

namespace Cursor

/-- The rest of the line with the blanks it is owed. -/
def line (c : Cursor) : Text := List.replicate c.pad ' '.toUInt8 ++ c.rest

/-- The column where the rest of the line starts. -/
def offset (c : Cursor) : Nat := c.column - c.pad

/-- The column behind a run of octets. -/
def columnAfter (column : Nat) (t : Text) : Nat :=
  t.foldl (fun k (c : UInt8) => if c == '\t' then k + tabWidth k else k + 1) column

/-- Reads `n` octets of `line`. -/
def advance (c : Cursor) (n : Nat) : Cursor :=
  if n ≤ c.pad then { c with pad := c.pad - n }
  else
    let k := n - c.pad
    { column := columnAfter c.column (c.rest.take k), rest := c.rest.drop k }

/-- Reads `n` octets, of which the last leaves `pad` blanks. -/
def advanceTo (c : Cursor) (n pad : Nat) : Cursor :=
  let d := c.advance n
  { d with pad := max pad d.pad }

/-- Is the rest of the line blank? -/
def isBlank (c : Cursor) : Bool := Markdown.isBlank c.rest

end Cursor

end Markdown

end Marginalia
