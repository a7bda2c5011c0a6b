import Marginalia.Markdown.Block
import Marginalia.Markdown.Cursor

/-!
Tables: a row of headings, a row of hyphens and colons that sets the columns, and rows of cells.
-/

namespace Marginalia

namespace Markdown

namespace Table

/-- How a column is set by its cell of the delimiter row. -/
def alignment? (cell : Text) : Option Alignment :=
  let cell := Text.strip isSpace cell
  let left := cell.head? == some ':'
  let right := 1 < cell.length && cell.getLast? == some ':'
  let inner := if left then cell.drop 1 else cell
  let inner := if right then inner.dropLast else inner
  if inner.isEmpty || !inner.all (· == '-') then none
  else some (match left, right with
    | true, true => .center
    | true, false => .left
    | false, true => .right
    | false, false => .none)

/-- May the line be a delimiter row, by its octets? -/
def isDelimiterLine (line : Text) : Bool :=
  (indentWidth 0 line).1 ≤ 3 &&
  line.all (fun c : UInt8 => isSpace c || c == '-' || c == '|' || c == ':') &&
  !line.all (fun c : UInt8 => c == '-')

/-- The columns that a delimiter row sets. -/
def alignments? (line : Text) : Option (List Alignment) :=
  if !isDelimiterLine line then none
  else
    let cells := Text.splitOn '|' line
    let cells := if (cells.head?.map isBlank).getD false then cells.drop 1 else cells
    let cells := if (cells.getLast?.map isBlank).getD false then cells.dropLast else cells
    if cells.isEmpty then none else cells.mapM alignment?

/-- The cells of a line between its bars; a bar behind a backslash belongs to a cell. -/
def splitCells : (previous : UInt8) → Text → List Text
  | _, [] => [[]]
  | previous, c :: t =>
    if c == '|' && previous != '\\' then [] :: splitCells c t
    else match splitCells c t with
      | [] => [[c]]
      | cell :: cells => (c :: cell) :: cells

/-- The cells of a row. The bars at both ends may be left out. -/
def cells (line : Text) : List Text :=
  let line := Text.strip isSpace line
  let last := line.getLast? == some '|'
  let opened := line.head? == some '|'
  let inner := if opened then line.drop 1 else line
  let inner := if last && !inner.isEmpty then inner.dropLast else inner
  if inner.isEmpty then []
  else
    let found := splitCells (if opened then '|' else 0) inner
    let found := if (found.getLast?.map (·.isEmpty)).getD false then found.dropLast else found
    found.map (Text.strip isSpace)

/-- The cells of a row below the headings; further ones are left out. -/
def row (columns : Nat) (line : Text) : List Text := (cells line).take columns

/-- A table among the lines of a paragraph: the lines before it, and the table. -/
def find? (lines : List Line) : Option (List Line × Kind) :=
  let rec go : (before : List Line) → List Line → Option (List Line × Kind)
    | before, header :: delimiter :: rest =>
      match alignments? delimiter.text with
      | none => go (before ++ [header]) (delimiter :: rest)
      | some alignments =>
        let heads := cells header.text
        if heads.length == alignments.length then
          some (before, .table alignments heads (rest.map fun l => row alignments.length l.text))
        else none
    | _, _ => none
  go [] lines

end Table

end Markdown

end Marginalia
