import Marginalia.Markdown.Spans
import Marginalia.Markdown.Structure
import Marginalia.Markdown.Writing

/-!
Documents as HTML. A style decides how empty elements are closed and whether the HTML of the source
is kept.
-/

namespace Marginalia

namespace Markdown

/-- How a document is written. -/
structure Style where
  /-- Empty elements are closed with a slash, and cells are aligned by an attribute of their own. -/
  closesEmpty : Bool
  /-- HTML and addresses of the source are kept, whatever they do. -/
  trusted : Bool

namespace Style

/-- Comments come from readers. -/
def comment : Style := ⟨true, false⟩

/-- Posts come from the author of the site. -/
def post : Style := ⟨false, true⟩

/-- The end of an empty element. -/
def emptyEnd (s : Style) : Text := if s.closesEmpty then " />" else ">"

/-- What stands for HTML that is not kept. -/
def omitted : Text := "<!-- raw HTML omitted -->"

/-- The destination of a link or an image as HTML. -/
def destination (s : Style) (d : Text) : Text :=
  if s.trusted || !isDangerous d then writeAddress (resolveDestination d) else ""

end Style

/-- An attribute whose value is HTML already. -/
def attr (name value : Text) : Text := " " ++ name ++ "=\"" ++ value ++ "\""

/-- The attribute of a title. -/
def titleAttribute (t : Target) : Text :=
  match t.title with
  | some title => attr "title" (write title)
  | none => ""

/-- An element on a line with others. -/
def element (name : Text) (inner : Text) : Text := "<" ++ name ++ ">" ++ inner ++ "</" ++ name ++ ">"

/-! ### Running text -/

mutual

/-- The text of a piece, for the description of an image. -/
def plainText (s : Style) : Inline → Text
  | .text t => write t
  | .softBreak => "\n"
  | .hardBreak => "<br" ++ s.emptyEnd ++ "\n"
  | .code t => escaped t
  | .emphasis cs | .strong cs | .strike cs | .link _ cs | .image _ cs => plainTexts s cs
  | .address _ _ | .html _ | .checkbox _ => ""

/-- The text of pieces one after another. -/
def plainTexts (s : Style) : List Inline → Text
  | [] => ""
  | i :: is => plainText s i ++ plainTexts s is

end

mutual

/-- A piece of running text as HTML. -/
def renderInline (s : Style) : Inline → Text
  | .text t => write t
  | .softBreak => "\n"
  | .hardBreak => "<br" ++ s.emptyEnd ++ "\n"
  | .code t => element "code" (escaped (t.map fun c : UInt8 => if c == '\n' then ' ' else c))
  | .emphasis cs => element "em" (renderInlines s cs)
  | .strong cs => element "strong" (renderInlines s cs)
  | .strike cs => element "del" (renderInlines s cs)
  | .link target cs =>
    "<a" ++ attr "href" (s.destination target.destination) ++ titleAttribute target ++ ">" ++
      renderInlines s cs ++ "</a>"
  | .image target cs =>
    "<img" ++ attr "src" (s.destination target.destination) ++
      attr "alt" (plainTexts s cs) ++ titleAttribute target ++ s.emptyEnd
  | .address destination label =>
    "<a" ++ attr "href" (writeAddress destination) ++ ">" ++ escaped label ++ "</a>"
  | .html t => if s.trusted then t else Style.omitted
  | .checkbox checked =>
    "<input" ++ Text.onlyIf checked (attr "checked" "") ++ attr "disabled" "" ++
      attr "type" "checkbox" ++ s.emptyEnd ++ " "

/-- Pieces of running text as HTML. -/
def renderInlines (s : Style) : List Inline → Text
  | [] => ""
  | i :: is => renderInline s i ++ renderInlines s is

end

/-! ### Blocks -/

/-- The lines of a block of HTML, without octets that are zero. -/
def rawLines (lines : List Text) : Text :=
  Text.replaceEach (fun c : UInt8 => if c == 0 then some (Text.ofChar Text.replacement) else none) lines.flatten

/-- How a cell is aligned, as an attribute. -/
def alignmentAttribute (s : Style) (a : Alignment) : Text :=
  let side : Option Text := match a with
    | .none => none
    | .left => some "left"
    | .right => some "right"
    | .center => some "center"
  match side with
  | none => ""
  | some side => if s.closesEmpty then attr "align" side else attr "style" ("text-align:" ++ side)

/-- A row of a table. Cells that are missing at its end have no alignment. -/
def renderRow (s : Style) (setting : Setting) (name : Text) (alignments : List Alignment)
    (row : List Text) : Text :=
  let missing := List.replicate (alignments.length - row.length) (none, [])
  let cells := (alignments.map some).zip row ++ missing
  "<tr>\n" ++ (cells.flatMap fun (a, cell) =>
    "<" ++ name ++ ((a.map (alignmentAttribute s)).getD "") ++ ">" ++
      renderInlines s (spans setting cell) ++ "</" ++ name ++ ">\n") ++ "</tr>\n"

/-- A table. -/
def renderTable (s : Style) (setting : Setting) (alignments : List Alignment) (header : List Text)
    (rows : List (List Text)) : Text :=
  let setting := { setting with inCell := true, leadsItem := false }
  let body : Text :=
    if rows.isEmpty then ""
    else "<tbody>\n" ++ (rows.flatMap fun cells => renderRow s setting "td" alignments cells) ++
      "</tbody>\n"
  "<table>\n<thead>\n" ++ renderRow s setting "th" alignments header ++ "</thead>\n" ++ body ++ "</table>\n"

/-- Is a block set without an element of its own? -/
def Block.isPlain (b : Block) : Bool :=
  match b.kind with
  | .plain _ => true
  | _ => false

mutual

/-- A block as HTML; `leadsItem` tells that it is the first of a list item, and `more` that another
one follows. -/
def renderBlock (s : Style) (refs : References) (leadsItem more : Bool) : Block → Text
  | .node kind _ children =>
    let setting : Setting := { references := refs, leadsItem }
    let running (lines : List Line) : Text :=
      renderInlines s (spans { setting with quotedTails := Line.quotedTails (lines.drop 1) } (Line.joined lines))
    let inside (inItem : Bool) : Text := renderBlocks s refs inItem children
    match kind with
    | .paragraph lines => element "p" (running lines) ++ "\n"
    | .plain lines => running lines ++ Text.onlyIf (more && !lines.isEmpty) "\n"
    | .heading level id lines =>
      let name : Text := "h" ++ Text.ofNat level
      "<" ++ name ++ attr "id" (escaped id) ++ ">" ++ running lines ++ "</" ++ name ++ ">\n"
    | .rule => "<hr" ++ s.emptyEnd ++ "\n"
    | .code language lines =>
      let mark : Text := match language with
        | some name => Text.onlyIf (!name.isEmpty) (attr "class" ("language-" ++ write name))
        | none => ""
      "<pre><code" ++ mark ++ ">" ++ escaped lines.flatten ++ "</code></pre>\n"
    | .html lines last =>
      if s.trusted then rawLines (lines ++ last.toList)
      else Style.omitted ++ "\n" ++ Text.onlyIf last.isSome (Style.omitted ++ "\n")
    | .quote => "<blockquote>\n" ++ inside false ++ "</blockquote>\n"
    | .list marker start =>
      let ordered := marker == '.' || marker == ')'
      let name : Text := if ordered then "ol" else "ul"
      let first := Text.onlyIf (ordered && start != 1) (attr "start" (Text.ofNat start))
      "<" ++ name ++ first ++ ">\n" ++ inside false ++ "</" ++ name ++ ">\n"
    | .item =>
      let gap : Text := match children.head? with
        | some b => if b.isPlain then "" else "\n"
        | none => ""
      "<li>" ++ gap ++ inside true ++ "</li>\n"
    | .table alignments header rows => renderTable s setting alignments header rows

/-- Blocks one after another as HTML. -/
def renderBlocks (s : Style) (refs : References) (leadsItem : Bool) : List Block → Text
  | [] => ""
  | b :: bs => renderBlock s refs leadsItem (!bs.isEmpty) b ++ renderBlocks s refs false bs

end

/-- A document as HTML. -/
def render (s : Style) (source : Text) : Text :=
  let (bs, refs) := blocks source
  renderBlocks s refs false bs

end Markdown

end Marginalia
