import Marginalia.Markdown.RawTag
import Marginalia.Markdown.Reference
import Marginalia.Markdown.Table

/-!
The block structure of a document, line by line. The blocks that may go on form a path from the
document to the innermost one; each line first continues as many of them as it can, then opens new
ones, and closes those it neither continues nor lazily extends.
-/

namespace Marginalia

namespace Markdown

/-- A block that may go on. -/
inductive Part where
  | paragraph (lines : List Line)
  | heading (level : Nat) (lines : List Line)
  | rule
  | code (lines : List Text)
  | fence (mark : UInt8) (indent length : Nat) (language : Option Text) (lines : List Text)
  | html (ending : RawTag.Ending) (lines : List Text) (last : Option Text)
  | quote
  | list (marker : UInt8) (start : Nat)
  | item (offset : Nat)
deriving Repr, Inhabited

/-- An open block with the blocks inside it that are closed, the latest first. -/
structure Frame where
  part : Part
  spaced : Bool
  children : List Block := []
deriving Repr, Inhabited

/-- What is known of a line at a level of the path: its number, the level, and whether the rest of it
was blank there. -/
structure Trace where
  line : Nat
  level : Nat
  blank : Bool
deriving Repr

/-- A document in the making. -/
structure Draft where
  /-- The closed blocks of the document, the latest first. -/
  done : List Block := []
  /-- The open blocks from the outermost in. -/
  path : List Frame := []
  references : References := []
  /-- The heading ids in use. -/
  ids : List Text := []
  /-- A line is known to begin a list item, not a list. -/
  itemFollows : Bool := false
  /-- A blank line follows a list item that is empty. -/
  emptyItem : Bool := false
  /-- What is known of the lines so far, the latest first. -/
  traces : List Trace := []
  /-- The level at which the next line opens blocks without continuing any, and whether they are spaced. -/
  resumption : Option (Nat × Bool) := none
deriving Inhabited

/-! ### Heading ids -/

/-- How many octets a sequence that begins with this one claims to have; an octet that begins none
hides the rest of a short line. -/
def claimedLength (c : UInt8) : Nat :=
  if c < 0x80 then 1 else if c < 0xc0 then 99 else if c < 0xe0 then 2 else if c < 0xf0 then 3
  else if c < 0xf8 then 4 else 99

/-- The ASCII letters and digits of a heading in lower case, with hyphens for white space, hyphens
and low lines. -/
def idText : (skip : Nat) → Text → Text
  | _, [] => []
  | skip + 1, _ :: t => idText skip t
  | 0, c :: t =>
    if claimedLength c != 1 then idText (claimedLength c - 1) t
    else if Text.isAlnum c then Text.toLower c :: idText 0 t
    else if isSpace c || c == '-' || c == '_' then '-'.toUInt8 :: idText 0 t
    else idText 0 t

/-- The id of a heading: its text, or a default, with the least number that makes it new. -/
def headingId (ids : List Text) (line : Text) : Text :=
  let base := idText 0 (Text.strip Text.isSpace line)
  let base : Text := if base.isEmpty then "heading" else base
  let candidates := base :: (List.range' 1 (ids.length + 1)).map fun k => base ++ "-" ++ Text.ofNat k
  (candidates.find? fun id => !ids.contains id).getD base

/-! ### Closing blocks -/

/-- The lines of a paragraph without the white space around them. -/
def trimParagraph (lines : List Line) : List Line :=
  let lines := lines.map fun l =>
    let text := Text.stripLeft isSpace l.text
    { text, quoted := l.quoted && text == l.text : Line }
  match lines.getLast? with
  | none => []
  | some last => lines.dropLast ++ [{ last with text := Text.stripRight isSpace last.text }]

/-- A paragraph at its end. -/
structure Settled where
  /-- All references, with those that the paragraph defines. -/
  references : References
  /-- The lines that are left. -/
  lines : List Line
  /-- The table that the last lines make. -/
  table : Option Block

/-- Takes the definitions and the table out of the lines of a paragraph. -/
def settleParagraph (refs : References) (lines : List Line) : Settled :=
  let whole := Line.joined lines
  let (refs, taken) := definitions whole (lines.length + 1) refs [] whole
  let rest := outside 0 taken.reverse lines
  match Table.find? rest with
  | none => ⟨refs, trimParagraph rest, none⟩
  | some (before, table) => ⟨refs, trimParagraph before, some (.node table false [])⟩

/-- The blocks that a paragraph comes to; one of definitions alone leaves an empty block. -/
def Settled.blocks (p : Settled) (spaced : Bool) : List Block :=
  match p.lines, p.table with
  | [], none => [.node (.plain []) spaced []]
  | [], some table => [table]
  | lines, table => .node (.paragraph lines) spaced [] :: table.toList

/-- Are the items of a list set without paragraphs? Not if a blank line stands between two items or
between two blocks of one item. -/
def isTight (items : List Block) : Bool :=
  (items.drop 1).all (!·.spaced) && items.all fun item => (item.children.drop 1).all (!·.spaced)

/-- An item with its paragraphs as plain lines. -/
def tighten : Block → Block
  | .node kind spaced children =>
    .node kind spaced (children.map fun b => match b with
      | .node (.paragraph lines) s cs => .node (.plain lines) s cs
      | b => b)

/-- A line with the line feed that ends it. -/
def withLineFeed (line : Text) : Text := if Text.endsWith line "\n" then line else line ++ "\n"

/-- Closes a block that has no open block inside. -/
def Draft.finish (d : Draft) (f : Frame) : Draft × List Block :=
  let children := f.children.reverse
  let one (k : Kind) : List Block := [.node k f.spaced children]
  match f.part with
  | .paragraph lines =>
    let p := settleParagraph d.references lines
    ({ d with references := p.references }, p.blocks f.spaced)
  | .heading level lines =>
    let id := headingId d.ids ((lines.getLast?.map Line.text).getD [])
    ({ d with ids := id :: d.ids }, one (.heading level id lines))
  | .rule => (d, one .rule)
  | .code lines =>
    (d, one (.code none ((lines.reverse.dropWhile isBlank).reverse.map withLineFeed)))
  | .fence _ _ _ language lines => (d, one (.code (some (language.getD [])) lines))
  | .html _ lines last => (d, one (.html lines last))
  | .quote => (d, one .quote)
  | .list marker start =>
    let items := if isTight children then children.map tighten else children
    (d, [.node (.list marker start) f.spaced items])
  | .item _ => (d, one .item)

/-- Adds closed blocks behind those of the innermost open block. -/
def Draft.add (d : Draft) (blocks : List Block) : Draft :=
  match d.path.getLast? with
  | none => { d with done := blocks.reverse ++ d.done }
  | some f =>
    { d with path := d.path.dropLast ++ [{ f with children := blocks.reverse ++ f.children }] }

/-- Closes the innermost open block. -/
def Draft.closeLast (d : Draft) : Draft :=
  match d.path.getLast? with
  | none => d
  | some f =>
    let (d, blocks) := { d with path := d.path.dropLast }.finish f
    d.add blocks

/-- Closes open blocks from the innermost out until `level` are left. -/
def Draft.closeTo (level : Nat) : (fuel : Nat) → Draft → Draft
  | 0, d => d
  | fuel + 1, d => if d.path.length ≤ level then d else closeTo level fuel d.closeLast

/-! ### List markers -/

/-- A list marker at the head of a line. -/
structure Marker where
  /-- The blanks in front of it. -/
  indent : Nat
  /-- The octets up to its end. -/
  width : Nat
  /-- Its last octet, by which the items of one list agree. -/
  sign : UInt8
  /-- The number of an ordered list. -/
  number : Option Nat
  /-- The rest of the line. -/
  content : Text
deriving Repr

/-- Reads a list marker: at most three blanks, a sign or up to nine digits with a point or a
parenthesis, and white space behind. -/
def marker? (line : Text) : Option Marker :=
  let rest := Text.skip ' ' line
  let indent := line.length - rest.length
  let ended (m : Marker) : Option Marker :=
    match m.content with
    | [] => some m
    | c :: _ => if c == '\n' || c == ' ' || c == '\t' then some m else none
  if 3 < indent then none
  else match rest with
    | [] => none
    | c :: t =>
      if c == '-' || c == '*' || c == '+' then ended ⟨indent, indent + 1, c, none, t⟩
      else
        let (digits, t) := Text.span Text.isDigit rest
        match t with
        | [] => none
        | s :: t =>
          if !digits.isEmpty && digits.length ≤ 9 && (s == '.' || s == ')') then
            ended ⟨indent, indent + digits.length + 1, s, some (Text.digitsValue 10 digits), t⟩
          else none

/-- How far behind the marker the content of the item stands. -/
def Marker.gap (m : Marker) : Nat :=
  if isBlank m.content then 1
  else
    let w := (indentWidth m.width m.content).1
    if 4 < w then 1 else w

/-- Is the line three or more of one sign, with any white space between them? -/
def isRule (offset : Nat) (line : Text) : Bool :=
  let signs := line.filter fun c => !isSpace c
  (indentWidth offset line).1 ≤ 3 && 3 ≤ signs.length &&
    match signs with
    | [] => false
    | c :: cs => (c == '*' || c == '-' || c == '_') && cs.all (· == c)

/-- The level of the heading that a line under a paragraph makes of it. -/
def underline? (line : Text) : Option Nat :=
  let rest := Text.skip ' ' line
  let bar := Text.stripRight isSpace rest
  if 3 < line.length - rest.length || bar.isEmpty then none
  else if bar.all (fun c : UInt8 => c == '=') then some 1
  else if bar.all (fun c : UInt8 => c == '-') then some 2
  else none

/-! ### Continuing blocks -/

/-- What a line does to an open block. -/
inductive Continuation where
  /-- The block goes on, and so may what is inside it. -/
  | inside (cursor : Cursor)
  /-- The block takes the line. -/
  | taken (part : Part)
  /-- The block ends in this state. -/
  | ended (part : Part) (cursor : Cursor)
  /-- The block takes the line and ends with it; the next line continues no block. -/
  | closed (part : Part)

/-- Takes the sign of a quotation and one blank behind it. -/
def quoteSign? (c : Cursor) : Option Cursor :=
  let (w, n) := indentWidth c.offset c.line
  match c.line.drop n with
  | [] => none
  | s :: rest =>
    if 3 < w || s != '>' then none
    else
      let c := c.advance (n + 1)
      match rest with
      | [] => some c
      | b :: _ =>
        if b == ' ' then some (c.advance 1)
        else if b == '\t' then some (c.advanceTo 1 (tabWidth c.offset - 1))
        else some { c with quoted := true }

/-- Has the last item of the list at a level nothing in it? -/
def lastItemEmpty (path : List Frame) (level : Nat) : Bool :=
  match path.drop (level + 1) with
  | [item] => item.children.isEmpty
  | _ => false

/-- Where the content of the last item of the list at a level stands. -/
def lastItemOffset (path : List Frame) (level : Nat) : Nat :=
  match (path[level + 1]?).map Frame.part with
  | some (.item offset) => offset
  | _ => 0

/-- Does a line that is not blank go on with a list? -/
def listGoesOn (d : Draft) (level : Nat) (sign : UInt8) (c : Cursor) : Bool :=
  let offset := lastItemOffset d.path level
  let empty := lastItemEmpty d.path level
  let indent := (indentWidth c.offset c.line).1
  let marker := if indent < 4 && (indent < offset || empty) then marker? c.line else none
  match marker with
  | some m =>
    m.sign == sign && !isRule 0 (c.line.drop (m.width - 1))
  | none => (offset ≤ indent || (!(indent < offset || empty))) && !d.emptyItem

/-- What the rest of a line does to the open block at a level. Paragraphs are not asked: whether they
go on depends on what else the line opens. -/
def continueAt (d : Draft) (level : Nat) (f : Frame) (c : Cursor) : Draft × Continuation :=
  let line := c.line
  let blank := isBlank line
  match f.part with
  | .paragraph _ | .heading _ _ | .rule => (d, .ended f.part c)
  | .quote =>
    match quoteSign? c with
    | some c => (d, .inside c)
    | none => (d, .ended f.part c)
  | .list sign _ =>
    if blank then ({ d with emptyItem := d.emptyItem || lastItemEmpty d.path level }, .inside c)
    else if listGoesOn d level sign c then (d, .inside c)
    else (d, .ended f.part c)
  | .item offset =>
    if blank then (d, .inside (c.advance (line.length - 1)))
    else
      let empty := f.children.isEmpty && d.path.length == level + 1 && d.emptyItem
      let indent := (indentWidth c.offset line).1
      if (empty || indent < offset) && indent < 4 && (marker? line).isSome then
        ({ d with itemFollows := true }, .ended f.part c)
      else if !empty && indent < offset && indent < 4 then (d, .ended f.part c)
      else match indentPosition? c.offset offset line with
        | some (n, pad) => (d, .inside (c.advanceTo n pad))
        | none => (d, .inside c)
  | .code lines =>
    if blank then
      let rest :=
        if 4 ≤ c.pad then List.replicate (c.pad - 4) ' '.toUInt8 ++ c.rest else withoutIndent (4 - c.pad) c.rest
      (d, .taken (.code (lines ++ [rest])))
    else match indentPosition? c.offset 4 line with
      | some (n, pad) => (d, .taken (.code (lines ++ [(c.advanceTo n pad).line])))
      | none => (d, .ended f.part c)
  | .fence mark indent length language lines =>
    let (w, n) := indentWidth c.offset line
    let rest := line.drop n
    let closer := rest.takeWhile (· == mark)
    if w < 4 && length ≤ closer.length && isBlank (rest.drop closer.length) then
      (d, .ended f.part (c.advance (Text.stripRight (· == '\n') line).length))
    else
      let kept : Text := match indentPosition? c.offset indent line with
        | some (n, pad) => (c.advanceTo n pad).line
        | none => if isBlank rest then c.rest else c.rest.drop n
      (d, .taken (.fence mark indent length language (lines ++ [withLineFeed kept])))
  | .html ending lines last =>
    let alreadyOver := ending != .blankLine && lines.length == 1 && lines.any ending.matches
    if alreadyOver then (d, .ended f.part c)
    else if ending.matches line then
      match ending with
      | .blankLine => (d, .ended f.part c)
      | .rawElement =>
        (d, .ended (.html ending lines (some line)) (c.advance (Text.stripRight isSpace line).length))
      | .mark _ => (d, .closed (.html ending lines (some line)))
    else (d, .taken (.html ending (lines ++ [line]) last))

/-! ### Opening blocks -/

/-- The outcome of an attempt to open blocks. -/
inductive Outcome where
  | nothing
  | opened
  /-- The line lazily goes on with the innermost paragraph. -/
  | extended
deriving DecidableEq, Repr

/-- An attempt to open blocks: the draft, the blocks opened on this line from the outermost in, and
what is left of the line. -/
structure Attempt where
  draft : Draft
  fresh : List Frame := []
  cursor : Cursor

/-- The heading that a line of number signs makes. -/
def heading? (line : Text) : Option Part :=
  let (signs, rest) := Text.span (fun c : UInt8 => c == '#') line
  if signs.isEmpty || 6 < signs.length then none
  else match rest with
    | [] => some (.heading signs.length [])
    | c :: _ =>
      if !isSpace c then none
      else
        let text := Text.strip isSpace rest
        let bare := Text.stripRight (fun c : UInt8 => c == '#') text
        let text :=
          if bare.isEmpty then bare
          else if bare.length < text.length && (bare.getLast?.map isSpace).getD false then bare
          else text
        some (.heading signs.length (if text.isEmpty then [] else [⟨text, false⟩]))

/-- The fence that a line opens. -/
def fence? (indent : Nat) (line : Text) : Option Part :=
  match line with
  | [] => none
  | mark :: _ =>
    let (run, rest) := Text.span (· == mark) line
    let info : Text := if 1 < rest.length then Text.strip isSpace rest else []
    if !(mark == Text.grave || mark == '~') || run.length < 3 then none
    else if mark == Text.grave && info.contains mark then none
    else
      let language := if info.isEmpty then none else some (Text.upTo ' ' info)
      some (.fence mark indent run.length language [])

/-- The part of the innermost block, fresh blocks first. -/
def Attempt.innermost? (a : Attempt) : Option Part :=
  ((a.fresh.getLast?).or a.draft.path.getLast?).map (·.part)

/-- The part of the block in which the next one would be opened. -/
def Attempt.parent? (a : Attempt) (level : Nat) : Option Part :=
  match a.fresh.getLast? with
  | some f => some f.part
  | none => if level == 0 then none else (a.draft.path[level - 1]?).map (·.part)

/-- Is the innermost block a paragraph directly inside the block where the next one would be
opened? -/
def Attempt.underParagraph (a : Attempt) (level : Nat) : Option (List Line) :=
  match a.fresh, a.innermost? with
  | [], some (.paragraph lines) => if a.draft.path.length == level + 1 then some lines else none
  | _, _ => none

/-- What one kind of block makes of the rest of a line: the block opened, the cursor behind what it
takes, and whether there may be blocks inside it. -/
structure Opened where
  part : Part
  cursor : Cursor
  container : Bool := false

/-- A list at the head of a line. -/
def openList? (a : Attempt) (level : Nat) : Option Opened :=
  let isList : Option Part → Bool
    | some (.list _ _) => true
    | _ => false
  if isList a.innermost? then none
  else match marker? a.cursor.line with
    | none => none
    | some m =>
      let barred := (a.underParagraph level).isSome
        && ((m.number.isSome && m.number != some 1) || isBlank m.content)
      if barred then none
      else some ⟨.list m.sign (m.number.getD 1), a.cursor, true⟩

/-- An item at the head of a line, inside a list. -/
def openItem? (a : Attempt) (level : Nat) : Option Opened :=
  match a.parent? level with
  | some (.list _ _) =>
    let offset := if a.fresh.isEmpty then lastItemOffset a.draft.path (level - 1) else 0
    match marker? a.cursor.line with
    | none => none
    | some m =>
      if offset + 3 < m.indent then none
      else
        let part := Part.item (m.width + m.gap)
        if isBlank m.content then some ⟨part, a.cursor, false⟩
        else match indentPosition? m.width m.gap m.content with
          | some (n, pad) => some ⟨part, a.cursor.advanceTo (m.width + n) pad, true⟩
          | none => some ⟨part, a.cursor.advance m.width, true⟩
  | _ => none

/-- Opens blocks from the rest of a line inside the block above `level`. `lazy` tells that the
innermost block is a paragraph which the line may extend. -/
def openBlocks (level : Nat) (spaced : Bool) : (fuel : Nat) → (lazy : Bool) → Attempt → Attempt × Outcome
  | 0, _, a => (a, .nothing)
  | fuel + 1, lazy, a =>
    let c := a.cursor
    let line := c.line
    let (w, n) := indentWidth c.offset line
    let content := line.drop n
    let outcome : Outcome := if a.fresh.isEmpty then .nothing else .opened
    let extend : Attempt × Outcome :=
      match lazy && a.fresh.isEmpty && !isBlank line, a.draft.path.getLast? with
      | true, some f =>
        match f.part with
        | .paragraph lines =>
          let f := { f with part := .paragraph (lines ++ [⟨line, c.quoted⟩]) }
          ({ a with draft := { a.draft with path := a.draft.path.dropLast ++ [f] } }, .extended)
        | _ => (a, outcome)
      | _, _ => (a, outcome)
    let push (o : Opened) (d : Draft) : Attempt × Outcome :=
      let a : Attempt := ⟨d, a.fresh ++ [⟨o.part, spaced, []⟩], o.cursor⟩
      if o.container then openBlocks level spaced fuel lazy a else (a, .opened)
    let whole (p : Part) : Attempt × Outcome := push ⟨p, c.advance (line.length - 1), false⟩ a.draft
    let leaf : Attempt × Outcome :=
      if lazy && a.fresh.isEmpty then extend
      else match indentPosition? c.offset 4 line with
        | some (n, pad) =>
          if isBlank line then extend else whole (.code [(c.advanceTo n pad).line])
        | none =>
          if isBlank line then extend else whole (.paragraph [⟨Text.stripLeft isSpace line, false⟩])
    match content with
    | [] => extend
    | first :: _ =>
      let narrow := w ≤ 3
      let placed := w < line.length
      let isMarker := first == '-' || first == '+' || first == '*' || Text.isDigit first
      let heading := if narrow && (first == '-' || first == '=') then
          match a.underParagraph level, underline? line with
          | some lines, some depth => some (lines, depth)
          | _, _ => none
        else none
      match heading with
      | some (lines, depth) =>
        let before := (a.draft.path.getLast?.map (·.spaced)).getD false
        let d := { a.draft with path := a.draft.path.dropLast }
        let p := settleParagraph d.references (trimParagraph lines)
        let d := { d with references := p.references }
        if p.lines.isEmpty then openBlocks level spaced fuel false { a with draft := d.add (p.blocks before) }
        else
          (⟨d.add p.table.toList, [⟨.heading depth p.lines, before, []⟩], c.advance (line.length - 1)⟩, .opened)
      | none =>
      if narrow && (first == '-' || first == '*' || first == '_') && isRule c.offset line then
        whole .rule
      else
        let skipped := isMarker && narrow && a.draft.itemFollows
        let d := if skipped then { a.draft with itemFollows := false } else a.draft
        let a := { a with draft := d }
        match (if isMarker && narrow && !skipped then openList? a level else none) with
        | some o => push o { d with emptyItem := false }
        | none =>
        match (if isMarker then openItem? a level else none) with
        | some o => push o { d with emptyItem := false }
        | none =>
        if !narrow then leaf
        else if first == '#' && placed then
          match heading? content with
          | some p => whole p
          | none => leaf
        else if (first == '~' || first == Text.grave) && placed then
          match fence? n content with
          | some p => push ⟨p, c, false⟩ d
          | none => leaf
        else if first == '>' then
          match quoteSign? c with
          | some c => push ⟨.quote, c, true⟩ d
          | none => leaf
        else if first == '<' && placed && (line.take n).all (· == ' ') then
          let afterParagraph := match a.innermost? with
            | some (.paragraph _) => true
            | _ => false
          match RawTag.blockEnding? content afterParagraph with
          | some e => whole (.html e [line] none)
          | none => leaf
        else leaf

/-! ### Lines -/

/-- Was the line before this one blank at the deepest level known that is no deeper than `level`? -/
def blankBefore (line level : Nat) : List Trace → Bool
  | [] => false
  | t :: ts =>
    if line ≤ t.line then blankBefore line level ts
    else if t.line + 1 < line then false
    else if t.level ≤ level then t.blank
    else blankBefore line level ts

/-- Puts freshly opened blocks at the end of the path. -/
def Attempt.commit (a : Attempt) : Draft := { a.draft with path := a.draft.path ++ a.fresh }

/-- Is the innermost block a paragraph? -/
def Draft.endsInParagraph (d : Draft) : Bool :=
  match d.path.getLast?.map Frame.part with
  | some (.paragraph _) => true
  | _ => false

/-- Opens blocks in place of those from `level` in, which end unless the line extends a paragraph. -/
def Draft.openInstead (level : Nat) (spaced : Bool) (c : Cursor) (d : Draft) : Draft :=
  let size := d.path.length
  let (a, outcome) := openBlocks level spaced (c.line.length + 2) d.endsInParagraph ⟨d, [], c⟩
  if outcome == .extended then a.commit else { a with draft := closeTo level size a.draft }.commit

/-- Takes the rest of a line into the open blocks from `level` in. -/
def Draft.takeFrom (number : Nat) : (fuel : Nat) → (level : Nat) → Cursor → Draft → Draft
  | 0, _, _, d => d
  | fuel + 1, level, c, d =>
    match d.path[level]? with
    | none => d
    | some f =>
      let d := { d with traces := ⟨number, level, isBlank c.line⟩ :: d.traces }
      let last := d.path.length == level + 1
      let replace (p : Part) (d : Draft) : Draft := { d with path := d.path.set level { f with part := p } }
      match continueAt d level f c with
      | (d, .inside c) =>
        if last then
          let spaced := blankBefore number (level + 1) d.traces
          (openBlocks (level + 1) spaced (c.line.length + 2) false ⟨d, [], c⟩).1.commit
        else takeFrom number fuel (level + 1) c d
      | (d, .taken p) => replace p d
      | (d, .ended p c) =>
        (replace p d).openInstead level (blankBefore number level d.traces) c
      | (d, .closed p) =>
        { replace p d with resumption := some (level, blankBefore number level d.traces) }

/-- Takes a line into a document. -/
def Draft.take (d : Draft) (number : Nat) (line : Text) : Draft :=
  match d.resumption, d.path with
  | some (level, spaced), _ => { d with resumption := none }.openInstead level spaced { rest := line }
  | none, [] =>
    if isBlank line then d
    else
      (openBlocks 0 false (line.length + 2) false ⟨{ d with traces := [] }, [], { rest := line }⟩).1.commit
  | none, _ => d.takeFrom number (d.path.length + 1) 0 { rest := line }

/-- The blocks of a document and the references it defines. -/
def blocks (text : Text) : List Block × References :=
  let d := ((Text.lines text).zipIdx 1).foldl (fun d (line, k) => Draft.take d k line) ({} : Draft)
  let d := Draft.closeTo 0 d.path.length d
  (d.done.reverse, d.references)

end Markdown

end Marginalia
