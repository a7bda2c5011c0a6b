import Marginalia.Html.Node

/-!
A document in the making. Nodes are known by number, because tags that are not properly nested move
them about; the elements still open form a stack, and formatting elements are remembered so that they
can be opened again.
-/

namespace Marginalia

namespace Html

/-- What kind of content is expected next. -/
inductive Mode where
  | initial
  | beforeHtml
  | beforeHead
  | inHead
  | afterHead
  | inBody
  | text
  | inTable
  | inCaption
  | inColumnGroup
  | inTableBody
  | inRow
  | inCell
  | inSelect
  | inSelectInTable
  | inTemplate
  | afterBody
  | inFrameset
  | afterFrameset
  | afterAfterBody
  | afterAfterFrameset
  | ignoreRest
deriving DecidableEq, Repr, Inhabited

/-- What a node in the making is. -/
inductive Content where
  | document
  | text (value : Text)
  | comment (value : Text)
  | doctype (value : Doctype)
  | element (label : Label)
deriving Repr, Inhabited

/-- A node in the making: what it is, where it hangs and what hangs below it. -/
structure Entry where
  content : Content
  parent : Option Nat := none
  children : List Nat := []
deriving Repr, Inhabited

/-- A document in the making. Node zero is the document itself. -/
structure Draft where
  entries : Array Entry := #[⟨.document, none, []⟩]
  /-- The open elements, the innermost first. -/
  stack : List Nat := []
  /-- The formatting elements that may have to be opened again, the latest first; nothing marks the
  border of an element that hides those before it. -/
  active : List (Option Nat) := []
  mode : Mode := .initial
  /-- The mode to return to after a text. -/
  resume : Mode := .inBody
  /-- The modes of the open templates, the innermost first. -/
  templates : List Mode := []
  head : Option Nat := none
  form : Option Nat := none
  framesetOk : Bool := true
  /-- Content that may not stand in a table is put before it. -/
  fostering : Bool := false
  /-- The document does not declare a type, or an old one. -/
  quirks : Bool := false
  /-- What follows the current tag is markup, whatever the tag. -/
  plainNext : Bool := false
deriving Inhabited

namespace Draft

/-! ### Nodes -/

def entry (d : Draft) (i : Nat) : Entry := d.entries.getD i default

def setEntry (d : Draft) (i : Nat) (e : Entry) : Draft := { d with entries := d.entries.setIfInBounds i e }

/-- The label of an element; nothing for other nodes. -/
def label? (d : Draft) (i : Nat) : Option Label :=
  match (d.entry i).content with
  | .element l => some l
  | _ => none

/-- The name of an element; no name for other nodes. -/
def name (d : Draft) (i : Nat) : Text := ((d.label? i).map (·.name)).getD []

/-- The vocabulary of an element. -/
def space (d : Draft) (i : Nat) : Space := ((d.label? i).map (·.space)).getD .html

/-- A new node that hangs nowhere, and its number. -/
def create (d : Draft) (c : Content) : Draft × Nat :=
  ({ d with entries := d.entries.push ⟨c, none, []⟩ }, d.entries.size)

/-- A new node with the label of another one. -/
def clone (d : Draft) (i : Nat) : Draft × Nat := d.create (d.entry i).content

/-- Takes a node off its parent. -/
def detach (d : Draft) (i : Nat) : Draft :=
  match (d.entry i).parent with
  | none => d
  | some p =>
    let parent := d.entry p
    let d := d.setEntry p { parent with children := parent.children.filter (· != i) }
    d.setEntry i { d.entry i with parent := none }

/-- Hangs a node below another one, in front of `next` or else at the end. -/
def insert (d : Draft) (parent : Nat) (next : Option Nat) (i : Nat) : Draft :=
  let p := d.entry parent
  let children := match next with
    | some n => p.children.takeWhile (· != n) ++ i :: p.children.dropWhile (· != n)
    | none => p.children ++ [i]
  let d := d.setEntry parent { p with children }
  d.setEntry i { d.entry i with parent := some parent }

/-- Moves all that hangs below one node to another one. -/
def moveChildren (d : Draft) (source target : Nat) : Draft :=
  (d.entry source).children.foldl (fun d i => (d.detach i).insert target none i) d

/-- The node before `next` below a parent, or its last one. -/
def before? (d : Draft) (parent : Nat) (next : Option Nat) : Option Nat :=
  let children := (d.entry parent).children
  match next with
  | some n => (children.takeWhile (· != n)).getLast?
  | none => children.getLast?

/-! ### The stack of open elements -/

/-- The innermost open element, or the document. -/
def top (d : Draft) : Nat := d.stack.headD 0

def topName (d : Draft) : Text := d.name d.top

/-- Closes the innermost open element. -/
def pop (d : Draft) : Draft := { d with stack := d.stack.drop 1 }

/-- Takes an element out of the stack, wherever it is. -/
def removeOpen (d : Draft) (i : Nat) : Draft := { d with stack := d.stack.erase i }

/-- Is an element of a name open? -/
def hasOpen (d : Draft) (name : Text) : Bool := d.stack.any fun i => d.name i == name

/-- The parts of a table in which text may not stand. -/
def tableParts : List Text := Text.words "table tbody tfoot thead tr"

/-- Where content goes that may not stand in a table: the parent and the node it comes before. It is
the end of a template inside the table, or before the table, or the end of the document. -/
def fosterPlace (d : Draft) : Nat × Option Nat :=
  let inside := d.stack.takeWhile fun i => d.name i != "table"
  match inside.find? fun i => d.name i == "template" with
  | some template => (template, none)
  | none =>
    match d.stack.drop inside.length with
    | [] => (d.stack.getLastD 0, none)
    | table :: outer =>
      match (d.entry table).parent with
      | some parent => (parent, some table)
      | none => (outer.headD 0, none)

/-- Where the next node goes. -/
def place (d : Draft) : Nat × Option Nat :=
  if d.fostering && tableParts.contains d.topName then d.fosterPlace else (d.top, none)

/-- Adds text, to the text before it if there is one. -/
def addText (d : Draft) (t : Text) : Draft :=
  if t.isEmpty then d
  else
    let (parent, next) := d.place
    let previous := d.before? parent next
    let merged : Option Draft := previous.bind fun i =>
      match (d.entry i).content with
      | .text s => some (d.setEntry i { d.entry i with content := .text (s ++ t) })
      | _ => none
    match merged with
    | some d => d
    | none =>
      let (d, i) := d.create (.text t)
      d.insert parent next i

/-- Adds a node where the next one goes. -/
def addNode (d : Draft) (i : Nat) : Draft :=
  let (parent, next) := d.place
  d.insert parent next i

/-- Adds a comment. -/
def addComment (d : Draft) (t : Text) : Draft :=
  let (d, i) := d.create (.comment t)
  d.addNode i

/-- Adds a comment at the end of a given node. -/
def addCommentTo (d : Draft) (parent : Nat) (t : Text) : Draft :=
  let (d, i) := d.create (.comment t)
  d.insert parent none i

/-- Adds a node that is an element and opens it. -/
def openNode (d : Draft) (i : Nat) : Draft :=
  let d := d.addNode i
  { d with stack := i :: d.stack }

/-- Adds an element and opens it. -/
def addElement (d : Draft) (name : Text) (attributes : List Attribute) (space : Space := .html) : Draft :=
  let (d, i) := d.create (.element ⟨name, space, attributes⟩)
  d.openNode i

/-- Adds an element that is closed at once. -/
def addVoid (d : Draft) (name : Text) (attributes : List Attribute) : Draft :=
  (d.addElement name attributes).pop

/-- Adds an element whose content is one text. -/
def addRaw (d : Draft) (name : Text) (attributes : List Attribute) : Draft :=
  let d := d.addElement name attributes
  { d with resume := d.mode, mode := .text }

/-- Adds the attributes that an element does not have yet. -/
def addAttributes (d : Draft) (i : Nat) (attributes : List Attribute) : Draft :=
  match d.label? i with
  | none => d
  | some l =>
    let all := attributes.foldl
      (fun known a => if known.any (·.name == a.name) then known else known ++ [a]) l.attributes
    d.setEntry i { d.entry i with content := .element { l with attributes := all } }

/-! ### Scopes -/

/-- What hides the elements around it. -/
inductive Scope where
  | default
  | listItem
  | button
  | table
  | select
deriving DecidableEq, Repr

/-- Elements that hide those around them from most closing tags. -/
def isBorder (d : Draft) (i : Nat) : Bool :=
  let names := match d.space i with
    | .html => Text.words "applet caption html table td th marquee object template"
    | .math => Text.words "annotation-xml mi mn mo ms mtext"
    | .svg => Text.words "desc foreignObject title"
  names.contains (d.name i)

/-- Does an open element hide those around it? -/
def Scope.stops (s : Scope) (d : Draft) (i : Nat) : Bool :=
  let name := d.name i
  let html := d.space i == .html
  match s with
  | .default => d.isBorder i
  | .listItem => (html && (name == "ol" || name == "ul")) || d.isBorder i
  | .button => (html && name == "button") || d.isBorder i
  | .table => html && (Text.words "html table template").contains name
  | .select => html && name != "optgroup" && name != "option"

/-- The elements around the nearest open one of some names, unless it is hidden. -/
def outside? (d : Draft) (s : Scope) (names : List Text) : List Nat → Option (List Nat)
  | [] => none
  | i :: outer =>
    if d.space i == .html && names.contains (d.name i) then some outer
    else if s.stops d i then none
    else d.outside? s names outer

/-- Is an element of some names open and not hidden? -/
def inScope (d : Draft) (s : Scope) (names : List Text) : Bool := (d.outside? s names d.stack).isSome

/-- Closes the nearest open element of some names, and all inside it, unless it is hidden. Tells whether
there was one. -/
def popUntil (d : Draft) (s : Scope) (names : List Text) : Draft × Bool :=
  match d.outside? s names d.stack with
  | some outer => ({ d with stack := outer }, true)
  | none => (d, false)

/-- Closes an open paragraph. -/
def closeParagraph (d : Draft) : Draft := (d.popUntil .button ["p"]).1

/-- Closes elements until one of some names is the innermost. -/
def clearTo (d : Draft) (names : List Text) : Draft :=
  match d.stack.dropWhile fun i => !names.contains (d.name i) with
  | [] => d
  | stack => { d with stack }

/-- Elements whose closing tag may be left out. -/
def impliedEnds : List Text := Text.words "dd dt li optgroup option p rb rp rt rtc"

/-- Closes elements whose closing tag may be left out, but for one name. -/
def closeImplied (d : Draft) (except : Text) : Draft :=
  { d with stack := d.stack.dropWhile fun i =>
      let name := d.name i
      impliedEnds.contains name && name != except }

/-- The elements that the rules of nesting treat specially. -/
def specialElements : List Text :=
  ["address applet area article aside base basefont bgsound blockquote body br button caption",
    "center col colgroup dd details dir div dl dt embed fieldset figcaption figure footer form",
    "frame frameset h1 h2 h3 h4 h5 h6 head header hgroup hr html iframe img input keygen li link",
    "listing main marquee menu meta nav noembed noframes noscript object ol p param plaintext pre",
    "script section select source style summary table tbody td template textarea tfoot th thead",
    "title tr track ul wbr xmp"].flatMap Text.words

/-- Do the rules of nesting treat an element specially? -/
def isSpecial (d : Draft) (i : Nat) : Bool :=
  let names := match d.space i with
    | .html => specialElements
    | .math => Text.words "mi mo mn ms mtext annotation-xml"
    | .svg => Text.words "foreignObject desc title"
  names.contains (d.name i)

/-! ### Formatting elements -/

/-- Opens the formatting elements again that were closed by other tags. -/
def reopen (d : Draft) : Draft :=
  let isClosed : Option Nat → Bool
    | some i => !d.stack.contains i
    | none => false
  let closed := d.active.takeWhile isClosed
  let rest := d.active.dropWhile isClosed
  let (d, active) := closed.reverse.foldl (fun (d, active) i =>
    let (d, copy) := d.clone (i.getD 0)
    (d.openNode copy, some copy :: active)) (d, rest)
  { d with active }

/-- Have two elements the same attributes, in any order? -/
def sameAttributes (a b : List Attribute) : Bool := a.length == b.length && a.all b.contains

/-- Adds a formatting element. Of equal ones at most three are remembered. -/
def addFormatting (d : Draft) (name : Text) (attributes : List Attribute) : Draft :=
  let d := d.addElement name attributes
  let isEqual : Option Nat → Bool
    | some i =>
      match d.label? i with
      | some l => l.space == .html && l.name == name && sameAttributes l.attributes attributes
      | none => false
    | none => false
  let near := d.active.takeWhile (·.isSome)
  let spare := (near.filter isEqual).drop 2
  { d with active := some d.top :: (near.filter fun i => !spare.contains i) ++ d.active.drop near.length }

/-- Forgets the formatting elements up to the latest border. -/
def clearActive (d : Draft) : Draft := { d with active := (d.active.dropWhile (·.isSome)).drop 1 }

/-- Marks the border of an element that hides the formatting elements before it. -/
def addBorder (d : Draft) : Draft := { d with active := none :: d.active }

/-- Forgets a formatting element. -/
def forget (d : Draft) (i : Nat) : Draft := { d with active := d.active.filter (· != some i) }

/-- Closes the nearest element of a name, and all inside it, unless a special one is nearer. -/
def closeOther (d : Draft) (name : Text) : Draft :=
  let rec go : List Nat → List Nat
    | [] => d.stack
    | i :: outer => if d.name i == name then outer else if d.isSpecial i then d.stack else go outer
  { d with stack := go d.stack }

/-- What the elements between a formatting element and the block inside it become: they are copied
around the block, from the inside out. `last` is the outermost node so far, `bookmark` the place of the
formatting element counted from the oldest, and `turn` the number of the element. -/
def rewrap (block : Nat) : (turn : Nat) → (last bookmark : Nat) → List Nat → Draft → Draft × Nat × Nat
  | _, last, bookmark, [], d => (d, last, bookmark)
  | turn, last, bookmark, i :: more, d =>
    let oldestFirst := d.active.reverse
    match oldestFirst.idxOf? (some i) with
    | none => rewrap block (turn + 1) last bookmark more (d.removeOpen i)
    | some k =>
      if 3 < turn then
        rewrap block (turn + 1) last (if k ≤ bookmark then bookmark - 1 else bookmark) more (d.forget i)
      else
        let (d, copy) := d.clone i
        let swap (j : Nat) : Nat := if j == i then copy else j
        let d := { d with active := d.active.map (Option.map swap), stack := d.stack.map swap }
        let bookmark := if last == block then k + 1 else bookmark
        let d := (d.detach last).insert copy none last
        rewrap block (turn + 1) copy bookmark more d

/-- One round of closing a formatting element that a block is inside of; tells whether another round
is due. -/
def adoptOnce (d : Draft) (name : Text) : Draft × Bool :=
  let isNamed : Option Nat → Bool
    | some i => d.name i == name
    | none => false
  match (d.active.takeWhile (·.isSome)).find? isNamed with
  | none | some none => (d.closeOther name, false)
  | some (some formatting) =>
    if !d.stack.contains formatting then (d.forget formatting, false)
    else if !d.inScope .default [name] then (d, false)
    else
      let inside := d.stack.takeWhile (· != formatting)
      let outside := (d.stack.dropWhile (· != formatting)).drop 1
      match inside.reverse.find? d.isSpecial with
      | none => ({ d with stack := outside }.forget formatting, false)
      | some block =>
        let ancestor := outside.headD 0
        let bookmark := (d.active.reverse.idxOf? (some formatting)).getD 0
        let between := (inside.dropWhile (· != block)).drop 1
        let (d, last, bookmark) := rewrap block 1 block bookmark between d
        let d := d.detach last
        let (parent, next) :=
          if tableParts.contains (d.name ancestor) then d.fosterPlace else (ancestor, none)
        let d := d.insert parent next last
        let (d, copy) := d.clone formatting
        let d := (d.moveChildren block copy).insert block none copy
        let oldestFirst := d.active.reverse
        let old := (oldestFirst.idxOf? (some formatting)).getD oldestFirst.length
        let bookmark := if old < bookmark then bookmark - 1 else bookmark
        let kept := oldestFirst.filter (· != some formatting)
        let active := (kept.take bookmark ++ some copy :: kept.drop bookmark).reverse
        let stack := (d.stack.erase formatting).flatMap fun i => if i == block then [copy, i] else [i]
        ({ d with active, stack }, true)

/-- Closes a formatting element, in at most `rounds` rounds. -/
def adopt (name : Text) : (rounds : Nat) → Draft → Draft
  | 0, d => d
  | rounds + 1, d =>
    match d.adoptOnce name with
    | (d, true) => adopt name rounds d
    | (d, false) => d

/-- Closes a formatting element. What it holds beyond the blocks inside it is formatted anew. -/
def closeFormatting (d : Draft) (name : Text) : Draft :=
  if d.topName == name && !d.active.contains (some d.top) then d.pop else adopt name 8 d

/-! ### Modes -/

/-- The mode that the open elements call for. -/
def modeOf (d : Draft) : List Nat → Mode
  | [] => d.mode
  | i :: outer =>
    let name := d.name i
    let has (names : String) : Bool := (Text.words names).contains name
    if name == "select" then
      match (outer.map d.name).find? fun n : Text => n == "template" || n == "table" with
      | some n => if n == "table" then .inSelectInTable else .inSelect
      | none => .inSelect
    else if has "td th" then .inCell
    else if name == "tr" then .inRow
    else if has "tbody thead tfoot" then .inTableBody
    else if name == "caption" then .inCaption
    else if name == "colgroup" then .inColumnGroup
    else if name == "table" then .inTable
    else if name == "template" && d.space i == .html then d.templates.headD .inBody
    else if name == "head" then .inHead
    else if name == "body" then .inBody
    else if name == "frameset" then .inFrameset
    else if name == "html" then if d.head.isNone then .beforeHead else .afterHead
    else if outer.isEmpty then .inBody
    else d.modeOf outer

/-- Sets the mode that the open elements call for. -/
def resetMode (d : Draft) : Draft := { d with mode := d.modeOf d.stack }

/-- Closes the innermost template. -/
def closeTemplate (d : Draft) : Draft :=
  let d := d.closeImplied []
  let isTemplate (i : Nat) : Bool := d.space i == .html && d.name i == "template"
  let outer := (d.stack.dropWhile fun i => !isTemplate i).drop 1
  { d with stack := outer, templates := d.templates.drop 1 }.clearActive.resetMode

end Draft

end Html

end Marginalia
