import Marginalia.Markdown.Cursor
import Marginalia.Text.Fold

/-!
Link targets: how destination and title are written, and the definitions that give a target to a
label.
-/

namespace Marginalia

namespace Markdown

/-- Where a link leads, and its title. -/
structure Target where
  destination : Text
  title : Option Text := none
deriving DecidableEq, Repr, Inhabited

/-- Targets by label, the first definition of a label in front. -/
abbrev References := List (Text × Target)

/-- The rest of the current line with its line feed. -/
def currentLine : Text → Text
  | [] => []
  | c :: t => if c == '\n' then [c] else c :: currentLine t

/-- What follows the current line. -/
def afterLine : Text → Text
  | [] => []
  | c :: t => if c == '\n' then t else afterLine t

/-- Runs of white space as one blank. -/
def collapseSpaces : (inSpace : Bool) → Text → Text
  | _, [] => []
  | inSpace, c :: t =>
    if isSpace c then
      if inSpace then collapseSpaces true t else ' '.toUInt8 :: collapseSpaces true t
    else c :: collapseSpaces false t

/-- The form of a label by which references are looked up. -/
def labelKey (label : Text) : Text := collapseSpaces false (Text.fold (Text.strip Text.isSpace label))

/-- The target that a label is defined to have. -/
def References.find? (refs : References) (label : Text) : Option Target :=
  (List.find? (fun (k, _) => k == labelKey label) refs).map (·.2)

/-- Adds a definition; an earlier one of the same label stays in force. -/
def References.define (refs : References) (label : Text) (target : Target) : References :=
  if refs.any (·.1 == labelKey label) then refs else refs ++ [(labelKey label, target)]

/-! ### Destinations and titles -/

/-- The text up to `closer` and what follows it. Punctuation behind a backslash does not count; an
`opener` on the way makes the search fail. -/
def closure? (opener closer : UInt8) : (escaped : Bool) → Text → Option (Text × Text)
  | _, [] => none
  | escaped, c :: t =>
    let go (e : Bool) := (closure? opener closer e t).map fun (a, b) => (c :: a, b)
    if escaped && Text.isPunctuation c then go false
    else if c == '\\' then go true
    else if c == closer then some ([], t)
    else if c == opener then none
    else go false

/-- The text from where an opening sign stands again. -/
def reopening (opener : UInt8) : (escaped : Bool) → Text → Text
  | _, [] => []
  | escaped, c :: t =>
    if escaped && Text.isPunctuation c then reopening opener false t
    else if c == '\\' then reopening opener true t
    else if c == opener then c :: t
    else reopening opener false t

/-- A destination without angle brackets and what follows it: up to white space or a closing
parenthesis without its opening one. -/
def plainDestination : (escaped : Bool) → (depth : Nat) → Text → Text × Text
  | _, _, [] => ([], [])
  | escaped, depth, c :: t =>
    let go (e : Bool) (d : Nat) : Text × Text :=
      let (a, b) := plainDestination e d t
      (c :: a, b)
    if escaped && Text.isPunctuation c then go false depth
    else if c == '\\' then go true depth
    else if c == '(' then go false (depth + 1)
    else if c == ')' then if depth == 0 then ([], c :: t) else go false (depth - 1)
    else if isSpace c then ([], c :: t)
    else go false depth

/-- A destination in angle brackets, after the opening one, within its line. -/
def bracketedDestination? : (escaped : Bool) → Text → Option (Text × Text)
  | _, [] => none
  | escaped, c :: t =>
    let go (e : Bool) := (bracketedDestination? e t).map fun (a, b) => (c :: a, b)
    if escaped && Text.isPunctuation c then go false
    else if c == '\\' then go true
    else if c == '>' then some ([], t)
    else if c == '\n' then none
    else go false

/-- A destination after white space, and what follows it. -/
def destination? (t : Text) : Option (Text × Text) :=
  let t := Text.stripLeft isSpace t
  if t.head? == some '<' then bracketedDestination? false (t.drop 1)
  else
    let (a, b) := plainDestination false 0 t
    if a.isEmpty then none else some (a, b)

/-- The octet that closes what an opening quote or parenthesis opens; nothing for any other octet. -/
def titleCloser? (c : UInt8) : Option UInt8 :=
  if c == '"' || c == Text.apostrophe then some c
  else if c == '(' then some ')'
  else none

/-- A title after white space, and what follows it. -/
def title? (t : Text) : Option (Text × Text) :=
  match Text.stripLeft isSpace t with
  | [] => none
  | c :: t => (titleCloser? c).bind fun closer => closure? c closer false t

/-! ### Definitions -/

/-- Is there nothing but white space up to the end of the line? -/
def atLineEnd (t : Text) : Bool := (currentLine t).all isSpace

/-- The number of line feeds. -/
def lineFeeds (t : Text) : Nat := t.count '\n'.toUInt8

/-- One definition at the head of a text: the label, the target, the text from its beginning on, where
reading goes on, and a place in the line where it ends. -/
structure Definition where
  label : Text
  target : Target
  start : Text
  next : Text
  last : Text
  /-- Does the last line belong to the definition? -/
  wholeLine : Bool := true

/-- Reads a definition after white space. A title that does not end its line stays in the paragraph, with the
line of the destination, if it stands on a line of its own, and spoils the definition otherwise. -/
def definition? (t : Text) : Option Definition := do
  let t := Text.stripLeft isSpace t
  let inner ← Text.after? t "["
  let (label, afterLabel) ← closure? '[' ']' false inner
  if label.all isSpace then none
  else do
    let afterColon ← Text.after? afterLabel ":"
    let (destination, behind) ← destination? afterColon
    let ownLine := atLineEnd behind
    let plain : Definition := ⟨label, { destination }, t, behind, behind, true⟩
    let start := Text.stripLeft isSpace behind
    match start with
    | [] => some plain
    | opener :: rest =>
      match titleCloser? opener with
      | none => if ownLine then some plain else none
      | some closer =>
        if start.length == behind.length then none
        else match closure? opener closer false rest with
          | none => if ownLine then some { plain with next := afterLine (reopening opener false rest) } else none
          | some (title, after) =>
            let titled : Target := { destination, title := some title }
            if atLineEnd after then some ⟨label, titled, t, after, after, true⟩
            else if ownLine then some ⟨label, titled, t, after, behind, false⟩
            else none

/-- The lines of a text that a definition in it takes: the first, and the one behind the last. It takes one at
least. -/
def Definition.lineRange (d : Definition) (whole : Text) : Nat × Nat :=
  let first := lineFeeds whole - lineFeeds d.start
  let last := lineFeeds whole - lineFeeds d.last
  (first, max (first + 1) (if d.wholeLine then last + 1 else last))

/-- Takes the definitions at the head of a paragraph; gives the references with them and the lines they take. -/
def definitions (whole : Text) :
    (fuel : Nat) → References → (taken : List (Nat × Nat)) → Text → References × List (Nat × Nat)
  | 0, refs, taken, _ => (refs, taken)
  | fuel + 1, refs, taken, t =>
    match definition? t with
    | none => (refs, taken)
    | some d =>
      definitions whole fuel (refs.define d.label d.target) (d.lineRange whole :: taken) d.next

/-- The lines that are left when ranges of them are taken out in turn. Each range counts from the end of the one
before it, as if nothing had been left in front of that. -/
def outside {α : Type} : (offset : Nat) → (ranges : List (Nat × Nat)) → List α → List α
  | _, [], lines => lines
  | offset, (first, behind) :: more, lines =>
    outside behind more (lines.take (first - offset) ++ lines.drop (behind - offset))

end Markdown

end Marginalia
