import Marginalia.Markdown.Address
import Marginalia.Markdown.Cursor
import Marginalia.Markdown.Emphasis
import Marginalia.Markdown.RawTag

/-!
Reading running text. The text is read line by line; a sign that may begin something is tried, and
what is left between such signs is plain text. Brackets stay open until a closing one finds the
nearest of them.
-/

namespace Marginalia

namespace Markdown

/-- What the reading of running text depends on. -/
structure Setting where
  references : References
  /-- The text is the first block of a list item. -/
  leadsItem : Bool := false
  /-- The text is a cell of a table. -/
  inCell : Bool := false
  /-- How much text is left where a line begins right behind the sign of a quotation. -/
  quotedTails : List Nat := []

/-- An opening bracket that is still to be closed. -/
structure Bracket where
  image : Bool
  /-- The octets of the text before the bracket. -/
  position : Nat
  /-- The text behind the bracket. -/
  behind : Text
  /-- The pieces between the bracket before it and this one, the latest first. -/
  before : List Piece
deriving Inhabited

namespace Bracket

/-- The bracket as text. -/
def sign (b : Bracket) : Text := if b.image then "![" else "["

/-- The octets of the text up to the end of the bracket. -/
def stop (b : Bracket) : Nat := b.position + b.sign.length

end Bracket

/-- What has been read: the pieces since the innermost open bracket, the latest first, and the open
brackets, the innermost first. -/
structure Reading where
  pieces : List Piece := []
  brackets : List Bracket := []
deriving Inhabited

namespace Reading

def push (r : Reading) (i : Inline) : Reading := { r with pieces := .inline i :: r.pieces }

/-- Adds plain text, if there is any. -/
def pushText (r : Reading) (t : Text) : Reading := if t.isEmpty then r else r.push (.text t)

/-- Gives up the innermost bracket, which becomes plain text. -/
def dropBracket (r : Reading) : Reading :=
  match r.brackets with
  | [] => r
  | b :: bs => ⟨r.pieces ++ .inline (.text b.sign) :: b.before, bs⟩

/-- Has nothing been read yet? -/
def isEmpty (r : Reading) : Bool := r.pieces.isEmpty && r.brackets.isEmpty

end Reading

/-! ### Code -/

/-- The text up to the first run of exactly `n` grave accents, and what follows the run. The argument
`run` counts those just read. -/
def codeEnd? (n : Nat) : (run : Nat) → Text → Option (Text × Text)
  | run, [] => if run == n then some ([], []) else none
  | run, c :: t =>
    if c == Text.grave then (codeEnd? n (run + 1) t).map fun (a, b) => (c :: a, b)
    else if run == n then some ([], c :: t)
    else (codeEnd? n 0 t).map fun (a, b) => (c :: a, b)

/-- Code without one blank or line feed at both ends, if it has one at both and more inside. -/
def trimCode (t : Text) : Text :=
  let loose (c : Option UInt8) : Bool := c == some ' ' || c == some '\n'
  if !isBlank t && loose t.head? && loose t.getLast? then (t.drop 1).dropLast else t

/-- Code at the head of a text, and what follows it. Grave accents that nothing closes are text. -/
def readCode (s : Setting) (t : Text) : Inline × Text :=
  let opener := t.takeWhile (· == Text.grave)
  let rest := t.drop opener.length
  match codeEnd? opener.length 0 rest with
  | none => (.text opener, rest)
  | some (inner, rest) =>
    let code := trimCode (inner.take (inner.length - opener.length))
    (.code (if s.inCell then Text.replaceAll "\\|" "|" code else code), rest)

/-! ### Links -/

/-- The target of a link in parentheses, after the opening one, and what follows it. -/
def inlineTarget? (t : Text) : Option (Target × Text) :=
  let closed (t : Text) : Option Text := Text.after? (Text.stripLeft isSpace t) ")"
  match closed t with
  | some rest => some ({ destination := [] }, rest)
  | none =>
    match destination? t with
    | none => none
    | some (destination, t) =>
      match closed t with
      | some rest => some ({ destination }, rest)
      | none =>
        match title? t with
        | none => none
        | some (title, t) => (closed t).map fun rest => ({ destination, title := some title }, rest)

/-- The longest label of a reference. -/
def longestLabel : Nat := 999

/-- The target that a label refers to. -/
def referTo? (s : Setting) (label : Text) : Option Target :=
  if longestLabel < label.length then none else s.references.find? label

/-- The target of a link whose text is `label`, from what follows the closing bracket, and what follows
the target. -/
def target? (s : Setting) (label rest : Text) : Option (Target × Text) :=
  let short : Option (Target × Text) := (referTo? s label).map fun target => (target, rest)
  match rest with
  | [] => short
  | c :: t =>
    if c == '(' then (inlineTarget? t).or short
    else if c == '[' then
      match closure? '[' ']' false t with
      | none => short
      | some (other, rest) =>
        (referTo? s (if isBlank other then label else other)).map fun target => (target, rest)
    else short

/-- Is a piece, or something in it, a link? -/
def Piece.hasLink : Piece → Bool
  | .inline i => i.hasLink
  | .run _ => false

/-- A closing bracket at the head of a text, with what follows it: the link that ends there. -/
def closeBracket (s : Setting) (t rest : Text) (r : Reading) : Reading × Option Text :=
  match r.brackets with
  | [] => (r, none)
  | b :: bs =>
    let far := match bs.head?, bs.getLast? with
      | some inner, some outer => longestLabel ≤ inner.stop - outer.position
      | _, _ => false
    let label := b.behind.take (b.behind.length - t.length)
    if far || (!b.image && r.pieces.any Piece.hasLink) then (r.dropBracket, none)
    else match target? s label rest with
      | none => (r.dropBracket, none)
      | some (target, rest) =>
        let inner := matchRuns r.pieces.reverse
        let node := if b.image then Inline.image target inner else Inline.link target inner
        (⟨.inline node :: b.before, bs⟩, some rest)

/-- A box to tick at the head of a text, and what follows it. -/
def readCheckbox? (t : Text) : Option (Bool × Text) :=
  let isGap (c : UInt8) : Bool := c == '\t' || c == '\n' || c == '\r' || c == ' ' || c == 0x0c
  match t with
  | a :: c :: b :: rest =>
    let tick := c == 'x' || c == 'X'
    if a == '[' && b == ']' && (tick || isGap c) then
      let gap := (currentLine rest).takeWhile isGap
      some (tick, rest.drop gap.length)
    else none
  | _ => none

/-! ### Signs -/

/-- The character that ends at a place in a text; a line feed at its beginning. -/
def charBefore (s : Setting) (whole rest : Text) : Char :=
  let behind := (whole.take (whole.length - rest.length)).reverse
  let tails := behind.takeWhile Text.isTail
  if s.quotedTails.contains rest.length then '>'
  else match (behind.drop tails.length).head? with
  | none => '\n'
  | some c => ((Text.next? (c :: (tails.reverse ++ rest))).map (·.1.toChar)).getD '\n'

/-- A bare address, unless a bracket is open. -/
def readBare (t : Text) (r : Reading) : Reading × Option Text :=
  if !r.brackets.isEmpty then (r, none)
  else match Address.bare? (currentLine t) with
    | none => (r, none)
    | some a =>
      let r := r.pushText (t.take a.lead)
      (r.push (.address a.destination a.label), some (t.drop (a.lead + a.label.length)))

/-- A run that may open or close emphasis. -/
def readRun (s : Setting) (whole t : Text) (r : Reading) : Reading × Option Text :=
  let run := Run.ofLine (charBefore s whole t) (currentLine t)
  ({ r with pieces := .run run :: r.pieces }, some (t.drop run.length))

/-- May the octet begin something? -/
def isTrigger (c : UInt8) : Bool := c == ' ' || c == Text.grave || ("[]!<*_~(" : Text).contains c

/-- Tries what the sign at the head of a text may begin; `trigger` is the sign, or a blank for white
space and for the beginning of a word. Gives what has been read then, and where to go on. -/
def readSign (s : Setting) (whole : Text) (trigger : UInt8) (t : Text) (r : Reading) :
    Reading × Option Text :=
  let position := whole.length - t.length
  if trigger == Text.grave then
    let (i, rest) := readCode s t
    (r.push i, some rest)
  else if trigger == '[' then
    match (if s.leadsItem && r.isEmpty then readCheckbox? t else none) with
    | some (checked, rest) => (r.push (.checkbox checked), some rest)
    | none => (⟨[], ⟨false, position, t.drop 1, r.pieces⟩ :: r.brackets⟩, some (t.drop 1))
  else if trigger == '!' then
    match Text.after? t "![" with
    | some rest => (⟨[], ⟨true, position, rest, r.pieces⟩ :: r.brackets⟩, some rest)
    | none => (r, none)
  else if trigger == ']' then closeBracket s t (t.drop 1) r
  else if trigger == '<' then
    match Address.bracketed? (currentLine t) with
    | some (destination, label, n) => (r.push (.address destination label), some (t.drop n))
    | none =>
      match RawTag.inline? t with
      | some rest => (r.push (.html (t.take (t.length - rest.length))), some rest)
      | none => (r, none)
  else if trigger == '*' || trigger == '_' then readRun s whole t r
  else if trigger == '~' then
    let signs := t.takeWhile (fun c : UInt8 => c == '~')
    if signs.length ≤ 2 && charBefore s whole t != '~' then readRun s whole t r else readBare t r
  else readBare t r

/-! ### Lines -/

/-- How a line ends: the octets before the ending, what breaks there, and whether the octets before
it are kept as they are. -/
structure LineEnd where
  length : Nat
  break? : Option Inline
  verbatim : Bool := false

/-- The ending of a line. A backslash or two blanks in front of the line feed make a hard break. -/
def lineEnd (line : Text) : LineEnd :=
  let hard (mark : Text) (verbatim : Bool) : Option LineEnd :=
    if Text.endsWith line mark then some ⟨line.length - mark.length, some .hardBreak, verbatim⟩ else none
  let slash (mark : Text) : Option LineEnd :=
    (hard mark true).filter fun e => (line.take e.length).getLast? != some '\\'
  let blanks (mark : Text) : Option LineEnd := hard mark false
  let soft : LineEnd := ⟨line.length, if Text.endsWith line "\n" then some .softBreak else none, false⟩
  ((((slash "\\\n").or (slash "\\\r\n")).or (blanks "  \n")).or (blanks "  \r\n")).getD soft

/-- What a walk along a line came to: something was read and the walk starts anew, or the line ended
with text pending. -/
inductive Walk where
  | restart (escaped : Bool) (rest : Text) (r : Reading)
  | ended (escaped : Bool) (pending : Text) (r : Reading)

/-- Walks along a line from octet to octet. `pending` is the text since the last sign, the latest octet
first. -/
def walk (s : Setting) (whole : Text) :
    (length : Nat) → (first escaped : Bool) → (pending : Text) → Text → Reading → Walk
  | 0, _, escaped, pending, _, r => .ended escaped pending r
  | _ + 1, _, escaped, pending, [], r => .ended escaped pending r
  | n + 1, first, escaped, pending, c :: t, r =>
    let isGap := isSpace c && c != '\r'
    let isSign := Text.isPunctuation c
    let trigger : UInt8 := if isGap || (first && !isSign) then ' ' else c
    if c == '\n' then .ended escaped pending r
    else if (first || isGap || (isSign && !escaped)) && isTrigger trigger then
      match readSign s whole trigger (c :: t) (r.pushText pending.reverse) with
      | (r, some rest) => .restart escaped rest r
      | (r, none) => walk s whole n false false [c] t r
    else walk s whole n false (!escaped && c == '\\') (c :: pending) t r

/-- Reads a text to its end. -/
def readFrom (s : Setting) (whole : Text) : (fuel : Nat) → (escaped : Bool) → Text → Reading → Reading
  | 0, _, _, r => r
  | _ + 1, _, [], r => r
  | fuel + 1, escaped, t, r =>
    let e := lineEnd (currentLine t)
    match walk s whole e.length true escaped [] t r with
    | .restart escaped rest r => readFrom s whole fuel escaped rest r
    | .ended escaped pending r =>
      let last := pending.reverse
      let r := r.pushText (if e.verbatim then last else Text.stripRight isSpace last)
      let r := match e.break? with
        | some i => r.push i
        | none => r
      readFrom s whole fuel escaped (afterLine t) r

/-- The pieces of running text. -/
def spans (s : Setting) (t : Text) : List Inline :=
  let r := readFrom s t (t.length + 1) false t {}
  let pieces := r.brackets.foldl (fun later b => b.before.reverse ++ .inline (.text b.sign) :: later)
    r.pieces.reverse
  matchRuns pieces

end Markdown

end Marginalia
