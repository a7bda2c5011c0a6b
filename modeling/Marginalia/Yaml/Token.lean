import Marginalia.Yaml.Source

/-!
The tokens of a document: the signs and scalars of which it is made. Indentation shows in tokens of its
own, and the beginning of a mapping is known only at the colon behind its first key.
-/

namespace Marginalia

namespace Yaml

/-- A token. -/
inductive Token where
  | streamEnd
  | version (major minor : Nat)
  | tagPrefix (handle value : Text)
  | documentStart
  | documentEnd
  | blockSequenceStart
  | blockMappingStart
  | blockEnd
  | flowSequenceStart
  | flowSequenceEnd
  | flowMappingStart
  | flowMappingEnd
  | blockEntry
  | flowEntry
  | key
  | value
  | alias (name : Text)
  | anchor (name : Text)
  | tag (handle suffix : Text)
  | scalar (plain : Bool) (value : Text)
deriving DecidableEq, Repr, Inhabited

/-! ### Classes of characters -/

def isBlank (c : Char) : Bool := c == ' ' || c == '\t'

def isBreak (c : Char) : Bool :=
  c == '\r' || c == '\n' || c == '\u0085' || c == '\u2028' || c == '\u2029'

/-- Letters, digits, hyphens and low lines. -/
def isNameChar (c : Char) : Bool := c.isAlphanum || c == '_' || c == '-'

def isHexChar (c : Char) : Bool :=
  c.isDigit || ('a' ≤ c && c ≤ 'f') || ('A' ≤ c && c ≤ 'F')

/-- Is the text over here, or is there white space? -/
def atGap : List Char → Bool
  | [] => true
  | c :: _ => isBlank c || isBreak c

/-- Is the text or the line over here? -/
def atLineEnd : List Char → Bool
  | [] => true
  | c :: _ => isBreak c

/-! ### Reading on -/

/-- A place in a document: the characters left, how many have been read, and where that is. -/
structure Reader where
  rest : List Char
  index : Nat := 0
  line : Nat := 0
  column : Nat := 0
deriving Repr, Inhabited

namespace Reader

/-- Reads one character of a line. -/
def skip (r : Reader) : Reader := { r with rest := r.rest.drop 1, index := r.index + 1, column := r.column + 1 }

/-- Reads characters of a line. -/
def skips (r : Reader) (n : Nat) : Reader :=
  { r with rest := r.rest.drop n, index := r.index + n, column := r.column + n }

/-- Reads the characters of a class; none of them breaks the line. -/
def skipWhile (p : Char → Bool) (r : Reader) : Reader := r.skips (r.rest.takeWhile p).length

/-- Reads a line break; gives what it stands for. -/
def takeBreak (r : Reader) : List Char × Reader :=
  let next (n : Nat) : Reader := ⟨r.rest.drop n, r.index + 1, r.line + 1, 0⟩
  match r.rest with
  | '\r' :: '\n' :: _ => (['\n'], next 2)
  | c :: _ =>
    if c == '\u2028' || c == '\u2029' then ([c], next 1)
    else if isBreak c then (['\n'], next 1)
    else ([], r)
  | [] => ([], r)

/-- Reads up to the end of the line. -/
def skipLine (r : Reader) : Reader := r.skipWhile fun c => !isBreak c

/-- Is there a mark of a document at the beginning of a line? -/
def atDocumentMark (r : Reader) : Bool :=
  r.column == 0 && (r.rest.take 3 == ['-', '-', '-'] || r.rest.take 3 == ['.', '.', '.']) && atGap (r.rest.drop 3)

end Reader

/-! ### Folding lines -/

/-- White space and line breaks between two words of a scalar. -/
structure Fold where
  /-- The blanks before the first line break. -/
  blanks : List Char := []
  /-- The first line break. -/
  first : List Char := []
  /-- Further line breaks. -/
  more : List Char := []
  /-- Has there been a line break? -/
  broken : Bool := false
deriving Inhabited

namespace Fold

/-- What the white space comes to: one line break makes a blank, and of more the first one is lost. -/
def text (f : Fold) : List Char :=
  if !f.broken then f.blanks
  else if f.first.head? == some '\n' then if f.more.isEmpty then [' '] else f.more
  else f.first ++ f.more

/-- Reads white space. Tabs in front of the column `indent` of a line are an error. -/
def read (indent : Nat) : (fuel : Nat) → Fold → Reader → Option (Fold × Reader)
  | 0, f, r => some (f, r)
  | fuel + 1, f, r =>
    match r.rest with
    | [] => some (f, r)
    | c :: _ =>
      if isBlank c then
        if f.broken && c == '\t' && r.column < indent then none
        else read indent fuel (if f.broken then f else { f with blanks := f.blanks ++ [c] }) r.skip
      else if isBreak c then
        let (b, r) := r.takeBreak
        if f.broken then read indent fuel { f with more := f.more ++ b } r
        else read indent fuel { f with blanks := [], first := b, broken := true } r
      else some (f, r)

end Fold

/-! ### Plain scalars -/

/-- Does a plain scalar end at this character? -/
def endsPlain (inFlow : Bool) (t : List Char) : Bool :=
  match t with
  | [] => true
  | c :: rest => (c == ':' && atGap rest) || (inFlow && [',', '?', '[', ']', '\x7b', '\x7d'].contains c)

/-- The characters of a plain scalar up to white space or its end. -/
def plainWord (inFlow : Bool) : List Char → List Char
  | [] => []
  | c :: t => if isBlank c || isBreak c || endsPlain inFlow (c :: t) then [] else c :: plainWord inFlow t

/-- Reads a plain scalar: its text, latest words behind, the place behind it, and whether a line break
was read last. `gap` is the white space before the next word. -/
def readPlain (inFlow : Bool) (indent : Nat) :
    (fuel : Nat) → (done : List Char) → (gap : Fold) → Reader → Option (List Char × Bool × Reader)
  | 0, done, gap, r => some (done, gap.broken, r)
  | fuel + 1, done, gap, r =>
    if r.atDocumentMark || r.rest.head? == some '#' then some (done, gap.broken, r)
    else
      let word := plainWord inFlow r.rest
      let done := if word.isEmpty then done else done ++ gap.text ++ word
      let gap := if word.isEmpty then gap else {}
      let r := r.skips word.length
      match r.rest with
      | [] => some (done, gap.broken, r)
      | c :: _ =>
        if !(isBlank c || isBreak c) then some (done, gap.broken, r)
        else match Fold.read indent r.rest.length gap r with
          | none => none
          | some (gap, r) =>
            if !inFlow && r.column < indent then some (done, gap.broken, r)
            else readPlain inFlow indent fuel done gap r

/-! ### Quoted scalars -/

/-- The characters that a backslash and one letter stand for. -/
def escapes : List (Char × Char) :=
  [('0', '\x00'), ('a', '\x07'), ('b', '\x08'), ('t', '\t'), ('\t', '\t'), ('n', '\n'), ('v', '\x0b'),
    ('f', '\x0c'), ('r', '\r'), ('e', '\x1b'), (' ', ' '), ('"', '"'), ('\'', '\''), ('/', '/'), ('\\', '\\'),
    ('N', '\u0085'), ('_', '\u00a0'), ('L', '\u2028'), ('P', '\u2029')]

/-- How many digits an escape by number has. -/
def escapeLength? (c : Char) : Option Nat :=
  if c == 'x' then some 2 else if c == 'u' then some 4 else if c == 'U' then some 8 else none

/-- The character of an escape, after the backslash, and how many characters it takes. -/
def escape? (t : List Char) : Option (Char × Nat) :=
  match t with
  | [] => none
  | c :: rest =>
    match escapeLength? c with
    | none => (escapes.find? (·.1 == c)).map fun (_, d) => (d, 1)
    | some n =>
      let digits := rest.take n
      let code := Text.digitsValue 16 (digits.map Char.toUInt8)
      if digits.length == n && digits.all isHexChar && code.isValidChar then some (Char.ofNat code, n + 1)
      else none

/-- One piece of a quoted scalar. -/
inductive QuotedPiece where
  | char (c : Char) (length : Nat)
  /-- A backslash at the end of a line. -/
  | joined
  | closed
  | gap
  | wrong

/-- The piece of a quoted scalar at the head of a text. -/
def quotedPiece (single : Bool) (t : List Char) : QuotedPiece :=
  match t with
  | [] => .wrong
  | c :: rest =>
    if isBlank c || isBreak c then .gap
    else if single then
      if c == '\'' then if rest.head? == some '\'' then .char c 2 else .closed
      else .char c 1
    else if c == '"' then .closed
    else if c == '\\' then
      if rest.head?.any isBreak then .joined
      else match escape? rest with
        | some (d, n) => .char d (n + 1)
        | none => .wrong
    else .char c 1

/-- Reads a quoted scalar after its quote: its text and the place behind it. -/
def readQuoted (single : Bool) : (fuel : Nat) → (done : List Char) → Reader → Option (List Char × Reader)
  | 0, _, _ => none
  | fuel + 1, done, r =>
    if r.atDocumentMark then none
    else match quotedPiece single r.rest with
      | .wrong => none
      | .closed => some (done.reverse, r.skip)
      | .char c n => readQuoted single fuel (c :: done) (r.skips n)
      | .joined =>
        let r := r.skip.takeBreak.2
        match Fold.read 0 r.rest.length { broken := true } r with
        | none => none
        | some (f, r) => readQuoted single fuel ((f.first ++ f.more).reverse ++ done) r
      | .gap =>
        match Fold.read 0 r.rest.length {} r with
        | none => none
        | some (f, r) => readQuoted single fuel (f.text.reverse ++ done) r

/-! ### Block scalars -/

/-- What becomes of the line breaks at the end of a block scalar. -/
inductive Chomping where
  | strip
  | clip
  | keep
deriving DecidableEq

/-- The signs behind the one that opens a block scalar: chomping, indentation, and the rest. -/
def blockHeader? (r : Reader) : Option (Chomping × Option Nat × Reader) :=
  let chomping (r : Reader) : Option (Chomping × Reader) :=
    match r.rest.head? with
    | some '+' => some (.keep, r.skip)
    | some '-' => some (.strip, r.skip)
    | _ => none
  let digit (r : Reader) : Option (Option (Nat × Reader)) :=
    match r.rest.head? with
    | some c =>
      if !c.isDigit then some none
      else if c == '0' then none
      else some (some (c.toNat - '0'.toNat, r.skip))
    | none => some none
  match chomping r with
  | some (k, r) =>
    match digit r with
    | none => none
    | some none => some (k, none, r)
    | some (some (n, r)) => some (k, some n, r)
  | none =>
    match digit r with
    | none => none
    | some none => some (.clip, none, r)
    | some (some (n, r)) =>
      match chomping r with
      | some (k, r) => some (k, some n, r)
      | none => some (.clip, some n, r)

/-- Reads the indentation and the empty lines before a line of a block scalar. Without a known
indentation all blanks count. Gives the breaks, the deepest column, and the place. -/
def blockBreaks (indent : Option Nat) :
    (fuel : Nat) → (breaks : List Char) → (deepest : Nat) → Reader → Option (List Char × Nat × Reader)
  | 0, breaks, deepest, r => some (breaks, deepest, r)
  | fuel + 1, breaks, deepest, r =>
    let blanks := (r.rest.takeWhile (· == ' ')).length
    let r := r.skips (match indent with
      | some n => min blanks (n - r.column)
      | none => blanks)
    let deepest := max deepest r.column
    match r.rest with
    | [] => some (breaks, deepest, r)
    | c :: _ =>
      if c == '\t' && (indent.all fun n => r.column < n) then none
      else if isBreak c then
        let (b, r) := r.takeBreak
        blockBreaks indent fuel (breaks ++ b) deepest r
      else some (breaks, deepest, r)

/-- The lines of a block scalar: the text so far, the break behind its last line, and the breaks behind
that. -/
structure BlockText where
  done : List Char := []
  last : List Char := []
  breaks : List Char
  /-- Did the last line begin with white space? -/
  indented : Bool := false

/-- Reads the lines of a block scalar. -/
def blockLines (literal : Bool) (indent : Nat) :
    (fuel : Nat) → BlockText → Reader → Option (BlockText × Reader)
  | 0, b, r => some (b, r)
  | fuel + 1, b, r =>
    match r.rest with
    | [] => some (b, r)
    | c :: _ =>
      if r.column != indent then some (b, r)
      else
        let blank := isBlank c
        let joins := !literal && !b.indented && !blank && b.last.head? == some '\n'
        let glue := if joins then if b.breaks.isEmpty then [' '] else [] else b.last
        let line := r.rest.takeWhile fun c => !isBreak c
        let (last, r) := r.skipLine.takeBreak
        match blockBreaks (some indent) (r.rest.length + 1) [] 0 r with
        | none => none
        | some (breaks, _, r) =>
          blockLines literal indent fuel ⟨b.done ++ glue ++ b.breaks ++ line, last, breaks, blank⟩ r

/-- Reads a block scalar from the sign that opens it; `outer` is the indentation around it. -/
def readBlock (literal : Bool) (outer : Int) (r : Reader) : Option (List Char × Reader) :=
  match blockHeader? r.skip with
  | none => none
  | some (chomping, increment, r) =>
    let r := r.skipWhile isBlank
    let r := if r.rest.head? == some '#' then r.skipLine else r
    if !atLineEnd r.rest then none
    else
      let r := r.takeBreak.2
      let given := increment.map fun n => if 0 ≤ outer then outer.toNat + n else n
      match blockBreaks given (r.rest.length + 1) [] 0 r with
      | none => none
      | some (breaks, deepest, r) =>
        let indent := given.getD (max deepest (max (outer + 1).toNat 1))
        match blockLines literal indent (r.rest.length + 1) { breaks } r with
        | none => none
        | some (b, r) =>
          let ending := match chomping with
            | .strip => []
            | .clip => b.last
            | .keep => b.last ++ b.breaks
          some (b.done ++ ending, r)

/-! ### Tags and directives -/

/-- The characters of a tag. -/
def isTagChar (c : Char) : Bool :=
  isNameChar c || [';', '/', '?', ':', '@', '&', '=', '+', '$', '.', ',', '!', '~', '*', '\'', '(', ')', '[', ']'].contains c

/-- An octet written as a percent sign and two digits. -/
def tagOctet? (t : List Char) : Option UInt8 :=
  match t with
  | '%' :: a :: b :: _ =>
    if isHexChar a && isHexChar b then
      some (UInt8.ofNat (Text.digitsValue 16 [a.toUInt8, b.toUInt8]))
    else none
  | _ => none

/-- How many octets make the character that begins with this one. -/
def tagOctets? (b : UInt8) : Option Nat :=
  if b < 0x80 then some 1
  else if b < 0xc0 then none
  else if b < 0xe0 then some 2
  else if b < 0xf0 then some 3
  else if b < 0xf8 then some 4
  else none

/-- The octets that continue a character, so many of them. -/
def tagTrail? : (count : Nat) → List Char → Option Text
  | 0, _ => some []
  | count + 1, t =>
    match tagOctet? t with
    | some b => if b &&& 0xc0 == 0x80 then (tagTrail? count (t.drop 3)).map (b :: ·) else none
    | none => none

/-- The octets of a character written by percent signs. -/
def tagCharacter? (t : List Char) : Option Text := do
  let b ← tagOctet? t
  let n ← tagOctets? b
  let trail ← tagTrail? (n - 1) (t.drop 3)
  some (b :: trail)

/-- Reads the characters of a tag, with what percent signs stand for. -/
def readTagText : (fuel : Nat) → Reader → Option (Text × Reader)
  | 0, r => some ([], r)
  | fuel + 1, r =>
    match r.rest with
    | [] => some ([], r)
    | c :: _ =>
      if c == '%' then
        match tagCharacter? r.rest with
        | none => none
        | some bs => (readTagText fuel (r.skips (3 * bs.length))).map fun (t, r) => (bs ++ t, r)
      else if isTagChar c then (readTagText fuel r.skip).map fun (t, r) => (Text.ofChar c ++ t, r)
      else some ([], r)

/-- Reads a handle: an exclamation mark, a name, and another mark if there is one. -/
def readHandle (r : Reader) : List Char × Reader :=
  let name := (r.rest.drop 1).takeWhile isNameChar
  let closed := (r.rest.drop (1 + name.length)).head? == some '!'
  let n := 1 + name.length + (if closed then 1 else 0)
  (r.rest.take n, r.skips n)

/-- Reads a tag. -/
def readTag (r : Reader) : Option (Token × Reader) :=
  let ended (handle suffix : Text) (r : Reader) : Option (Token × Reader) :=
    if atGap r.rest then some (.tag handle suffix, r) else none
  if (r.rest.drop 1).head? == some '<' then
    match readTagText r.rest.length (r.skips 2) with
    | some (suffix, r) =>
      if suffix.isEmpty || r.rest.head? != some '>' then none else ended [] suffix r.skip
    | none => none
  else
    let (handle, r) := readHandle r
    let isHandle := 1 < handle.length && handle.getLast? == some '!'
    match readTagText r.rest.length r with
    | none => none
    | some (suffix, r) =>
      if isHandle then if suffix.isEmpty then none else ended (Text.ofChars handle) suffix r
      else
        let suffix := Text.ofChars (handle.drop 1) ++ suffix
        if suffix.isEmpty then ended [] "!" r else ended "!" suffix r

/-- Reads the number of a version, of at most nine digits. -/
def readNumber (r : Reader) : Option (Nat × Reader) :=
  let digits := r.rest.takeWhile Char.isDigit
  if digits.isEmpty || 9 < digits.length then none
  else some (Text.digitsValue 10 (digits.map Char.toUInt8), r.skips digits.length)

/-- Reads the rest of the line of a directive. -/
def endDirective (r : Reader) : Option Reader :=
  let r := r.skipWhile isBlank
  let r := if r.rest.head? == some '#' then r.skipLine else r
  if atLineEnd r.rest then some r.takeBreak.2 else none

/-- Reads a directive: the version of the language, or what a handle stands for. -/
def readDirective (r : Reader) : Option (Token × Reader) :=
  let name := (r.rest.drop 1).takeWhile isNameChar
  let r := r.skips (1 + name.length)
  if !atGap r.rest then none
  else if name == "YAML".toList then do
    let (major, r) ← readNumber (r.skipWhile isBlank)
    if r.rest.head? != some '.' then none
    else do
      let (minor, r) ← readNumber r.skip
      some (.version major minor, ← endDirective r)
  else if name == "TAG".toList then do
    let r := r.skipWhile isBlank
    let (handle, r) := readHandle r
    let isHandle := handle == ['!'] || handle.getLast? == some '!'
    if handle.head? != some '!' || !isHandle || !r.rest.head?.any isBlank then none
    else do
      let r := r.skipWhile isBlank
      let (value, r) ← readTagText r.rest.length r
      if value.isEmpty || !atGap r.rest then none
      else some (.tagPrefix (Text.ofChars handle) value, ← endDirective r)
  else none

/-- Reads the name of an anchor or an alias. -/
def readAnchor (r : Reader) : Option (Text × Reader) :=
  let name := (r.rest.drop 1).takeWhile isNameChar
  let r := r.skips (1 + name.length)
  let ended := match r.rest with
    | [] => true
    | c :: _ => atGap r.rest || ['?', ':', ',', ']', '\x7d', '%', '@', Char.ofNat 0x60].contains c
  if name.isEmpty || !ended then none else some (Text.ofChars name, r)

end Yaml

end Marginalia
