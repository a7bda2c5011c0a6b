import Marginalia.Yaml.Token

/-!
The tokens of a whole document. What may turn out to be a key is remembered until its colon is seen, and
the token that says so is put in front of it then. Blocks open where a line begins further to the right
and close where one begins further to the left.
-/

namespace Marginalia

namespace Yaml

/-- Something that is a key if a colon follows on its line. -/
structure PendingKey where
  /-- The number of its token. -/
  token : Nat
  /-- Must a colon follow? -/
  required : Bool
  index : Nat
  line : Nat
  column : Nat
deriving Repr

/-- The tokens found so far and what is open. -/
structure Scan where
  reader : Reader
  tokens : Array Token := #[]
  /-- The column of the innermost block; `-1` outside all blocks. -/
  indent : Int := -1
  outerIndents : List Int := []
  /-- What may be a key, for each open bracket and outside of all. -/
  keys : List (Option PendingKey) := [none]
  /-- May a key begin here? -/
  keyAllowed : Bool := true
  ended : Bool := false
  /-- Lines that begin before this character lose their first one. -/
  spoilt : Nat := 0

namespace Scan

/-- Is a bracket open? -/
def inFlow (s : Scan) : Bool := 1 < s.keys.length

/-- May the key still be one here? Keys are at most 1024 characters long. -/
def isFresh (s : Scan) (k : PendingKey) : Bool := k.line == s.reader.line && s.reader.index ≤ k.index + 1024

def push (s : Scan) (t : Token) : Scan := { s with tokens := s.tokens.push t }

def allowKey (s : Scan) (b : Bool) : Scan := { s with keyAllowed := b }

def moveTo (s : Scan) (r : Reader) : Scan := { s with reader := r }

/-- Closes the blocks to the right of a column. -/
def unrollTo (column : Int) : List Int → Scan → Scan
  | [], s => s
  | outer :: more, s =>
    if s.indent ≤ column then s
    else unrollTo column more { s.push .blockEnd with indent := outer, outerIndents := more }

/-- Closes the blocks to the right of a column, unless a bracket is open. -/
def unroll (s : Scan) (column : Int) : Scan :=
  if s.inFlow then s else unrollTo column s.outerIndents s

/-- Opens a block at a column if it is to the right of all others. -/
def roll (s : Scan) (column : Nat) (place : Nat) (t : Token) : Scan :=
  if !s.inFlow && s.indent < column then
    { s with
      tokens := s.tokens.insertIdxIfInBounds place t
      indent := column
      outerIndents := s.indent :: s.outerIndents }
  else s

/-- Forgets what may be a key; fails if it must be one. -/
def dropKey (s : Scan) : Option Scan :=
  match s.keys with
  | some k :: more => if k.required then none else some { s with keys := none :: more }
  | _ => some s

/-- Remembers that a key may begin here. -/
def noteKey (s : Scan) : Option Scan :=
  if !s.keyAllowed then some s
  else
    let key : PendingKey :=
      { token := s.tokens.size, required := !s.inFlow && s.indent == (s.reader.column : Int),
        index := s.reader.index, line := s.reader.line, column := s.reader.column }
    s.dropKey.map fun s => { s with keys := some key :: s.keys.drop 1 }

/-! ### White space -/

/-- Reads blanks and line breaks. -/
def skipGap : (fuel : Nat) → Reader → Reader
  | 0, r => r
  | fuel + 1, r =>
    match r.rest with
    | [] => r
    | c :: _ => if isBlank c then skipGap fuel r.skip else if isBreak c then skipGap fuel r.takeBreak.2 else r

/-- Reads a comment up to the end of its line, and the comments on the lines below. -/
def skipComment : (fuel : Nat) → Reader → Reader
  | 0, r => r
  | fuel + 1, r =>
    let r := r.skipLine
    let next := skipGap r.rest.length r
    if next.rest.head? == some '#' then skipComment fuel next else r

/-- Reads white space and comments up to the next token. -/
def skipSpace : (fuel : Nat) → Scan → Scan
  | 0, s => s
  | fuel + 1, s =>
    let r := if s.reader.column == 0 && s.reader.index < s.spoilt then s.reader.skip else s.reader
    let tabs := s.inFlow || !s.keyAllowed
    let r := r.skipWhile fun c => c == ' ' || (tabs && c == '\t')
    let r := if r.rest.head? == some '#' then skipComment r.rest.length r else r
    if r.rest.head?.any isBreak then
      skipSpace fuel { s with reader := r.takeBreak.2, keyAllowed := s.keyAllowed || !s.inFlow }
    else s.moveTo r

/-- Reads a comment behind a token. -/
def skipLineComment (s : Scan) : Scan :=
  let r := s.reader.skipWhile isBlank
  if r.rest.head? == some '#' then s.moveTo r.skipLine else s

/-! ### One token -/

/-- A bracket opens. -/
def openFlow (t : Token) (s : Scan) : Option Scan := do
  let s ← s.noteKey
  let s := { s.push t with keys := none :: s.keys, keyAllowed := true }
  some (s.moveTo s.reader.skip)

/-- A bracket closes. -/
def closeFlow (t : Token) (s : Scan) : Option Scan := do
  let s ← s.dropKey
  let keys := if s.inFlow then s.keys.drop 1 else s.keys
  let s := { s.push t with keys, keyAllowed := false }
  some (s.moveTo s.reader.skip)

/-- Opens a block with what begins here, if something may begin here. -/
def beginBlock (t : Token) (s : Scan) : Option Scan :=
  if s.inFlow then some s
  else if s.keyAllowed then some (s.roll s.reader.column s.tokens.size t)
  else none

/-- The colon behind a key. -/
def readValue (s : Scan) : Option Scan := do
  let s ← match s.keys with
    | some k :: more =>
      if s.isFresh k then
        let s := { s with tokens := s.tokens.insertIdxIfInBounds k.token .key, keys := none :: more }
        some ((s.roll k.column k.token .blockMappingStart).allowKey false)
      else if k.required then none
      else (beginBlock .blockMappingStart { s with keys := none :: more }).map fun s => s.allowKey (!s.inFlow)
    | _ => (beginBlock .blockMappingStart s).map fun s => s.allowKey (!s.inFlow)
  some ((s.push .value).moveTo s.reader.skip)

/-- Something that may be a key: a scalar, an anchor, an alias or a tag. -/
def readAtom (read : Reader → Option (Token × Reader)) (s : Scan) : Option Scan := do
  let s ← s.noteKey
  let (t, r) ← read s.reader
  some (((s.push t).allowKey false).moveTo r)

/-- A quoted scalar. -/
def readQuotedToken (single : Bool) (r : Reader) : Option (Token × Reader) :=
  (readQuoted single (r.rest.length + 1) [] r.skip).map fun (t, r) => (.scalar false (Text.ofChars t), r)

/-- A block scalar. -/
def readBlockToken (literal : Bool) (s : Scan) : Option Scan := do
  let s ← s.dropKey
  let (t, r) ← readBlock literal s.indent s.reader
  some (((s.push (.scalar false (Text.ofChars t))).allowKey true).moveTo r)

/-- A plain scalar. A line break behind it allows a key. -/
def readPlainToken (s : Scan) : Option Scan := do
  let s ← s.noteKey
  let (t, broken, r) ← readPlain s.inFlow (s.indent + 1).toNat (s.reader.rest.length + 1) [] {} s.reader
  let s := ((s.push (.scalar true (Text.ofChars t))).allowKey broken).moveTo r
  some (if broken then s else s.skipLineComment)

/-- What stands at the left margin and ends all blocks. -/
def readMark (read : Reader → Option (Token × Reader)) (s : Scan) : Option Scan := do
  let s ← (s.unroll (-1)).dropKey
  let (t, r) ← read s.reader
  some (((s.push t).allowKey false).moveTo r)

/-- The end of the text. -/
def finish (s : Scan) : Option Scan := do
  let r := s.reader
  let s := s.moveTo (if r.column == 0 then r else { r with column := 0, line := r.line + 1 })
  let s ← (s.unroll (-1)).dropKey
  some { s.push .streamEnd with keyAllowed := false, ended := true }

/-- May a plain scalar begin with these characters? -/
def beginsPlain (inFlow : Bool) (t : List Char) : Bool :=
  match t with
  | [] => false
  | c :: rest =>
    !(isBlank c || isBreak c || "-?:,[]\x7b\x7d#&*!|>'\"%@`".contains c) ||
      (c == '-' && !rest.head?.any isBlank) ||
      (!inFlow && (c == '?' || c == ':') && !atGap rest)

/-- Reads the token at the place, behind all white space. -/
def readToken (s : Scan) : Option Scan :=
  let r := s.reader
  match r.rest with
  | [] => s.finish
  | c :: rest =>
    let sign (s : Scan) (t : Token) : Scan := (s.push t).moveTo r.skip
    let comment : Option Scan → Option Scan := Option.map skipLineComment
    if r.column == 0 && c == '%' then s.readMark readDirective
    else if r.atDocumentMark then
      s.readMark fun r => some (if c == '-' then .documentStart else .documentEnd, r.skips 3)
    else if c == '[' then comment (s.openFlow .flowSequenceStart)
    else if c == '\x7b' then comment (s.openFlow .flowMappingStart)
    else if c == ']' then comment (s.closeFlow .flowSequenceEnd)
    else if c == '\x7d' then comment (s.closeFlow .flowMappingEnd)
    else if c == ',' then comment (s.dropKey.map fun s => (sign s .flowEntry).allowKey true)
    else if c == '-' && atGap rest then do
      let s ← (← s.beginBlock .blockSequenceStart).dropKey
      some ((sign s .blockEntry).allowKey true)
    else if c == '?' && (s.inFlow || atGap rest) then comment do
      let s ← (← s.beginBlock .blockMappingStart).dropKey
      some ((sign s .key).allowKey (!s.inFlow))
    else if c == ':' && (s.inFlow || atGap rest) then comment s.readValue
    else if c == '*' then comment (s.readAtom fun r => (readAnchor r).map fun (n, r) => (.alias n, r))
    else if c == '&' then comment (s.readAtom fun r => (readAnchor r).map fun (n, r) => (.anchor n, r))
    else if c == '!' then comment (s.readAtom readTag)
    else if c == '|' && !s.inFlow then s.readBlockToken true
    else if c == '>' && !s.inFlow then s.readBlockToken false
    else if c == '\'' then comment (s.readAtom (readQuotedToken true))
    else if c == '"' then comment (s.readAtom (readQuotedToken false))
    else if beginsPlain s.inFlow r.rest then s.readPlainToken
    else none

/-- Reads on to the next token and reads it. A broken text must go on behind it. -/
def step (broken : Bool) (s : Scan) : Option Scan := do
  let s := skipSpace (s.reader.rest.length + 1) s
  let s := s.unroll s.reader.column
  if broken && (s.reader.rest.drop 3).isEmpty then none
  else
    let s ← s.readToken
    if broken && s.reader.rest.isEmpty then none else some s

end Scan

/-- The tokens of a document, as far as they can be read. -/
structure TokenStream where
  tokens : Array Token
  /-- Is something wrong behind the last token? -/
  failed : Bool

namespace TokenStream

/-- Reads tokens up to the end of the text or to what is no token. -/
def readAll (broken : Bool) : (fuel : Nat) → Scan → TokenStream
  | 0, s => ⟨s.tokens, true⟩
  | fuel + 1, s =>
    if s.ended then ⟨s.tokens, false⟩
    else match s.step broken with
      | some s => readAll broken fuel s
      | none => ⟨s.tokens, true⟩

/-- Reads the tokens of a document. -/
def ofSource (source : Source) : TokenStream :=
  readAll source.broken (source.chars.length + 2) { reader := { rest := source.chars }, spoilt := source.spoilt }

end TokenStream

end Yaml

end Marginalia
