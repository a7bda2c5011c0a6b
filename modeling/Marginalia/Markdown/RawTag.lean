import Marginalia.Text.Symbols

/-!
HTML in Markdown: the shape of a tag, and the lines that begin and end a block of HTML.
-/

namespace Marginalia

namespace Markdown

namespace RawTag

/-- White space between attributes. -/
def isGap (c : UInt8) : Bool := c == ' ' || c == '\t' || c == '\n' || c == '\r'

def isNameStart (c : UInt8) : Bool := Text.isLetter c || c == '_' || c == ':'

def isNameOctet (c : UInt8) : Bool := Text.isAlnum c || c == '_' || c == ':' || c == '.' || c == '-'

/-- May the octet stand in a value without quotes? -/
def isPlainValue (c : UInt8) : Bool :=
  ' ' < c && c != '"' && c != Text.apostrophe && c != '=' && c != '<' && c != '>' && c != Text.grave

/-- A value, quoted or not, and what follows it. -/
def value? (t : Text) : Option Text :=
  match t with
  | [] => none
  | c :: rest =>
    if c == '"' || c == Text.apostrophe then (Text.cut? [c] rest).map (·.2)
    else if isPlainValue c then some (t.dropWhile isPlainValue)
    else none

/-- What follows one attribute with the white space in front of it. -/
def attribute? (t : Text) : Option Text :=
  match t.dropWhile isGap with
  | [] => none
  | c :: rest =>
    if (t.head?.map isGap).getD false && isNameStart c then
      let afterName := rest.dropWhile isNameOctet
      match Text.after? (afterName.dropWhile isGap) "=" with
      | some v => some ((value? (v.dropWhile isGap)).getD afterName)
      | none => some afterName
    else none

/-- What follows all attributes. -/
def attributes : (fuel : Nat) → Text → Text
  | 0, t => t
  | fuel + 1, t =>
    match attribute? t with
    | some rest => attributes fuel rest
    | none => t

/-- A tag name and what follows it. -/
def name? (t : Text) : Option (Text × Text) :=
  match t with
  | [] => none
  | c :: _ =>
    if Text.isLetter c then some (Text.span (fun c : UInt8 => Text.isAlnum c || c == '-') t) else none

/-- What follows white space in front of the end of a tag; a carriage return counts only at the end of a line. -/
def skipGaps : Text → Text
  | [] => []
  | c :: t =>
    if c == ' ' || c == '\t' || c == '\n' then skipGaps t
    else if c == '\r' && t.head? == some '\n' then skipGaps t
    else c :: t

/-- What follows an opening tag. -/
def openTag? (t : Text) : Option Text := do
  let inner ← Text.after? t "<"
  let (_, rest) ← name? inner
  let rest := skipGaps (attributes rest.length rest)
  Text.after? (Text.dropStart rest "/") ">"

/-- What follows a closing tag. -/
def closeTag? (t : Text) : Option Text := do
  let inner ← Text.after? t "</"
  let (_, rest) ← name? inner
  Text.after? (skipGaps rest) ">"

/-- What follows a comment. -/
def comment? (t : Text) : Option Text := do
  let inner ← Text.after? t "<!--"
  match Text.after? inner ">", Text.after? inner "->" with
  | some rest, _ => some rest
  | _, some rest => some rest
  | _, _ => (Text.cut? "-->" inner).map (·.2)

/-- Has a text only whole characters, and none that stands for one that cannot be read? -/
def isReadable (t : Text) : Bool :=
  (Text.symbols t).all fun s => match s with
    | .char c => c != Text.replacement
    | .stray _ => false

/-- What follows a tag, if all of it is readable. -/
def readable? (t : Text) (rest? : Option Text) : Option Text :=
  rest?.filter fun rest => isReadable (t.take (t.length - rest.length))

/-- What follows the tag, comment, instruction, declaration or character data at the head of a
text. -/
def inline? (t : Text) : Option Text :=
  match t with
  | _ :: c :: rest =>
    if Text.isAlnum c then readable? t (openTag? t)
    else if c == '/' then readable? t (closeTag? t)
    else if Text.startsWith t "<!--" then comment? t
    else if c == '?' then (Text.cut? "?>" (c :: rest)).map (·.2)
    else if c == '!' && (rest.head?.map Text.isUpper).getD false then (Text.cut? ">" rest).map (·.2)
    else if Text.startsWith t "<![CDATA[" then (Text.cut? "]]>" rest).map (·.2)
    else none
  | _ => none

/-! ### Blocks of HTML -/

/-- What ends a block of HTML. -/
inductive Ending where
  /-- A closing tag of one of the elements whose content is not HTML. -/
  | rawElement
  /-- A given text. -/
  | mark (text : Text)
  /-- A blank line. -/
  | blankLine
deriving DecidableEq, Repr, Inhabited

/-- The elements whose content is kept as it is up to the closing tag. -/
def rawElements : List Text := Text.words "script pre style textarea"

/-- The elements whose tags begin a block anywhere. -/
def blockElements : List Text :=
  ["address article aside base basefont blockquote body caption center col colgroup dd",
    "details dialog dir div dl dt fieldset figcaption figure footer form frame frameset h1 h2",
    "h3 h4 h5 h6 head header hr html iframe legend li link main menu menuitem meta nav",
    "noframes ol optgroup option p param search section summary table tbody td tfoot th thead",
    "title tr track ul"].flatMap Text.words

/-- Does the tag end here? -/
def tagEnds (t : Text) : Bool := Text.startsWith t ">" || Text.startsWith t "/>"

/-- Is the line over here? -/
def lineEnds (t : Text) : Bool := t.isEmpty || t == "\n" || t == "\r\n"

/-- A line in which the long s is a plain one: it is no other letter where letter case does not count. -/
def withPlainS (line : Text) : Text := Text.replaceAll "ſ" "s" line

/-- Does the line begin with a tag of one of the raw elements? -/
def startsRaw (line : Text) : Bool :=
  rawElements.any fun name =>
    match Text.afterIgnoringCase? (withPlainS line) ('<' :: name) with
    | some rest => rest.isEmpty || tagEnds rest || (rest.head?.map fun c => isGap c || c == 0x0c).getD false
    | none => false

/-- Does the line hold a closing tag of one of the raw elements? -/
def endsRaw (line : Text) : Bool :=
  rawElements.any fun name => Text.hasPart (Text.lower (withPlainS line)) ("</" ++ name ++ ">")

/-- The element name of a tag that begins a line, in lower case, with what follows it and whether it
is a closing tag with nothing before its name. -/
def leadingTag? (line : Text) : Option (Text × Text × Bool) := do
  let inner ← Text.after? line "<"
  let slash := inner.head? == some '/'
  let inner := if slash then inner.drop 1 else inner
  let closing := slash && inner.head? != some ' '
  let (name, rest) ← name? (if slash then Text.skip ' ' inner else inner)
  some (Text.lower name, rest, closing)

/-- Is the line a single whole tag, from what follows the name? -/
def isWholeTag (rest : Text) : Bool :=
  let after := Text.skip ' ' (attributes rest.length rest)
  match Text.after? (Text.dropStart after "/") ">" with
  | some tail => lineEnds (Text.skip ' ' tail)
  | none => false

/-- Do attributes follow the name? -/
def hasAttributes (rest : Text) : Bool := (attribute? rest).isSome

/-- How the block that a line begins will end, if the line begins one. Only some blocks may follow
the line of a paragraph at once. -/
def blockEnding? (line : Text) (afterParagraph : Bool) : Option Ending :=
  if startsRaw line then some .rawElement
  else if Text.startsWith line "<!--" then some (.mark "-->")
  else if Text.startsWith line "<?" then some (.mark "?>")
  else if Text.startsWith line "<!" && ((line.drop 2).head?.map Text.isUpper).getD false then
    some (.mark ">")
  else if Text.startsWith line "<![CDATA[" then some (.mark "]]>")
  else match leadingTag? line with
    | none => none
    | some (name, rest, closing) =>
      let whole := isWholeTag rest
      if blockElements.contains name then
        if whole || lineEnds rest || tagEnds rest || rest.head? == some ' ' then some .blankLine else none
      else if !afterParagraph && !(Text.words "script style pre").contains name && whole
          && !(closing && hasAttributes rest) then some .blankLine
      else none

/-- Does the line end a block with this ending? -/
def Ending.matches (e : Ending) (line : Text) : Bool :=
  match e with
  | .rawElement => endsRaw line
  | .mark text => Text.hasPart line text
  | .blankLine => line.all isGap

end RawTag

end Markdown

end Marginalia
