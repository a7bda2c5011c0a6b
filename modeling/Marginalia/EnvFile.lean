import Marginalia.Text.Symbols
import Marginalia.Config

/-!
Files of environment variables: one `NAME=value` a statement, with comments, quoted values that may
span lines, escapes, and references to names set earlier in the file.
-/

namespace Marginalia

namespace EnvFile

/-- White space within a line. -/
def isBlankCode (n : Nat) : Bool :=
  n == 0x09 || n == 0x0b || n == 0x0c || n == 0x0d || n == 0x20 || n == 0x85 || n == 0xa0

def isBlankSymbol : Text.Symbol → Bool
  | .char c => isBlankCode c.toNat
  | .stray _ => false

/-- The text without the blanks in front. -/
def skipBlanks (t : Text) : Text := Text.ofSymbols ((Text.symbols t).dropWhile isBlankSymbol)

/-- The text without the blanks at both ends. -/
def stripBlanks (t : Text) : Text :=
  let inner := (Text.symbols t).dropWhile isBlankSymbol
  Text.ofSymbols (inner.reverse.dropWhile isBlankSymbol).reverse

/-- May an octet stand in a name? Octets beyond ASCII count as the letters and numbers that have
their code point. -/
def isNameOctet (c : UInt8) : Bool :=
  Text.isAlnum c || c == '_' || c == '.' || c == 0xaa || c == 0xb5 || c == 0xba || c == 0xb2 ||
    c == 0xb3 || c == 0xb9 || (0xbc ≤ c && c ≤ 0xbe) || (0xc0 ≤ c && c != 0xd7 && c != 0xf7)

/-- Skips white space and comments up to the next statement. -/
def statement? : (fuel : Nat) → Text → Option Text
  | 0, _ => none
  | fuel + 1, t =>
    let rest := Text.ofSymbols ((Text.symbols t).dropWhile Text.Symbol.isSpace)
    match rest with
    | [] => none
    | c :: _ => if c == '#' then statement? fuel (rest.dropWhile (· != '\n')) else some rest

/-- The text without the word that may stand in front of a name. -/
def skipExport (t : Text) : Text :=
  match Text.after? t "export" with
  | some rest =>
    match Text.symbols rest with
    | s :: _ => if isBlankSymbol s then skipBlanks rest else t
    | [] => t
  | none => t

/-- The name at the head of a statement and what follows its sign; no name where there is no sign,
nothing where an octet of the name is not allowed. -/
def name? : Text → Option (Option (Text × Text))
  | [] => some none
  | c :: t =>
    if c == '=' || c == ':' then some (some ([], t))
    else if isBlankCode c.toNat || isNameOctet c then
      (name? t).map fun found => found.map fun (name, rest) => (c :: name, rest)
    else none

/-- What stands in front of the last comment sign that follows a blank, if there is one. -/
def beforeComment? : (previousBlank : Bool) → List Char → Option (List Char)
  | _, [] => none
  | blank, c :: cs =>
    match beforeComment? (isBlankCode c.toNat) cs with
    | some before => some (c :: before)
    | none => if c == '#' && blank then some [] else none

/-- An unquoted value without the comment at its end. -/
def beforeComment (cs : List Char) : List Char := (beforeComment? false cs).getD cs

/-- The value of a name set so far. -/
def lookup (vars : Config.Environment) (name : Text) : Text := Config.value vars name

def isReferenceOctet (c : UInt8) : Bool := Text.isUpper c || Text.isDigit c || c == '_'

/-- One optional octet. -/
def optional (c : UInt8) : Text → Text × Text
  | [] => ([], [])
  | d :: t => if d == c then ([d], t) else ([], d :: t)

/-- A reference after its dollar sign: how it is written, the name it holds, and the rest. -/
def reference (t : Text) : Text × Text × Text :=
  let (a, t) := optional '(' t
  let (b, t) := optional 0x7b t
  let (name, t) := Text.span isReferenceOctet t
  let (c, t) := optional 0x7d t
  (a ++ b ++ name ++ c, name, t)

/-- Replaces the references to names; one behind a backslash stays and loses the backslash. -/
def expand (vars : Config.Environment) : (fuel : Nat) → Text → Text
  | 0, t => t
  | _ + 1, [] => []
  | fuel + 1, c :: t =>
    if c == '$' then
      let (written, name, rest) := reference t
      (if name.isEmpty then c :: written else lookup vars name) ++ expand vars fuel rest
    else if c == '\\' && t.head? == some '$' then
      let (written, _, rest) := reference (t.drop 1)
      '$' :: (written ++ expand vars fuel rest)
    else c :: expand vars fuel t

/-- The line breaks that are written as a backslash and a letter. -/
def breakEscapes : Text → Text
  | [] => []
  | [c] => [c]
  | c :: d :: t =>
    if c == '\\' && d != '\n' then
      if d == 'n' then '\n' :: breakEscapes t
      else if d == 'r' then '\r' :: breakEscapes t
      else c :: d :: breakEscapes t
    else c :: breakEscapes (d :: t)

/-- Drops each backslash that is not in front of a dollar sign. -/
def dropBackslashes : Text → Text
  | [] => []
  | [c] => [c]
  | c :: d :: t =>
    if c == '\\' && d != '$' then d :: dropBackslashes t
    else c :: dropBackslashes (d :: t)

/-- The octets up to the closing quote and what follows it; a quote behind a backslash does not
close. -/
def closing? (quote : UInt8) : (previous : UInt8) → Text → Option (Text × Text)
  | _, [] => none
  | previous, c :: t =>
    if c == quote && previous != '\\' then some ([], t)
    else (closing? quote c t).map fun (a, b) => (c :: a, b)

/-- The value at the head of a text and what follows it; nothing for a quote that is not closed. -/
def value? (vars : Config.Environment) (t : Text) : Option (Text × Text) :=
  match t with
  | [] => some ([], [])
  | c :: rest =>
    if c == '"' || c == Text.apostrophe then
      (closing? c c rest).map fun (inner, after) =>
        let inner := Text.strip (· == c) inner
        let inner :=
          if c == '"' then
            let plain := dropBackslashes (breakEscapes inner)
            expand vars (plain.length + 1) plain
          else inner
        (inner, after)
    else
      let (line, after) := Text.span (fun c => c != '\n' && c != '\r') t
      let inner := stripBlanks (Text.ofChars (beforeComment (Text.chars line)))
      some (expand vars (inner.length + 1) inner, after)

/-- The variables of the statements of a text, in order. -/
def statements : (fuel : Nat) → Config.Environment → Text → Option Config.Environment
  | 0, vars, _ => some vars
  | fuel + 1, vars, t =>
    match statement? (t.length + 1) t with
    | none => some vars
    | some t =>
      let t := skipExport (skipBlanks t)
      if t.isEmpty then none else
      match name? t with
      | none => none
      | some found =>
        let (name, rest) := found.getD ([], t)
        let trimmed := Text.ofSymbols
          ((Text.symbols name).reverse.dropWhile Text.Symbol.isSpace).reverse
        match value? vars (skipBlanks rest) with
        | none => none
        | some (value, after) => statements fuel (vars ++ [(trimmed, value)]) after

/-- The variables that a file sets, or nothing if it cannot be read. -/
def parse? (t : Text) : Option Config.Environment :=
  let t := Text.replaceAll "\r\n" "\n" t
  statements (t.length + 1) [] t

/-- The environment with the variables of a file added; what is set already stays, and a value with an octet
that is zero cannot be set. Of several values for a name the last one counts. -/
def extend (env vars : Config.Environment) : Config.Environment :=
  let last := vars.filter fun (n, v) => v == lookup vars n
  last.filter (fun (n, v) => !env.any (·.1 == n) && !v.contains 0) ++ env

end EnvFile

end Marginalia
