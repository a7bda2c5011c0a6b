import Marginalia.Text.Symbols

/-!
Data as JSON, on one line and without blanks. Strings are safe inside markup: angle brackets and ampersands are
written as escapes, and so are the two separators that end a line in scripts.
-/

namespace Marginalia

namespace Json

/-- A code point as an escape of four digits. -/
def codeEscape (n : Nat) : Text := "\\u" ++ Text.padLeft 4 '0' (Text.ofNatHex n)

/-- A character that stands in a string as it is. -/
def isPlain (c : Char) : Bool :=
  0x20 ≤ c.toNat && c != '"' && c != '\\' && c != '<' && c != '>' && c != '&' && c != '\u2028' && c != '\u2029'

/-- A character inside a string. -/
def escapeChar (c : Char) : Text :=
  if c == '"' || c == '\\' then '\\' :: Text.ofChar c
  else if c == '\n' then "\\n"
  else if c == '\r' then "\\r"
  else if c == '\t' then "\\t"
  else if c == '\x08' then "\\b"
  else if c == '\x0c' then "\\f"
  else if isPlain c then Text.ofChar c
  else codeEscape c.toNat

/-- A symbol inside a string; a stray octet counts as the replacement character. -/
def escapeSymbol : Text.Symbol → Text
  | .char c => escapeChar c
  | .stray _ => codeEscape Text.replacement.toNat

/-- A string. -/
def string (t : Text) : Text := "\"" ++ (Text.symbols t).flatMap escapeSymbol ++ "\""

/-- A number. -/
def number (i : Int) : Text := Text.ofInt i

/-- A list of values. -/
def array (values : List Text) : Text := "[" ++ Text.join "," values ++ "]"

/-- A record of named values. -/
def object (fields : List (Text × Text)) : Text :=
  "\x7b" ++ Text.join "," (fields.map fun (name, value) => string name ++ ":" ++ value) ++ "\x7d"

end Json

end Marginalia
