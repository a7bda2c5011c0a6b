import Marginalia.Text.Symbols
import Marginalia.Text.Printable

/-!
The quoted form of a text in messages: double quotes around it, and an escape for every symbol that
would not be seen.
-/

namespace Marginalia

namespace Text

/-- The escapes of one letter, for the control characters that have one. -/
def controlLetter? (c : Char) : Option Char :=
  match c.toNat with
  | 0x07 => some 'a'
  | 0x08 => some 'b'
  | 0x0c => some 'f'
  | 0x0a => some 'n'
  | 0x0d => some 'r'
  | 0x09 => some 't'
  | 0x0b => some 'v'
  | _ => none

/-- One symbol inside quotes: quote and backslash after a backslash, what is printable as itself,
the rest by its letter or its code point, a stray octet by its value. -/
def quotedSymbol : Symbol → Text
  | .stray b => "\\x" ++ hexPair b
  | .char c =>
    if c == '"' || c == '\\' then ['\\', c]
    else if isPrintable c then ofChar c
    else match controlLetter? c with
      | some l => ['\\', l]
      | none =>
        let n := c.toNat
        if n < 0x20 || n == 0x7f then "\\x" ++ padLeft 2 '0' (ofNatHex n)
        else if n < 0x10000 then "\\u" ++ padLeft 4 '0' (ofNatHex n)
        else "\\U" ++ padLeft 8 '0' (ofNatHex n)

/-- The quoted form of a text. -/
def quoted (t : Text) : Text := '"' :: ((symbols t).flatMap quotedSymbol ++ "\"")

end Text

end Marginalia
