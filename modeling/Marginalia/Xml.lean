import Marginalia.Text.Symbols

/-!
Elements of XML, written with one element on a line and two blanks for each level.
-/

namespace Marginalia

namespace Xml

/-- The characters that XML allows. -/
def isAllowed (c : Char) : Bool :=
  let n := c.toNat
  n == 0x09 || n == 0x0a || n == 0x0d || (0x20 ≤ n && n ≤ 0xd7ff) || (0xe000 ≤ n && n ≤ 0xfffd) || 0x10000 ≤ n

/-- A character of a text; what XML does not allow is replaced. -/
def escapeChar (c : Char) : Text :=
  if c == '"' then "&#34;"
  else if c == '\x27' then "&#39;"
  else if c == '&' then "&amp;"
  else if c == '<' then "&lt;"
  else if c == '>' then "&gt;"
  else if c == '\t' then "&#x9;"
  else if c == '\n' then "&#xA;"
  else if c == '\r' then "&#xD;"
  else if isAllowed c then Text.ofChar c
  else Text.ofChar Text.replacement

/-- A text as content of an element. -/
def escape (t : Text) : Text := (Text.chars t).flatMap escapeChar

/-- The reference for an octet that markup could take for its own. -/
def markupReference? (c : UInt8) : Option Text :=
  if c == '&' then some "&amp;"
  else if c == Text.apostrophe then some "&#39;"
  else if c == '<' then some "&lt;"
  else if c == '>' then some "&gt;"
  else if c == '"' then some "&#34;"
  else none

/-- A text in which nothing can be taken for markup; all else stays as it is. -/
def escapeMarkup (t : Text) : Text := Text.replaceEach markupReference? t

/-- The beginning of a line at a level. -/
def margin (level : Nat) : Text := '\n' :: List.replicate (2 * level) ' '.toUInt8

/-- An element with a text, on a line of its own. -/
def element (level : Nat) (name content : Text) : Text :=
  margin level ++ "<" ++ name ++ ">" ++ escape content ++ "</" ++ name ++ ">"

/-- An element with a text, left out if the text is empty. -/
def element? (level : Nat) (name content : Text) : Text :=
  if content.isEmpty then [] else element level name content

/-- An element around others. -/
def around (level : Nat) (name inner : Text) : Text :=
  margin level ++ "<" ++ name ++ ">" ++ inner ++ margin level ++ "</" ++ name ++ ">"

end Xml

end Marginalia
