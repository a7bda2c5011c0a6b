import Marginalia.Html.NamedCharacters

/-!
Character references in HTML, such as `&amp;` and `&#8212;`. Some names are understood without the
semicolon that should end them.
-/

namespace Marginalia

namespace Html

/-- The characters that stand for the code points from 0x80 to 0x9f. -/
def legacyCodes : List Nat :=
  [0x20ac, 0x81, 0x201a, 0x192, 0x201e, 0x2026, 0x2020, 0x2021, 0x2c6, 0x2030, 0x160, 0x2039, 0x152, 0x8d,
    0x17d, 0x8f, 0x90, 0x2018, 0x2019, 0x201c, 0x201d, 0x2022, 0x2013, 0x2014, 0x2dc, 0x2122, 0x161,
    0x203a, 0x153, 0x9d, 0x17e, 0x178]

/-- The character of a number, which is counted in signed words of thirty-two bits. -/
def charOfNumber (n : Nat) : Char :=
  let word := n % 4294967296
  if word == 0 then Text.replacement
  else if 0x80 ≤ word && word ≤ 0x9f then Text.charOfCode (legacyCodes.getD (word - 0x80) 0)
  else Text.charOfCode word

/-- The character of a numeric reference, from what follows the ampersand and the number sign, and the
text behind it. A decimal number of one digit needs its semicolon. -/
def numeric? (t : Text) : Option (Text × Text) :=
  let hex := t.head? == some 'x' || t.head? == some 'X'
  let body := if hex then t.drop 1 else t
  let (digits, rest) := Text.span (if hex then Text.isHex else Text.isDigit) body
  let behind := Text.after? rest ";"
  let least := if hex then 0 else 1
  if t.length < 2 then none
  else if digits.length + (if behind.isSome then 1 else 0) ≤ least then none
  else
    some (Text.ofChar (charOfNumber (Text.digitsValue (if hex then 16 else 10) digits)), behind.getD rest)

/-- The longest name that needs no semicolon. -/
def longestBareName : Nat := 6

/-- The longest beginning of a name that is a name on its own, of at most `n` and at least two octets. -/
def bareBeginning? (name : Text) : (n : Nat) → Option Text
  | 0 => none
  | 1 => none
  | n + 2 =>
    if bareNames.contains (name.take (n + 2)) then some (name.take (n + 2))
    else bareBeginning? name (n + 1)

/-- The characters of a named reference, from what follows the ampersand, and the text behind it. In the
value of an attribute, a name that an equals sign follows is no reference, and the name has to be
whole. -/
def named? (inAttribute : Bool) (t : Text) : Option (Text × Text) :=
  let (name, rest) := Text.span Text.isAlnum t
  let whole : Option (Text × Text) :=
    match Text.after? rest ";" with
    | some behind => (namedCharacters.get? name).map fun chars => (chars, behind)
    | none =>
      if inAttribute && rest.head? == some '=' then none
      else if bareNames.contains name then (namedCharacters.get? name).map fun chars => (chars, rest)
      else none
  let limit := if (Text.after? rest ";").isSome then name.length else name.length - 1
  let part : Option (Text × Text) :=
    if inAttribute then none
    else (bareBeginning? name (min limit longestBareName)).bind fun start =>
      (namedCharacters.get? start).map fun chars => (chars, t.drop start.length)
  whole.or part

/-- The text with its character references resolved. -/
def unescapeFrom (inAttribute : Bool) : (fuel : Nat) → Text → Text
  | 0, _ => []
  | _ + 1, [] => []
  | fuel + 1, c :: t =>
    if c != '&' then c :: unescapeFrom inAttribute fuel t
    else
      let found := match Text.after? t "#" with
        | some digits => numeric? digits
        | none => named? inAttribute t
      match found with
      | some (chars, rest) => chars ++ unescapeFrom inAttribute fuel rest
      | none => c :: unescapeFrom inAttribute fuel t

/-- The text with its character references resolved. -/
def unescape (inAttribute : Bool) (t : Text) : Text := unescapeFrom inAttribute t.length t

/-- The reference that stands for an octet in text and in values of attributes. -/
def reference? (c : UInt8) : Option Text :=
  if c == '&' then some "&amp;"
  else if c == Text.apostrophe then some "&#39;"
  else if c == '<' then some "&lt;"
  else if c == '>' then some "&gt;"
  else if c == '"' then some "&#34;"
  else if c == '\r' then some "&#13;"
  else none

/-- A text as HTML. -/
def escape (t : Text) : Text := Text.replaceEach reference? t

end Html

end Marginalia
