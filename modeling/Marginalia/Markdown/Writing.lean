import Marginalia.Html.NamedCharacters

/-!
How text and addresses are written into HTML: backslashes and character references are resolved, and
what has a meaning in HTML or in an address is escaped.
-/

namespace Marginalia

namespace Markdown

/-- The reference that stands for an octet in HTML, if it needs one. -/
def reference? (c : UInt8) : Option Text :=
  if c == '"' then some "&quot;"
  else if c == '&' then some "&amp;"
  else if c == '<' then some "&lt;"
  else if c == '>' then some "&gt;"
  else none

/-- A text as HTML. -/
def escaped (t : Text) : Text := Text.replaceEach reference? t

/-- The number a run of decimal digits stands for in an address. A leading zero makes it octal, and no number
with a digit above seven. -/
def addressCode (digits : Text) : Nat :=
  if digits.head? == some '0' then
    if digits.all (fun c : UInt8 => c < '8') then Text.digitsValue 8 digits else 0
  else Text.digitsValue 10 digits

/-- The character of a number; the replacement character for zero. -/
def charOfReference (n : Nat) : Text :=
  Text.ofChar (if n == 0 then Text.replacement else Text.charOfCode n)

/-- A number after an ampersand and a number sign, and the text behind the semicolon. At most `hexLimit`
hexadecimal and seven decimal digits count; `decimal` gives the number of the latter. -/
def numericReference? (hexLimit : Nat) (decimal : Text → Nat) (t : Text) : Option (Text × Text) :=
  match t with
  | [] => none
  | c :: rest =>
    let hex := c == 'x' || c == 'X'
    let (digits, after) := if hex then Text.span Text.isHex rest else Text.span Text.isDigit t
    let limit := if hex then hexLimit else 7
    if digits.isEmpty || limit < digits.length then none
    else (Text.after? after ";").map fun behind =>
      (charOfReference (if hex then Text.digitsValue 16 digits else decimal digits), behind)

/-- A name after an ampersand, and the text behind the semicolon. -/
def namedReference? (t : Text) : Option (Text × Text) :=
  let (name, after) := Text.span Text.isAlnum t
  match Text.after? after ";", Html.namedCharacters.get? name with
  | some behind, some chars => some (chars, behind)
  | _, _ => none

/-- The octets that a character reference behind an ampersand stands for, and the text behind it. -/
def characterReference? (t : Text) : Option (Text × Text) :=
  match Text.after? t "#" with
  | some digits => numericReference? 6 (Text.digitsValue 10) digits
  | none => namedReference? t

/-- Running text as HTML. -/
def writeFrom : (fuel : Nat) → Text → Text
  | 0, _ => []
  | _ + 1, [] => []
  | fuel + 1, c :: t =>
    if c == 0 then Text.ofChar Text.replacement ++ writeFrom fuel t
    else if c == '\\' then
      match t with
      | [] => [c]
      | d :: rest => if Text.isPunctuation d then escaped [d] ++ writeFrom fuel rest else c :: writeFrom fuel t
    else if c == '&' then
      match characterReference? t with
      | some (chars, rest) => escaped chars ++ writeFrom fuel rest
      | none => escaped [c] ++ writeFrom fuel t
    else escaped [c] ++ writeFrom fuel t

/-- Running text as HTML. -/
def write (t : Text) : Text := writeFrom t.length t

/-! ### Addresses -/

/-- The text without the backslashes in front of punctuation. -/
def withoutBackslashes : (slash : Bool) → Text → Text
  | slash, [] => if slash then "\\" else ""
  | slash, c :: t =>
    if slash then
      if Text.isPunctuation c then c :: withoutBackslashes false t
      else '\\'.toUInt8 :: c :: withoutBackslashes false t
    else if c == '\\' then withoutBackslashes true t
    else c :: withoutBackslashes false t

/-- The text with references of one kind resolved. -/
def resolve (reference? : Text → Option (Text × Text)) : (fuel : Nat) → Text → Text
  | 0, _ => []
  | _ + 1, [] => []
  | fuel + 1, c :: t =>
    match (if c == '&' then reference? t else none) with
    | some (chars, rest) => chars ++ resolve reference? fuel rest
    | none => c :: resolve reference? fuel t

/-- A destination with its escapes and references resolved. -/
def resolveDestination (t : Text) : Text :=
  let t := withoutBackslashes false t
  let t := resolve (fun t => (Text.after? t "#").bind (numericReference? t.length addressCode)) t.length t
  resolve namedReference? t.length t

/-- May the octet stand in an address as it is? -/
def isAddressOctet (c : UInt8) : Bool := Text.isAlnum c || ("!#$&()*+,-./:;=?@_~" : Text).contains c || c == Text.apostrophe

/-- An octet as a percent sign and two digits. -/
def percent (c : UInt8) : Text := '%'.toUInt8 :: (Text.hexPair c).map Text.toUpper

/-- How many octets a character that begins with this one claims to have; nothing where none begins. -/
def sequenceLength? (c : UInt8) : Option Nat :=
  if c < 0x80 then some 1 else if c < 0xc0 then none else if c < 0xe0 then some 2
  else if c < 0xf0 then some 3 else if c < 0xf8 then some 4 else none

/-- An octet of a character in an address: letters, digits and a few signs stay, a blank becomes a plus. -/
def writeOctet (c : UInt8) : Text :=
  if Text.isAlnum c || ("-_.~" : Text).contains c then [c] else if c == ' ' then "+" else percent c

/-- An address with percent signs for what may not stand in it. What is written with percent signs
already stays; octets that begin no character stay, a character that is cut off is dropped. `size` is the
length of the whole address, and all but one octet of it is the most that a character may claim. -/
def writeAddressFrom (size : Nat) : (fuel : Nat) → Text → Text
  | 0, _ => []
  | _ + 1, [] => []
  | fuel + 1, c :: t =>
    if isAddressOctet c then c :: writeAddressFrom size fuel t
    else if c == ' ' then percent c ++ writeAddressFrom size fuel t
    else
      let kept := c == '%' && 2 ≤ t.length && (t.head?.map Text.isHex).getD false
      if kept then c :: t.take 2 ++ writeAddressFrom size fuel (t.drop 2)
      else match sequenceLength? c with
        | none => c :: writeAddressFrom size fuel t
        | some claimed =>
          let n := if size < claimed then size - 1 else claimed
          if n == 0 then c :: writeAddressFrom size fuel t
          else if t.length + 1 < n then writeAddressFrom size fuel t
          else (c :: t.take (n - 1)).flatMap writeOctet ++ writeAddressFrom size fuel (t.drop (n - 1))

/-- An address as HTML. -/
def writeAddress (t : Text) : Text := escaped (writeAddressFrom t.length t.length t)

/-- The kinds of images whose data may stand in an address. -/
def imageTypes : List Text := Text.words "png; gif; jpeg; webp; svg+xml;"

/-- Does an address run a script or read what is on the reader's machine? -/
def isDangerous (destination : Text) : Bool :=
  match Text.afterIgnoringCase? destination "data:image/" with
  | some rest => !imageTypes.any fun type => (Text.afterIgnoringCase? rest type).isSome
  | none =>
    (Text.words "javascript: vbscript: file: data:").any fun scheme =>
      (Text.afterIgnoringCase? destination scheme).isSome

end Markdown

end Marginalia
