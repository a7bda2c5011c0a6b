import Marginalia.Calendar.Layout
import Marginalia.Yaml.Node

/-!
What scalars stand for. A plain scalar may be nothing, a truth value, a number or a moment; a tag says what
it must be.
-/

namespace Marginalia

namespace Yaml

/-- What a scalar stands for. -/
inductive ScalarKind where
  | null
  | bool
  | int
  /-- A whole number beyond those that have a sign. -/
  | largeInt
  | float
  | timestamp
  | string
deriving DecidableEq

/-- The words for nothing. -/
def nullWords : List Text := [[], "~", "null", "Null", "NULL"]

def boolWords : List Text := Text.words "true True TRUE false False FALSE"

/-- The words for what is no finite number. -/
def floatWords : List Text :=
  Text.words ".nan .NaN .NAN .inf .Inf .INF +.inf +.Inf +.INF -.inf -.Inf -.INF"

/-- Four digits and a dash begin a moment. -/
def timestampLayouts : List Text :=
  ["2006-1-2T15:4:5.999999999Z07:00", "2006-1-2t15:4:5.999999999Z07:00", "2006-1-2 15:4:5.999999999", "2006-1-2"]

def isTimestamp (t : Text) : Bool :=
  (t.takeWhile Text.isDigit).length == 4 && (t.drop 4).head? == some '-'.toUInt8 &&
    timestampLayouts.any fun l => (Layout.read l t).isSome

/-- The digits of a base behind its sign, and the value they write. -/
def basedValue? (base : Nat) (digits : Text) : Option Nat :=
  if digits.isEmpty || !digits.all fun c => Text.isHex c && Text.hexValue c < base then none
  else some (Text.digitsValue base digits)

/-- The size of a whole number without its sign: decimal, or with the mark of another base; a leading zero
alone marks base eight. -/
def integerSize? (t : Text) : Option Nat :=
  match Text.afterIgnoringCase? t "0x", Text.afterIgnoringCase? t "0b", Text.afterIgnoringCase? t "0o" with
  | some digits, _, _ => basedValue? 16 digits
  | _, some digits, _ => basedValue? 2 digits
  | _, _, some digits => basedValue? 8 digits
  | _, _, _ =>
    match t with
    | c :: d :: rest => if c == '0' then basedValue? 8 (d :: rest) else basedValue? 10 t
    | _ => basedValue? 10 t

/-- The kind of a whole number, if the text is one. Low lines between digits do not count. -/
def integerKind? (t : Text) : Option ScalarKind :=
  let t := t.filter fun c : UInt8 => c != '_'
  let isNegative := t.head? == some '-'.toUInt8
  let hasSign := isNegative || t.head? == some '+'.toUInt8
  match integerSize? (if hasSign then t.drop 1 else t) with
  | none => none
  | some n =>
    if n < Text.signedLimit || (isNegative && n == Text.signedLimit) then some .int
    else if !hasSign && n < 2 * Text.signedLimit then some .largeInt
    else none

/-- Is the text a decimal number with a point or an exponent? -/
def isFloat (t : Text) : Bool :=
  let t := t.filter fun c : UInt8 => c != '_'
  let t := if t.head? == some '-'.toUInt8 || t.head? == some '+'.toUInt8 then t.drop 1 else t
  let (whole, t) := Text.span Text.isDigit t
  let (part, t) := match t with
    | c :: rest => if c == '.' then Text.span Text.isDigit rest else ([], t)
    | [] => ([], [])
  let exponent := match t with
    | [] => true
    | c :: rest =>
      let digits := if rest.head? == some '-'.toUInt8 || rest.head? == some '+'.toUInt8 then rest.drop 1 else rest
      (c == 'e' || c == 'E') && !digits.isEmpty && digits.all Text.isDigit
  !(whole.isEmpty && part.isEmpty) && exponent

/-- What a plain scalar stands for; moments only if they may be meant. -/
def plainKind (timestamps : Bool) (t : Text) : ScalarKind :=
  if nullWords.contains t then .null
  else if boolWords.contains t then .bool
  else if floatWords.contains t then .float
  else
    let begins (p : UInt8 → Bool) : Bool := t.head?.any p
    if begins fun c => Text.isDigit c || c == '+' || c == '-' then
      if timestamps && isTimestamp t then .timestamp
      else match integerKind? t with
        | some k => k
        | none => if isFloat t then .float else .string
    else if begins (· == '.'.toUInt8) && isFloat t then .float
    else .string

/-! ### Base 64 -/

/-- The value of a digit of base 64. -/
def sextet? (c : UInt8) : Option Nat :=
  if Text.isUpper c then some (c.toNat - 65)
  else if Text.isLower c then some (c.toNat - 71)
  else if Text.isDigit c then some (c.toNat + 4)
  else if c == '+' then some 62
  else if c == '/' then some 63
  else none

/-- Octets written in groups of four digits of base 64. -/
def decodeGroups : Text → Option Text
  | [] => some []
  | a :: b :: c :: d :: rest => do
    let x ← sextet? a
    let y ← sextet? b
    if c == '=' && d == '=' && rest.isEmpty then some [UInt8.ofNat (x * 4 + y / 16)]
    else
      let z ← sextet? c
      if d == '=' && rest.isEmpty then some [UInt8.ofNat (x * 4 + y / 16), UInt8.ofNat (y * 16 + z / 4)]
      else
        let w ← sextet? d
        let more ← decodeGroups rest
        some (UInt8.ofNat (x * 4 + y / 16) :: UInt8.ofNat (y * 16 + z / 4) :: UInt8.ofNat (z * 64 + w) :: more)
  | _ => none

/-- Octets written in base 64; line breaks do not count. -/
def decodeBase64? (t : Text) : Option Text := decodeGroups (t.filter fun c : UInt8 => c != '\n' && c != '\r')

/-! ### Scalars as text -/

/-- What a scalar gives for a field of text. -/
inductive FieldValue where
  | nothing
  | text (t : Text)
  | wrong
deriving DecidableEq

/-- The text of a scalar. A tag of the language must fit what is written. -/
def scalarText (tag : Text) (plain : Bool) (value : Text) : FieldValue :=
  let fits (k : List ScalarKind) (timestamps : Bool) : FieldValue :=
    if k.contains (plainKind timestamps value) then .text value else .wrong
  if tag.isEmpty then
    if plain && plainKind true value == .null then .nothing else .text value
  else if tag == "!!str" then .text value
  else if tag == "!!null" then if plainKind false value == .null then .nothing else .wrong
  else if tag == "!!bool" then fits [.bool] false
  else if tag == "!!int" then fits [.int, .largeInt] false
  else if tag == "!!float" then fits [.float, .int] false
  else if tag == "!!timestamp" then fits [.timestamp] true
  else if tag == "!!binary" then
    match decodeBase64? value with
    | some t => .text t
    | none => .wrong
  else .text value

end Yaml

end Marginalia
