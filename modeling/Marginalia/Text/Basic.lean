/-!
Texts as sequences of octets. Source files, comment ids and file names may hold any octet, so a
text assumes no encoding; what reads characters out of it lives in `Text.Symbols`.
-/

namespace Marginalia

/-- A text is the sequence of its octets. -/
abbrev Text := List UInt8

instance octetOfChar : Coe Char UInt8 := ⟨Char.toUInt8⟩

namespace Text

/-- The octets of a string in UTF-8. -/
def ofString (s : String) : Text := s.toList.flatMap String.utf8EncodeChar

instance textOfString : Coe String Text := ⟨ofString⟩

/-- The least whole number that does not fit in 64 bits beside a sign. -/
def signedLimit : Nat := 0x8000000000000000

/-! ### Classes of octets -/

/-- The octet of the apostrophe. -/
def apostrophe : UInt8 := 0x27

/-- The octet of the grave accent. -/
def grave : UInt8 := 0x60

def isDigit (c : UInt8) : Bool := '0' ≤ c && c ≤ '9'

def isUpper (c : UInt8) : Bool := 'A' ≤ c && c ≤ 'Z'

def isLower (c : UInt8) : Bool := 'a' ≤ c && c ≤ 'z'

def isLetter (c : UInt8) : Bool := isUpper c || isLower c

def isAlnum (c : UInt8) : Bool := isLetter c || isDigit c

def isHex (c : UInt8) : Bool := isDigit c || ('a' ≤ c && c ≤ 'f') || ('A' ≤ c && c ≤ 'F')

/-- The six ASCII white space octets: tab, line feed, vertical tab, form feed, return and blank. -/
def isSpace (c : UInt8) : Bool := c == ' ' || (0x09 ≤ c && c ≤ 0x0d)

/-- The printable ASCII octets that are neither letters nor digits nor the blank. -/
def isPunctuation (c : UInt8) : Bool := 0x21 ≤ c && c ≤ 0x7e && !isAlnum c

def toLower (c : UInt8) : UInt8 := if isUpper c then c + 0x20 else c

def toUpper (c : UInt8) : UInt8 := if isLower c then c - 0x20 else c

/-- The ASCII letters in lower case, all else as it is. -/
def lower (t : Text) : Text := t.map toLower

/-- The value of a hexadecimal digit, and of any other octet zero. -/
def hexValue (c : UInt8) : Nat :=
  if isDigit c then (c - '0').toNat
  else if 'a' ≤ c && c ≤ 'f' then (c - 'a').toNat + 10
  else if 'A' ≤ c && c ≤ 'F' then (c - 'A').toNat + 10
  else 0

/-- The number that a run of digits of the given base writes. -/
def digitsValue (base : Nat) (t : Text) : Nat := t.foldl (fun n c => n * base + hexValue c) 0

/-! ### Numbers -/

/-- The decimal digits of a number. -/
def ofNat (n : Nat) : Text := ofString (toString n)

/-- The decimal form of an integer, with a minus sign below zero. -/
def ofInt (i : Int) : Text := if i < 0 then '-' :: ofNat i.natAbs else ofNat i.natAbs

/-- A text on at least `width` places, filled from the left. -/
def padLeft (width : Nat) (fill : UInt8) (t : Text) : Text :=
  List.replicate (width - t.length) fill ++ t

/-- The decimal digits of a number on at least `width` places. -/
def padNat (width n : Nat) : Text := padLeft width '0' (ofNat n)

/-- The digits of a number below sixteen and beyond, in lower case. -/
def ofNatHex (n : Nat) : Text := (Nat.toDigits 16 n).map Char.toUInt8

/-- Two hexadecimal digits in lower case. -/
def hexPair (c : UInt8) : Text := padLeft 2 '0' (ofNatHex c.toNat)

/-- The number that the text writes in decimal, if it is a non-empty run of digits. -/
def toNat? (t : Text) : Option Nat :=
  if !t.isEmpty && t.all isDigit then some (digitsValue 10 t) else none

/-! ### Beginnings and endings -/

/-- Does the text begin with `p`? -/
def startsWith (t p : Text) : Bool := p.isPrefixOf t

/-- Does the text end with `p`? -/
def endsWith (t p : Text) : Bool := p.isSuffixOf t

/-- What follows `p`, if the text begins with it. -/
def after? : (t p : Text) → Option Text
  | t, [] => some t
  | [], _ :: _ => none
  | c :: t, d :: p => if c == d then after? t p else none

/-- The text without one leading `p`. -/
def dropStart (t p : Text) : Text := (after? t p).getD t

/-- The text without one trailing `p`. -/
def dropEnd (t p : Text) : Text := if endsWith t p then t.take (t.length - p.length) else t

/-- What follows `p` in any letter case, if the text begins with it; `p` is in lower case. -/
def afterIgnoringCase? : (t p : Text) → Option Text
  | t, [] => some t
  | [], _ :: _ => none
  | c :: t, d :: p => if toLower c == d then afterIgnoringCase? t p else none

/-- The text without the leading octets of a class. -/
def stripLeft (drop : UInt8 → Bool) (t : Text) : Text := t.dropWhile drop

/-- The text without the trailing octets of a class. -/
def stripRight (drop : UInt8 → Bool) (t : Text) : Text := (t.reverse.dropWhile drop).reverse

/-- The text without the octets of a class at both ends. -/
def strip (drop : UInt8 → Bool) (t : Text) : Text := stripRight drop (stripLeft drop t)

/-- The text without the leading octets equal to `c`. -/
def skip (c : UInt8) (t : Text) : Text := t.dropWhile (· == c)

/-- The text up to the first octet equal to `c`. -/
def upTo (c : UInt8) (t : Text) : Text := t.takeWhile (· != c)

/-- The longest beginning made of a class, and the rest. -/
def span (p : UInt8 → Bool) (t : Text) : Text × Text := (t.takeWhile p, t.dropWhile p)

/-! ### Searching and splitting -/

/-- The text before and after the first occurrence of `sep`. -/
def cut? (sep : Text) : Text → Option (Text × Text)
  | [] => if sep.isEmpty then some ([], []) else none
  | c :: t =>
    match after? (c :: t) sep with
    | some rest => some ([], rest)
    | none => (cut? sep t).map fun (a, b) => (c :: a, b)

/-- The text before and after the last occurrence of `sep`. -/
def cutLast? (sep t : Text) : Option (Text × Text) :=
  (cut? sep.reverse t.reverse).map fun (a, b) => (b.reverse, a.reverse)

/-- Does `part` occur in the text? -/
def hasPart (t part : Text) : Bool := (cut? part t).isSome

/-- The pieces between the octets equal to `sep`; there is always at least one. -/
def splitOn (sep : UInt8) : Text → List Text
  | [] => [[]]
  | c :: t =>
    if c == sep then [] :: splitOn sep t
    else match splitOn sep t with
      | [] => [[c]]
      | p :: ps => (c :: p) :: ps

/-- The words of a string between blanks. -/
def words (s : String) : List Text := (splitOn ' ' s).filter (!·.isEmpty)

/-- The lines of a text, each with the line feed that ends it; a text that ends in a line feed has
no further empty line. -/
def lines : Text → List Text
  | [] => []
  | c :: t =>
    if c == '\n' then ['\n'] :: lines t
    else match lines t with
      | [] => [[c]]
      | l :: ls => (c :: l) :: ls

/-- Each octet replaced by a text. -/
def replaceEach (f : UInt8 → Option Text) (t : Text) : Text :=
  t.flatMap fun c => (f c).getD [c]

/-- The texts one after another with `sep` between them. -/
def join (sep : Text) (ts : List Text) : Text := (ts.intersperse sep).flatten

/-- Every occurrence of `old`, from the left and without overlap, replaced by `new`; the number
bounds the occurrences and the octets between them. -/
def replaceWithin (old new : Text) : Nat → Text → Text
  | 0, t => t
  | _ + 1, [] => []
  | n + 1, c :: t =>
    match after? (c :: t) old with
    | some rest => new ++ replaceWithin old new n rest
    | none => c :: replaceWithin old new n t

/-- Every occurrence of a non-empty `old`, from the left and without overlap, replaced by `new`. -/
def replaceAll (old new t : Text) : Text := replaceWithin old new t.length t

/-- The text if a condition holds, and nothing otherwise. -/
def onlyIf (b : Bool) (t : Text) : Text := if b then t else []

/-- The order of texts octet by octet, a beginning before what it begins. -/
def order (a b : Text) : Ordering := compare a b

end Text

end Marginalia
