import Marginalia.Text.Basic

/-!
Characters of a text. The octets are read as UTF-8; an octet that begins no well-formed sequence
stands for itself as a stray, so nothing of the text is lost.
-/

namespace Marginalia

namespace Text

/-- One unit of a text: a character, or an octet that belongs to none. -/
inductive Symbol where
  | char (c : Char)
  | stray (b : UInt8)
deriving DecidableEq, Repr, Inhabited

/-- The character read for a stray octet. -/
def replacement : Char := '\uFFFD'

namespace Symbol

/-- The octets the symbol was read from. -/
def octets : Symbol → Text
  | .char c => String.utf8EncodeChar c
  | .stray b => [b]

/-- The character, with the replacement character for a stray octet. -/
def toChar : Symbol → Char
  | .char c => c
  | .stray _ => replacement

/-- The code point, with that of the replacement character for a stray octet. -/
def code (s : Symbol) : Nat := s.toChar.toNat

end Symbol

/-- Is this an octet that continues a sequence? -/
def isTail (b : UInt8) : Bool := 0x80 ≤ b && b ≤ 0xbf

/-- The code point of a sequence: the payload of the first octet, then six bits for each tail. -/
def assemble (payload : UInt8) (tails : Text) : Nat :=
  tails.foldl (fun n b => n * 64 + (b &&& 0x3f).toNat) payload.toNat

/-- The first symbol of a text and what follows it. -/
def next? : Text → Option (Symbol × Text)
  | [] => none
  | a :: t =>
    let stray := some (Symbol.stray a, t)
    if a < 0x80 then some (.char (Char.ofNat a.toNat), t)
    else if 0xc2 ≤ a && a ≤ 0xdf then
      match t with
      | b :: t' => if isTail b then some (.char (Char.ofNat (assemble (a &&& 0x1f) [b])), t') else stray
      | _ => stray
    else if 0xe0 ≤ a && a ≤ 0xef then
      match t with
      | b :: c :: t' =>
        let low := if a == 0xe0 then 0xa0 else 0x80
        let high := if a == 0xed then 0x9f else 0xbf
        if low ≤ b && b ≤ high && isTail c then
          some (.char (Char.ofNat (assemble (a &&& 0x0f) [b, c])), t')
        else stray
      | _ => stray
    else if 0xf0 ≤ a && a ≤ 0xf4 then
      match t with
      | b :: c :: d :: t' =>
        let low := if a == 0xf0 then 0x90 else 0x80
        let high := if a == 0xf4 then 0x8f else 0xbf
        if low ≤ b && b ≤ high && isTail c && isTail d then
          some (.char (Char.ofNat (assemble (a &&& 0x07) [b, c, d])), t')
        else stray
      | _ => stray
    else stray

theorem length_of_next? {t rest : Text} {s : Symbol} (h : next? t = some (s, rest)) :
    rest.length < t.length := by
  unfold next? at h
  grind

/-- The symbols of a text, in order. -/
def symbols (t : Text) : List Symbol :=
  match _h : next? t with
  | none => []
  | some (s, rest) => s :: symbols rest
termination_by t.length
decreasing_by exact length_of_next? _h

/-- The text of a list of symbols. -/
def ofSymbols (ss : List Symbol) : Text := ss.flatMap Symbol.octets

/-- The characters of a text, with the replacement character for each stray octet. -/
def chars (t : Text) : List Char := (symbols t).map Symbol.toChar

/-- The text of a list of characters. -/
def ofChars (cs : List Char) : Text := cs.flatMap String.utf8EncodeChar

/-- The text of one character. -/
def ofChar (c : Char) : Text := String.utf8EncodeChar c

/-- The character with a code point, and the replacement character where there is none. -/
def charOfCode (n : Nat) : Char := if n.isValidChar then Char.ofNat n else replacement

/-- Is the text well-formed UTF-8? -/
def isWellFormed (t : Text) : Bool :=
  (symbols t).all fun s => match s with
    | .char _ => true
    | .stray _ => false

/-! ### White space of any script -/

/-- The characters that Unicode counts as white space. -/
def isUnicodeSpace (c : Char) : Bool :=
  let n := c.toNat
  (0x09 ≤ n && n ≤ 0x0d) || n == 0x20 || n == 0x85 || n == 0xa0 || n == 0x1680 ||
    (0x2000 ≤ n && n ≤ 0x200a) || n == 0x2028 || n == 0x2029 || n == 0x202f || n == 0x205f ||
    n == 0x3000

def Symbol.isSpace : Symbol → Bool
  | .char c => isUnicodeSpace c
  | .stray _ => false

/-- The text without the white space of any script at both ends. -/
def trim (t : Text) : Text :=
  let inner := (symbols t).dropWhile Symbol.isSpace
  ofSymbols (inner.reverse.dropWhile Symbol.isSpace).reverse

end Text

end Marginalia
