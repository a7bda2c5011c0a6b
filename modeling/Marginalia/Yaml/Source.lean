import Marginalia.Text.Symbols

/-!
The characters of a document. The text is UTF-8, or UTF-16 if a mark says so, and holds no control
characters but tabs and line breaks. It is taken in blocks of octets, and a block with a wrong octet
ends it.
-/

namespace Marginalia

namespace Yaml

/-- May the character stand in a document? -/
def isAllowed (c : Char) : Bool :=
  let n := c.toNat
  n == 0x09 || n == 0x0a || n == 0x0d || (0x20 ≤ n && n ≤ 0x7e) || n == 0x85 || (0xa0 ≤ n && n ≤ 0xfffd) ||
    0x10000 ≤ n

/-- The characters of a document with the octet at which each begins; nothing for what is none. -/
abbrev Marked := List (Nat × Option Char)

/-- The characters of a text of UTF-8. -/
def markSymbols : (offset : Nat) → List Text.Symbol → Marked
  | _, [] => []
  | offset, .char c :: more =>
    (offset, if isAllowed c then some c else none) :: markSymbols (offset + c.utf8Size) more
  | offset, .stray _ :: more => (offset, none) :: markSymbols (offset + 1) more

/-- The characters of a text of UTF-16; `high` tells where in a pair of octets the high one stands. -/
def markUnits (highFirst : Bool) : (offset : Nat) → List Nat → Marked
  | _, [] => []
  | offset, [u] => [(offset, if 0xd800 ≤ u && u ≤ 0xdfff then none else some (Char.ofNat u))]
  | offset, u :: v :: more =>
    if 0xd800 ≤ u && u ≤ 0xdbff && 0xdc00 ≤ v && v ≤ 0xdfff then
      (offset, some (Char.ofNat (0x10000 + (u - 0xd800) * 1024 + (v - 0xdc00)))) ::
        markUnits highFirst (offset + 4) more
    else
      let c := if 0xd800 ≤ u && u ≤ 0xdfff then none else some (Char.ofNat u)
      (offset, c.filter isAllowed) :: markUnits highFirst (offset + 2) (v :: more)

/-- The units of a text of UTF-16. -/
def units (highFirst : Bool) : Text → List Nat
  | a :: b :: t =>
    (if highFirst then a.toNat * 256 + b.toNat else b.toNat * 256 + a.toNat) :: units highFirst t
  | [_] => [0xd800]
  | [] => []

/-- The characters of a document, without the mark of its encoding. -/
def marked (t : Text) : Marked :=
  match Text.after? t [0xff, 0xfe], Text.after? t [0xfe, 0xff], Text.after? t [0xef, 0xbb, 0xbf] with
  | some rest, _, _ => markUnits false 2 (units false rest)
  | _, some rest, _ => markUnits true 2 (units true rest)
  | _, _, some rest => markSymbols 3 (Text.symbols rest)
  | _, _, _ => markSymbols 0 (Text.symbols t)

/-- The octets that are taken at once. -/
def blockSize : Nat := 512

/-- The characters of a document that can be read: up to the end, or up to the block with the first
wrong octet. -/
structure Source where
  chars : List Char
  broken : Bool
  /-- A second mark of the encoding spoils the first block: lines between tokens that begin before this
  character lose their first one. -/
  spoilt : Nat := 0
deriving Repr

/-- How far a second mark of the encoding spoils a document: up to the last characters of its first block. -/
def spoiltLength (all : Marked) : Nat :=
  match all with
  | (_, some '\ufeff') :: _ => (all.takeWhile fun (k, _) => k < blockSize).length - 3
  | _ => 0

/-- Reads the characters of a text. -/
def Source.ofText (t : Text) : Source :=
  let all := marked t
  match all.find? fun (_, c) => c.isNone with
  | none => ⟨all.filterMap (·.2), false, spoiltLength all⟩
  | some (offset, _) =>
    let start := offset / blockSize * blockSize
    ⟨(all.takeWhile fun (k, _) => k < start).filterMap (·.2), true, spoiltLength all⟩

end Yaml

end Marginalia
