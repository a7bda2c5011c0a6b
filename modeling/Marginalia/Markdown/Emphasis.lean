import Marginalia.Markdown.Inline
import Marginalia.Text.Punctuation

/-!
Emphasis: runs of stars, low lines and tildes, and how an opening run is matched with a closing one.
-/

namespace Marginalia

namespace Markdown

/-- A run of one sign that may open or close emphasis. -/
structure Run where
  sign : UInt8
  /-- The signs that are still to be matched. -/
  length : Nat
  /-- The signs in the source. -/
  full : Nat
  canOpen : Bool
  canClose : Bool
deriving DecidableEq, Repr, Inhabited

/-- A piece of a text in which emphasis is still to be matched. -/
inductive Piece where
  | inline (i : Inline)
  | run (r : Run)
deriving Repr, Inhabited

namespace Run

/-- Reads the run at the head of a line by the characters around it. -/
def ofLine (before : Char) (line : Text) : Run :=
  let sign := line.headD 0
  let signs := line.takeWhile (· == sign)
  let rest := line.drop signs.length
  let after : Char := match rest.head?, Text.next? rest with
    | some c, some (s, _) => if Text.isTail c then Char.ofNat sign.toNat else s.toChar
    | _, _ => ' '
  let spaceBefore := Text.isUnicodeSpace before
  let spaceAfter := Text.isUnicodeSpace after
  let signBefore := Text.isPunctuationChar before
  let signAfter := Text.isPunctuationChar after
  let left := !spaceAfter && (!signAfter || spaceBefore || signBefore)
  let right := !spaceBefore && (!signBefore || spaceAfter || signAfter)
  let inner := sign == '_'
  ⟨sign, signs.length, signs.length, left && (!inner || !right || signBefore),
    right && (!inner || !left || signAfter)⟩

/-- The signs that are left, as text. -/
def rest (r : Run) : Inline := .text (List.replicate r.length r.sign)

/-- How many signs of an opening and of a closing run go together. Runs that could both open and close
do not go together if their full lengths add up to a multiple of three, unless both are such multiples
themselves. -/
def share (opener closer : Run) : Nat :=
  if (opener.canClose || closer.canOpen) && (opener.full + closer.full) % 3 == 0 && closer.full % 3 != 0 then 0
  else if 2 ≤ opener.length && 2 ≤ closer.length then 2
  else 1

/-- What matched runs make of what is between them. -/
def wrap (sign : UInt8) (share : Nat) (inner : List Inline) : Inline :=
  if sign == '~' then .strike inner else if share == 2 then .strong inner else .emphasis inner

end Run

/-- Pieces as they stand, unmatched runs as text. -/
def Piece.settled : Piece → Inline
  | .inline i => i
  | .run r => r.rest

/-- Splits the pieces before a closing run, the nearest first, at the run that opens it: the pieces
between, the opening run and the pieces before it. -/
def opener? (closer : Run) : (between : List Piece) → List Piece → Option (List Piece × Run × List Piece)
  | _, [] => none
  | between, p :: ps =>
    match p with
    | .run r =>
      if r.canOpen && r.sign == closer.sign && r.share closer != 0 then some (between, r, ps)
      else opener? closer (p :: between) ps
    | .inline _ => opener? closer (p :: between) ps

/-- Is there a run before a closing one that could open it but for its length? -/
def mayBeOpened (closer : Run) (before : List Piece) : Bool :=
  before.any fun p => match p with
    | .run r => r.canOpen && r.sign == closer.sign
    | .inline _ => false

/-- Matches a closing run with the pieces before it, the nearest first, as often as it can. -/
def close : (fuel : Nat) → Run → List Piece → List Piece
  | 0, r, before => .run r :: before
  | fuel + 1, r, before =>
    if r.length == 0 then before
    else match opener? r [] before with
      | none => if mayBeOpened r before || r.canOpen then .run r :: before else .inline r.rest :: before
      | some (between, opener, rest) =>
        let n := opener.share r
        let left := opener.length - n
        let rest := if left == 0 then rest else .run { opener with length := left } :: rest
        let node := Run.wrap r.sign n (between.map Piece.settled)
        close fuel { r with length := r.length - n } (.inline node :: rest)

/-- Matches all runs of a text from its beginning. -/
def matchRuns (pieces : List Piece) : List Inline :=
  let step (before : List Piece) (p : Piece) : List Piece :=
    match p with
    | .run r => if r.canClose then close (r.length + 1) r before else p :: before
    | .inline _ => p :: before
  ((pieces.foldl step []).map Piece.settled).reverse

end Markdown

end Marginalia
