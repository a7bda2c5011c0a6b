import Marginalia.File.Tree
import Marginalia.Text.Symbols

/-!
Patterns for paths: `*` stands for any part of a name, `?` for one character, brackets for one of several,
and a backslash makes the next character stand for itself.
-/

namespace Marginalia

namespace File

/-- A piece of a pattern. -/
inductive Piece where
  | star
  | any
  | oneOf (negated : Bool) (ranges : List (Nat × Nat))
  | octet (c : UInt8)
deriving DecidableEq

namespace Pattern

/-- A character of a class; it may be escaped, and something must follow it. -/
def classChar? (t : Text) : Option (Nat × Text) :=
  let read (t : Text) : Option (Nat × Text) :=
    match Text.next? t with
    | some (.char c, rest) => if rest.isEmpty then none else some (c.toNat, rest)
    | _ => none
  match t with
  | [] => none
  | c :: rest => if c == '-' || c == ']' then none else if c == '\\' then read rest else read t

/-- The ranges of a class up to its closing bracket; the number bounds them. -/
def ranges? : (fuel : Nat) → (first : Bool) → Text → Option (List (Nat × Nat) × Text)
  | 0, _, _ => none
  | fuel + 1, first, t =>
    if !first && t.head? == some ']'.toUInt8 then some ([], t.drop 1)
    else do
      let (low, t) ← classChar? t
      let (high, t) ← if t.head? == some '-'.toUInt8 then classChar? (t.drop 1) else some (low, t)
      let (more, t) ← ranges? fuel false t
      some ((low, high) :: more, t)

/-- The pieces of a pattern, if it is well formed; the number bounds them. -/
def pieces? : (fuel : Nat) → Text → Option (List Piece)
  | _, [] => some []
  | 0, _ => none
  | fuel + 1, c :: t =>
    if c == '*' then (pieces? fuel t).map (.star :: ·)
    else if c == '?' then (pieces? fuel t).map (.any :: ·)
    else if c == '[' then do
      let negated := t.head? == some '^'.toUInt8
      let (ranges, t) ← ranges? (t.length + 1) true (if negated then t.drop 1 else t)
      (pieces? fuel t).map (.oneOf negated ranges :: ·)
    else if c == '\\' then
      match t with
      | [] => none
      | d :: t => (pieces? fuel t).map (.octet d :: ·)
    else (pieces? fuel t).map (.octet c :: ·)

/-- The rests of a name that a star may leave. -/
def tails : Text → List Text
  | [] => [[]]
  | c :: t => (c :: t) :: if c == '/' then [] else tails t

/-- Does a name fit the pieces of a pattern? -/
def fits : List Piece → Text → Bool
  | [], name => name.isEmpty
  | .star :: more, name => (tails name).any fun rest => fits more rest
  | .any :: more, name =>
    match Text.next? name with
    | some (s, rest) => s.code != '/'.toNat && fits more rest
    | none => false
  | .oneOf negated ranges :: more, name =>
    match Text.next? name with
    | some (s, rest) =>
      ((ranges.any fun (low, high) => low ≤ s.code && s.code ≤ high) != negated) && fits more rest
    | none => false
  | .octet c :: more, name =>
    match name with
    | d :: rest => c == d && fits more rest
    | [] => false

/-- Has the text a character that stands for others? -/
def hasSigns (t : Text) : Bool := t.any fun c => c == '*' || c == '?' || c == '[' || c == '\\'

/-- The directory part of a pattern and the last part. -/
def cutLastName (pattern : Text) : Text × Text :=
  match Text.cutLast? "/" pattern with
  | none => (".", pattern)
  | some (dir, name) => (if dir.isEmpty then "/" else dir, name)

/-- The paths in a directory whose names fit the pieces. -/
def inDirectory (t : Tree) (pieces : List Piece) (dir : Text) : List Text :=
  ((t.namesAt dir).filter (fits pieces)).map fun name => Path.join [dir, name]

/-- The paths of a tree that fit a pattern; nothing if the pattern or a part of it is not well formed. The
number bounds the parts. -/
def paths? (t : Tree) : (fuel : Nat) → (pattern : Text) → Option (List Text)
  | 0, _ => none
  | fuel + 1, pattern => do
    let _ ← pieces? pattern.length pattern
    if !hasSigns pattern then
      match t.lstat pattern with
      | .ok _ => some [pattern]
      | .error _ => some []
    else
      let (dir, name) := cutLastName pattern
      let pieces ← pieces? name.length name
      if !hasSigns dir then some (inDirectory t pieces dir)
      else
        let dirs ← paths? t fuel dir
        some (dirs.flatMap (inDirectory t pieces))

end Pattern

/-- The paths of a tree that fit a pattern. -/
def Tree.glob? (t : Tree) (pattern : Text) : Option (List Text) := Pattern.paths? t (pattern.length + 1) pattern

end File

end Marginalia
