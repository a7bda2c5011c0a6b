import Marginalia.Text.Basic

/-!
Paths: names joined by slashes. Cleaning removes empty and dot components and resolves a double dot
against the name before it, by the text alone.
-/

namespace Marginalia

namespace Path

/-- The component separator. -/
def separator : UInt8 := '/'

def isAbsolute (p : Text) : Bool := p.head? == some separator

/-- A name that stands for itself in a path: not empty, no dots that lead elsewhere, and no separator. -/
def IsName (n : Text) : Prop := n ≠ [] ∧ n ≠ "." ∧ n ≠ ".." ∧ separator ∉ n

instance : DecidablePred IsName := fun _ => inferInstanceAs (Decidable (_ ∧ _ ∧ _ ∧ _))

theorem isName_of_mem_nil : ∀ n ∈ ([] : List Text), IsName n := fun _ hn => absurd hn List.not_mem_nil

/-- Puts one component behind those already cleaned, which are listed latest first. -/
def push (rooted : Bool) (done : List Text) (name : Text) : List Text :=
  if name == [] || name == "." then done
  else if name == ".." then
    match done with
    | [] => if rooted then [] else [name]
    | last :: rest => if last == ".." then name :: done else rest
  else name :: done

/-- The components of a path after cleaning. -/
def components (p : Text) : List Text :=
  ((Text.splitOn separator p).foldl (push (isAbsolute p)) []).reverse

/-- The shortest path that names the same place by the rules of this module; never empty. -/
def clean (p : Text) : Text :=
  let inner := Text.join "/" (components p)
  if isAbsolute p then separator :: inner
  else if inner.isEmpty then "." else inner

/-- The parts joined and cleaned; empty parts are left out, and without any the path is empty. -/
def join (parts : List Text) : Text :=
  match parts.filter (!·.isEmpty) with
  | [] => []
  | ps => clean (Text.join "/" ps)

/-- The last component: a dot for the empty path, a slash for a path of slashes. -/
def base (p : Text) : Text :=
  if p.isEmpty then "."
  else
    let stripped := Text.stripRight (· == separator) p
    if stripped.isEmpty then "/" else ((Text.splitOn separator stripped).getLast?).getD []

/-- The part of the last component from its last dot on. -/
def extension (p : Text) : Text :=
  match Text.cutLast? "." (((Text.splitOn separator p).getLast?).getD []) with
  | some (_, ext) => '.' :: ext
  | none => []

/-- The path without its last component, cleaned. -/
def parent (p : Text) : Text :=
  match Text.cutLast? "/" p with
  | some (before, _) => clean (if before.isEmpty then "/" else before)
  | none => "."

end Path

end Marginalia
