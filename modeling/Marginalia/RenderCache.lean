import Marginalia.Digest

/-!
A cache of rendered texts. It holds a bounded number of entries under the digest of their source and
gives up the one that was not touched for the longest time.
-/

namespace Marginalia

/-- A map of bounded size; the entries are listed from the latest touched. -/
structure Recent (κ ν : Type) where
  capacity : Nat
  entries : List (κ × ν)
deriving Repr

namespace Recent

variable {κ ν : Type} [BEq κ]

def empty (capacity : Nat) : Recent κ ν := ⟨capacity, []⟩

/-- The value under a key; finding it touches the entry. -/
def get (r : Recent κ ν) (k : κ) : Option ν × Recent κ ν :=
  match r.entries.find? (·.1 == k) with
  | some e => (some e.2, { r with entries := e :: r.entries.filter (!·.1 == k) })
  | none => (none, r)

/-- Puts a value under a key and touches the entry; one entry too many drops the last. -/
def set (r : Recent κ ν) (k : κ) (v : ν) : Recent κ ν :=
  { r with entries := ((k, v) :: r.entries.filter (!·.1 == k)).take r.capacity }

def size (r : Recent κ ν) : Nat := r.entries.length

end Recent

/-- A cache of rendered texts. -/
abbrev RenderCache := Recent Digest Text

namespace RenderCache

/-- The capacity of a cache for which none, or none that can be used, is asked. -/
def defaultCapacity : Nat := 500

/-- An empty cache of a given size, or of the default size below one. -/
def ofSize (size : Int) : RenderCache :=
  Recent.empty (if size ≤ 0 then defaultCapacity else size.toNat)

/-- The rendering kept for a source. -/
def lookup (c : RenderCache) (source : Text) : Option Text × RenderCache := c.get (Digest.sha256 source)

/-- Keeps the rendering of a source. -/
def store (c : RenderCache) (source out : Text) : RenderCache := c.set (Digest.sha256 source) out

/-- The rendering of a source by `render`, taken from the cache if it is there and kept otherwise. -/
def through (render : Text → Text) (c : RenderCache) (source : Text) : Text × RenderCache :=
  match c.lookup source with
  | (some out, c) => (out, c)
  | (none, c) =>
    let out := render source
    (out, c.store source out)

end RenderCache

end Marginalia
