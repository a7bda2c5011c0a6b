import Marginalia.File.Tree
import Marginalia.Watch

/-!
What somebody does to the files while they are watched, and what is told of it. Who watches a directory is told of what
happens to its entries, and also when the directory itself is removed, moved or gets another mode.
-/

namespace Marginalia

namespace Watch

open File (Tree Place Node)

/-- What is told of a change at a place. -/
structure Notice where
  place : Place
  change : Change
deriving DecidableEq, Repr

/-- Does the change call for a new build? -/
def Notice.matters (n : Notice) : Bool := relevant ⟨Text.join "/" n.place, n.change⟩

/-- Something that is done to the files. -/
inductive Deed where
  /-- Something new is made in a directory. -/
  | make (place : Place) (node : Node)
  /-- What is there, and is no directory, gets another content. -/
  | write (place : Place) (node : Node)
  /-- What is there, and is no directory, is removed. -/
  | unlink (place : Place)
  /-- An empty directory is removed. -/
  | rmdir (place : Place)
  | move (source target : Place)
  | changeMode (place : Place)
deriving DecidableEq, Repr

namespace Deed

/-- The files afterwards; nothing if it cannot be done. -/
def perform? (t : Tree) : Deed → Option Tree
  | make place node =>
    if t.get? place == none && t.get? place.dropLast == some .dir then some (t.put place node) else none
  | write place node =>
    if t.get? place == none || t.get? place == some .dir || node == .dir then none else some (t.put place node)
  | unlink place =>
    if t.get? place == none || t.get? place == some .dir then none else some (t.erase place)
  | rmdir place =>
    if !place.isEmpty && t.get? place == some .dir && (t.names place).isEmpty then some (t.erase place) else none
  | move source target =>
    if source.isEmpty || t.get? source == none then none else some (t.move source target)
  | changeMode place => if t.get? place == none then none else some t

/-- What is told of a change to an entry of a directory. -/
def ofEntry (watched : List Place) (place : Place) (change : Change) : List Notice :=
  if !place.isEmpty && watched.contains place.dropLast then [⟨place, change⟩] else []

/-- What is told of a change to an entry of a directory that may itself be watched. -/
def ofItself (watched : List Place) (place : Place) (change : Change) : List Notice :=
  if watched.contains place then [⟨place, change⟩] else ofEntry watched place change

/-- What is told of it, in order. -/
def notices (watched : List Place) : Deed → List Notice
  | make place _ => ofEntry watched place { created := true }
  | write place _ => ofEntry watched place { written := true }
  | unlink place => ofEntry watched place { removed := true }
  | rmdir place => ofItself watched place { removed := true }
  | move source target =>
    ofItself watched source { renamed := true } ++ ofEntry watched target { created := true }
  | changeMode place => ofItself watched place { modeChanged := true }

/-- What is still watched: not what was removed or moved away. -/
def stillWatched (watched : List Place) : Deed → List Place
  | rmdir place => watched.filter (· != place)
  | move source _ => watched.filter (!source.isPrefixOf ·)
  | _ => watched

/-- How one tree becomes another: what is new is made in the order of the entries, what is there is written if it
differs, and what stands at `place` in any case. -/
def between (before after : Tree) (place : Place) : List Deed :=
  after.entries.filterMap fun (p, node) =>
    match before.get? p with
    | none => some (make p node)
    | some old => if node != .dir && (old != node || p == place) then some (write p node) else none

/-- How places of a tree are freed: the deepest first. -/
def removeEach (t : Tree) (places : List Place) : List Deed :=
  (places.mergeSort fun p q => q.length ≤ p.length).map fun p => if t.get? p == some .dir then rmdir p else unlink p

/-- How a place is removed with all below it. -/
def removal (t : Tree) (place : Place) : List Deed := removeEach t ((t.entries.map (·.1)).filter place.isPrefixOf)

/-- Must a place be freed before one tree becomes another: is it empty then, or has it become a directory or ceased to be
one? -/
def isFreed (before after : Tree) (p : Place) : Bool :=
  after.get? p == none || (before.get? p == some .dir) != (after.get? p == some .dir)

/-- How a place comes to hold what it holds in another tree. -/
def arrival? (before after : Tree) (p : Place) : Option Deed :=
  (after.get? p).bind fun node =>
    if before.get? p == none || isFreed before after p then some (make p node)
    else if before.get? p == some node then none
    else some (write p node)

/-- What may have been done while nobody looked: places are freed, the deepest first, and then the rest is made and
written, the topmost first. -/
def changes (before after : Tree) : List Deed :=
  removeEach before ((before.entries.map (·.1)).filter (isFreed before after)) ++
    ((after.entries.map (·.1)).mergeSort fun p q => p.length ≤ q.length).filterMap (arrival? before after)

end Deed

end Watch

end Marginalia
