import Marginalia.Comment.Basic
import Marginalia.Text.Quoted

/-!
Threads. The comments of one post, in any order, become the list shown on its page: replies follow
the comment they answer, siblings ascend by date and then by id. Comments that cannot form a forest
are refused with the cause.
-/

namespace Marginalia

/-- Why the comments of a post form no thread. -/
inductive ThreadError where
  /-- Two comments have this id. -/
  | duplicate (id : Text)
  /-- The comment `id` answers a comment that is not there. -/
  | dangling (id replyingTo : Text)
  /-- Each comment answers the next, and the last answers the first. -/
  | cyclic (ids : List Text)
deriving DecidableEq, Repr

def ThreadError.message : ThreadError → Text
  | .duplicate id => "duplicate comment id " ++ Text.quoted id
  | .dangling id target => "comment " ++ Text.quoted id ++ " replies to unknown comment " ++ Text.quoted target
  | .cyclic ids => "comment reply cycle: " ++ Text.join " -> " (ids ++ ids.take 1)

namespace Thread

/-! ### Ids and references -/

/-- The first id, in order of position, that an earlier comment has too. -/
def duplicate? : (seen : List Text) → List Comment → Option Text
  | _, [] => none
  | seen, c :: cs => if seen.contains c.id then some c.id else duplicate? (c.id :: seen) cs

/-- The place of the comment with an id. -/
def place? (cs : List Comment) (id : Text) : Option Nat := cs.findIdx? (·.id == id)

/-- The first reply whose comment is not there. -/
def dangling? (cs : List Comment) : Option Comment :=
  cs.find? fun c => c.isReply && (place? cs c.replyingTo).isNone

/-- For each comment the place of the comment it answers. -/
def parents (cs : List Comment) : Array (Option Nat) :=
  (cs.map fun c => if c.isReply then place? cs c.replyingTo else none).toArray

/-! ### Chains of replies -/

/-- What is known of a record while the chains are walked. -/
inductive Mark where
  /-- Not reached yet. -/
  | unvisited
  /-- On the chain being walked. -/
  | onChain
  /-- Known to lead to a comment on the post itself. -/
  | done
deriving DecidableEq, Repr, Inhabited

/-- How a climb ends: at a record that leads to the top, with the chain left behind (latest first),
or at a record of the chain itself. -/
inductive Climb where
  | top (marks : Array Mark) (chain : List Nat)
  | closed (cycle : List Nat)
deriving Repr

/-- The chain, latest first, cut to the records since `start`, oldest first. -/
def since (chain : List Nat) (start : Nat) : List Nat :=
  start :: (chain.takeWhile (· != start)).reverse

/-- Climbs from `cur` along the parents, marking each record passed. -/
def climb (parents : Array (Option Nat)) :
    (fuel : Nat) → (marks : Array Mark) → (chain : List Nat) → (cur : Option Nat) → Climb
  | 0, marks, chain, _ => .top marks chain
  | _ + 1, marks, chain, none => .top marks chain
  | fuel + 1, marks, chain, some cur =>
    match (marks[cur]?).getD .done with
    | .done => .top marks chain
    | .onChain => .closed (since chain cur)
    | .unvisited =>
      climb parents fuel (marks.setIfInBounds cur .onChain) (cur :: chain) ((parents[cur]?).getD none)

/-- The marks after a whole chain was found to lead to the top. -/
def settle (marks : Array Mark) (chain : List Nat) : Array Mark :=
  chain.foldl (fun ms k => ms.setIfInBounds k .done) marks

/-- Walks the chain of every record in order of position; gives the first cycle met. -/
def cycleFrom (parents : Array (Option Nat)) : List Nat → Array Mark → Option (List Nat)
  | [], _ => none
  | i :: rest, marks =>
    match climb parents (parents.size + 1) marks [] (some i) with
    | .closed cycle => some cycle
    | .top marks chain => cycleFrom parents rest (settle marks chain)

/-- The first cycle of the parents, as places that each point to the next. -/
def cycle? (parents : Array (Option Nat)) : Option (List Nat) :=
  cycleFrom parents (List.range parents.size) (Array.replicate parents.size .unvisited)

/-- A cycle of ids written from its least id. -/
def fromLeast (ids : List Text) : List Text :=
  match ids with
  | [] => []
  | first :: rest =>
    let least := rest.foldl (fun a b => if Text.order b a == .lt then b else a) first
    ids.dropWhile (· != least) ++ ids.takeWhile (· != least)

/-! ### Order -/

/-- The order of siblings: by date, then by id. -/
def siblingOrder (a b : Comment) : Ordering :=
  (a.date.order b.date).then (Text.order a.id b.id)

/-- The places sorted as siblings. -/
def sortPlaces (cs : Array Comment) (places : List Nat) : List Nat :=
  places.mergeSort fun a b => (siblingOrder (cs[a]?.getD {}) (cs[b]?.getD {})).isLE

/-- The places whose parent is `p`, as siblings; for `none` the comments on the post itself. -/
def children (cs : Array Comment) (parents : Array (Option Nat)) (p : Option Nat) : List Nat :=
  sortPlaces cs ((List.range parents.size).filter fun k => parents[k]? == some p)

/-- A record still to be put out: its place in the input, its depth, and where its parent was put. -/
structure Pending where
  place : Nat
  depth : Nat
  parent : Option Nat
deriving DecidableEq, Repr

/-- Puts out the records on a stack, each followed by its replies. `next` is the place in the result
of the record on top. -/
def walk (children : Nat → List Nat) : (fuel : Nat) → (stack : List Pending) → (next : Nat) →
    List Pending
  | 0, _, _ => []
  | _ + 1, [], _ => []
  | fuel + 1, p :: stack, next =>
    let replies := (children p.place).map fun k => ⟨k, p.depth + 1, some next⟩
    p :: walk children fuel (replies ++ stack) (next + 1)

/-- The records of a forest of comments in the order of the page. -/
def ordered (cs : List Comment) (parents : Array (Option Nat)) : List ThreadedComment :=
  let records := cs.toArray
  let roots := (children records parents none).map fun k => ⟨k, 0, none⟩
  (walk (fun k => children records parents (some k)) cs.length roots 0).map fun p =>
    { records[p.place]?.getD {} with depth := p.depth, parent := p.parent }

end Thread

/-- The thread of the comments of one post. A repeated id is reported before a reply to a missing
comment, and that before a cycle. -/
def thread (cs : List Comment) : Except ThreadError (List ThreadedComment) :=
  match Thread.duplicate? [] cs with
  | some id => .error (.duplicate id)
  | none =>
    match Thread.dangling? cs with
    | some c => .error (.dangling c.id c.replyingTo)
    | none =>
      let parents := Thread.parents cs
      match Thread.cycle? parents with
      | some cycle =>
        .error (.cyclic (Thread.fromLeast (cycle.map fun k => ((cs[k]?).getD {}).id)))
      | none => .ok (Thread.ordered cs parents)

end Marginalia
