import Marginalia.Log
import Marginalia.Site.Error

/-!
Workers on the posts of a site. Posts are taken up in order, so many at a time at most. The task of a post looks
once whether an error has been reported, and is over if so; otherwise it does its work, and if that fails it
reports the error. Only the first report counts. Whose turn it is next is open, and a schedule says it.
-/

namespace Marginalia

namespace Site

/-- What becomes of one post: the post, the entry for the log, and the error if it stops the building. -/
structure PostOutcome where
  post : Post
  entry : Option Log.Entry
  error : Option HandlerError

end Site

/-- How far the work on a post has come. -/
inductive Stage where
  /-- A worker has taken it up. -/
  | taken
  /-- No error was reported when the worker looked. -/
  | working
  /-- It has failed, and the error is still to be reported. -/
  | failed (e : HandlerError)
  | ended
deriving DecidableEq, Repr

/-- How many turns a task needs at most. -/
def Stage.turnsLeft : Stage → Nat
  | .taken => 3
  | .working => 2
  | .failed _ => 1
  | .ended => 0

structure Task where
  post : Post
  stage : Stage
deriving DecidableEq, Repr

/-- What a task does in one turn: an entry in the log, an error reported. -/
structure Move where
  task : Task
  entry : Option Log.Entry := none
  report : Option HandlerError := none

namespace Task

def isOver (t : Task) : Bool := t.stage == .ended

/-- The next move of a task; there is none once it is over. -/
def move? (work : Post → Site.PostOutcome) (calledOff : Bool) (t : Task) : Option Move :=
  match t.stage with
  | .taken => some { task := { t with stage := if calledOff then .ended else .working } }
  | .working =>
    let o := work t.post
    let stage : Stage := match o.error with
      | some e => .failed e
      | none => .ended
    some { task := ⟨o.post, stage⟩, entry := o.entry }
  | .failed e => some { task := { t with stage := .ended }, report := some e }
  | .ended => none

end Task

inductive Turn where
  /-- The next post is taken up. -/
  | take
  /-- The task at this place makes its next move. -/
  | go (place : Nat)
deriving DecidableEq, Repr

abbrev Schedule := List Turn

/-- Tasks under way or over, in the order of their posts, and the posts that wait. -/
structure Pool where
  tasks : List Task := []
  waiting : List Post
  /-- The first error that was reported. -/
  error : Option HandlerError := none
  /-- Entries for the log, earliest first. -/
  entries : List Log.Entry := []

namespace Pool

variable (work : Post → Site.PostOutcome) (limit : Nat)

def ofPosts (posts : List Post) : Pool := { waiting := posts }

/-- The posts as they are now. -/
def posts (pool : Pool) : List Post := pool.tasks.map (·.post) ++ pool.waiting

/-- How many tasks are under way. -/
def active (pool : Pool) : Nat := pool.tasks.countP (!·.isOver)

def isOver (pool : Pool) : Bool := pool.waiting.isEmpty && pool.tasks.all (·.isOver)

/-- How many turns there can still be. -/
def turnsLeft (pool : Pool) : Nat := pool.tasks.foldr (·.stage.turnsLeft + ·) (4 * pool.waiting.length)

/-- The pool after a task has made a move. -/
def apply (pool : Pool) (place : Nat) (m : Move) : Pool :=
  { pool with
    tasks := pool.tasks.set place m.task
    error := pool.error.or m.report
    entries := pool.entries ++ m.entry.toList }

/-- The pool after a turn, if this turn can be taken. -/
def step (pool : Pool) : Turn → Option Pool
  | .take =>
    match pool.waiting with
    | [] => none
    | p :: more =>
      if pool.active < limit then some { pool with tasks := pool.tasks ++ [⟨p, .taken⟩], waiting := more } else none
  | .go place => do
    let t ← pool.tasks[place]?
    let m ← t.move? work pool.error.isSome
    some (pool.apply place m)

/-- The pool after turns in order, if each of them can be taken. -/
def follow (pool : Pool) (turns : Schedule) : Option Pool := turns.foldlM (step work limit) pool

/-- The turn of the earliest task that is not over; if there is none, a post is taken up. -/
def nextInOrder (pool : Pool) : Turn :=
  match pool.tasks.findIdx? (!·.isOver) with
  | some place => .go place
  | none => .take

/-- Takes so many turns at most: those of the schedule, and where it has none that can be taken, the next in
order. -/
def runFor : (turns : Nat) → Schedule → Pool → Pool
  | 0, _, pool => pool
  | turns + 1, schedule, pool =>
    match (schedule.head?.bind (step work limit pool)).or (step work limit pool pool.nextInOrder) with
    | some pool => runFor turns schedule.tail pool
    | none => pool

/-- Works on all posts. -/
def run (schedule : Schedule) (pool : Pool) : Pool := runFor work limit pool.turnsLeft schedule pool

end Pool

end Marginalia
