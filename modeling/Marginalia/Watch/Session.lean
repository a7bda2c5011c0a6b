import Marginalia.Watch.Deed

/-!
Watching a tree of files. A session first adds its directory and those below it to what is watched. Then it waits for
notices and for its timer. A notice that matters sets the timer, after the directories at its place, if they are new,
have been added as well; when the timer has run out, the site is built anew. Meanwhile others change the files. Each
step of the session and of the others is an action, and in which order they come is open.
-/

namespace Marginalia

namespace Watch

open File (Tree Place Node)

/-! ### Directories -/

/-- Is this the name of a hidden directory? -/
def isHidden (name : Text) : Bool := Text.startsWith name "."

/-- The directories in a directory that are not hidden. -/
def subdirectories (t : Tree) (dir : Place) : List Place :=
  (t.names dir).filterMap fun name =>
    let place := dir ++ [name]
    if t.get? place == some .dir && !isHidden name then some place else none

/-- A directory and those below it that are not hidden; the number bounds the depth. -/
def directoriesBelow (t : Tree) : (depth : Nat) → Place → List Place
  | 0, _ => []
  | depth + 1, dir => dir :: (subdirectories t dir).flatMap (directoriesBelow t depth)

/-- The directories to watch for a place: none for a file. -/
def directories (t : Tree) (place : Place) : List Place :=
  if t.get? place == some .dir then directoriesBelow t (t.depth + 1) place else []

/-- What is left to do to add a directory and those below it to what is watched. -/
inductive Visit where
  /-- The directory is to be watched. -/
  | enter (dir : Place)
  /-- The directory is watched, and those in it are to be found. -/
  | read (dir : Place)
deriving DecidableEq, Repr

namespace Visit

def dir : Visit → Place
  | enter dir => dir
  | read dir => dir

/-- What is watched from now on, and the visits that come of this one; nothing if the directory is gone. -/
def outcome? (t : Tree) (v : Visit) : Option (List Place × List Visit) :=
  if t.get? v.dir == some .dir then
    match v with
    | enter dir => some ([dir], [read dir])
    | read dir => some ([], (subdirectories t dir).map enter)
  else none

/-- What a visit adds to what is watched, with all that come of it. -/
def adds (t : Tree) : Visit → List Place
  | enter dir => directories t dir
  | read dir => (subdirectories t dir).flatMap (directories t)

/-- How many steps a visit takes, with all that come of it. -/
def turns (t : Tree) (v : Visit) : Nat :=
  2 * (v.adds t).length + match v with
    | enter _ => 0
    | read _ => 1

end Visit

/-! ### Sessions -/

/-- What a session is at. -/
inductive Phase where
  /-- Directories are being added, the first time before any notice is taken. -/
  | walking (first : Bool) (todo : List Visit)
  /-- It waits for a notice and for the timer. -/
  | waiting
  /-- Something was made at this place: is it a directory? -/
  | looking (place : Place)
  /-- The timer is to be set. -/
  | arming
  | rebuilding
  | stopped
deriving DecidableEq, Repr

/-- What a notice makes of a session that waits. -/
def Notice.response (n : Notice) : Phase :=
  if !n.matters then .waiting
  else if n.change.created then .looking n.place
  else .arming

/-- A session: the files as they are, the directories that are watched, the notices that were not taken yet, and the
timer. The timer may have run out and be set again before anybody looked. -/
structure Session where
  tree : Tree
  watched : List Place := []
  queue : List Notice := []
  armed : Bool := false
  fired : Bool := false
  phase : Phase := .waiting
deriving Repr

/-- What happens next. -/
inductive Action where
  /-- Somebody does something to the files. -/
  | change (d : Deed)
  /-- A session that waits takes a notice. -/
  | receive
  /-- A session that is at something goes on with it. -/
  | proceed
  /-- The timer runs out. -/
  | fire
  /-- A session that waits sees that the timer has run out, and begins to rebuild. -/
  | tick
  /-- The rebuilding is over. -/
  | finish (succeeded : Bool)
  | stop
deriving DecidableEq, Repr

namespace Session

/-- A session that is about to add its directory. -/
def opened (t : Tree) (place : Place) : Session :=
  { tree := t, phase := .walking true (if t.get? place == some .dir then [.enter place] else []) }

/-- The session after the next step of what it is at. If a directory is gone when its turn comes, the others are not
added any more. -/
def proceed? (s : Session) : Option Session :=
  match s.phase with
  | .walking first [] => some { s with phase := if first then .waiting else .arming }
  | .walking first (v :: todo) =>
    match v.outcome? s.tree with
    | some (added, more) => some { s with watched := s.watched ++ added, phase := .walking first (more ++ todo) }
    | none => some { s with phase := if first then .stopped else .arming }
  | .looking place =>
    some { s with phase := if s.tree.get? place == some .dir then .walking false [.enter place] else .arming }
  | .arming => some { s with armed := true, phase := .waiting }
  | .waiting | .rebuilding | .stopped => none

/-- The session after a deed, if it can be done. -/
def suffer? (s : Session) (d : Deed) : Option Session :=
  (d.perform? s.tree).map fun t =>
    { s with tree := t, watched := d.stillWatched s.watched, queue := s.queue ++ d.notices s.watched }

/-- The session after an action, if this can happen. -/
def step (s : Session) : Action → Option Session
  | .change d => s.suffer? d
  | .receive =>
    match s.phase, s.queue with
    | .waiting, n :: queue => some { s with queue, phase := n.response }
    | _, _ => none
  | .proceed => s.proceed?
  | .fire => if s.armed then some { s with armed := false, fired := true } else none
  | .tick => if s.phase == .waiting && s.fired then some { s with fired := false, phase := .rebuilding } else none
  | .finish _ => if s.phase == .rebuilding then some { s with phase := .waiting } else none
  | .stop => if s.phase == .waiting then some { s with phase := .stopped } else none

/-- The session after actions in order, if each of them can happen. -/
def follow (s : Session) (actions : List Action) : Option Session := actions.foldlM step s

/-! ### Sessions that are left alone -/

/-- What comes next if nobody interferes; nothing for a session that waits in vain or has stopped. -/
def next? (s : Session) : Option Action :=
  match s.phase with
  | .waiting =>
    if !s.queue.isEmpty then some .receive
    else if s.fired then some .tick
    else if s.armed then some .fire
    else none
  | .rebuilding => some (.finish true)
  | .stopped => none
  | _ => some .proceed

/-- The sum of what each of a list takes. -/
def total {α : Type} (turns : α → Nat) (xs : List α) : Nat := xs.foldr (fun x n => turns x + n) 0

@[simp] theorem total_nil {α : Type} (turns : α → Nat) : total turns [] = 0 := rfl

@[simp] theorem total_cons {α : Type} (turns : α → Nat) (x : α) (xs : List α) :
    total turns (x :: xs) = turns x + total turns xs := rfl

@[simp] theorem total_append {α : Type} (turns : α → Nat) (xs ys : List α) :
    total turns (xs ++ ys) = total turns xs + total turns ys := by
  induction xs with
  | nil => exact (Nat.zero_add _).symm
  | cons x xs ih => rw [List.cons_append, total_cons, total_cons, ih, Nat.add_assoc]

/-- How many steps a phase takes, with the timer that it sets. -/
def phaseTurns (t : Tree) : Phase → Nat
  | .walking _ todo => total (Visit.turns t) todo + 5
  | .looking place => (Visit.enter place).turns t + 6
  | .arming => 4
  | .rebuilding => 1
  | .waiting | .stopped => 0

/-- How many steps the session takes until it waits in vain. -/
def turnsLeft (s : Session) : Nat :=
  phaseTurns s.tree s.phase + total (fun n => phaseTurns s.tree n.response + 1) s.queue +
    (if s.armed then 3 else 0) + (if s.fired then 2 else 0)

/-- Takes so many steps at most; tells also whether a rebuilding began. -/
def runFor : (turns : Nat) → Session → Bool × Session
  | 0, s => (false, s)
  | turns + 1, s =>
    match s.next? with
    | none => (false, s)
    | some action =>
      match s.step action with
      | none => (false, s)
      | some s =>
        let (rebuilt, s) := runFor turns s
        (action == .tick || rebuilt, s)

/-- Leaves the session alone until it waits in vain. -/
def run (s : Session) : Bool × Session := runFor s.turnsLeft s

/-- The session after deeds that could all be done, or as many of them as could. -/
def sufferAll (s : Session) (deeds : List Deed) : Session := deeds.foldl (fun s d => (s.suffer? d).getD s) s

/-! ### Watching a directory -/

/-- Begins to watch a directory. -/
def start (t : Tree) (root : Text) : Except File.Error Session :=
  match t.find false root with
  | .ok (place, _) => .ok (opened t place).run.2
  | .error c => .error ⟨"lstat", root, c⟩

/-- Something was put at a place, with the directories that lead to it. Does that call for a new build? -/
def put (s : Session) (p : Place) (after : Tree) : Bool × Session :=
  (s.sufferAll (Deed.between s.tree after p)).run

/-- A place and all below it were removed. Does that call for a new build? -/
def remove (s : Session) (p : Place) : Bool × Session := (s.sufferAll (Deed.removal s.tree p)).run

/-- What stood at a place was moved to another. Does that call for a new build? -/
def move (s : Session) (source target : Place) : Bool × Session := (s.sufferAll [.move source target]).run

/-- The files are looked at again. Does what has become of them call for a new build? -/
def look (s : Session) (after : Tree) : Bool × Session := (s.sufferAll (Deed.changes s.tree after)).run

/-- The mode of a file was changed. Does that call for a new build? -/
def changeMode (s : Session) (p : Place) : Bool := (s.sufferAll [.changeMode p]).run.1

end Session

end Watch

end Marginalia
