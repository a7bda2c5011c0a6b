import Marginalia.Config
import Marginalia.Site.Pool

/-!
A site in the course of its building: its configuration, the files around it, the posts found so far, and the
handlers that wait for signals.
-/

namespace Marginalia

/-- What happens on a signal. -/
inductive Handler where
  /-- Loads the comments of all posts. -/
  | loadComments
  /-- Writes the script and the feed. -/
  | deploy
  /-- Leaves its label behind and may fail. -/
  | labelled (label : Text) (fails : Bool)
deriving DecidableEq, Repr

/-- The state of a site. -/
structure Site where
  config : Config := {}
  tree : File.Tree := {}
  /-- The posts, newest first. -/
  timeline : List Post := []
  /-- Slugs, each with the place of its post in the timeline. -/
  slugPlaces : List (Text × Nat) := []
  /-- Signals and what happens on them, in the order in which they were connected. -/
  handlers : List (Text × Handler) := []
  /-- Is a log kept? -/
  logged : Bool := false
  /-- The log, earliest entry first. -/
  log : List Log.Entry := []
  /-- The labels of the handlers that have run. -/
  trace : List Text := []
  /-- The moment of the building. -/
  now : Moment := Moment.zero
  /-- How the workers that load comments take turns. -/
  schedule : Schedule := []

namespace Site

/-- The signal after the posts have been found. -/
def scanned : Text := "scanned"

/-- The signal after all pages have been written. -/
def rendered : Text := "rendered"

/-- Connects a handler to a signal. -/
def connect (s : Site) (signal : Text) (h : Handler) : Site := { s with handlers := s.handlers ++ [(signal, h)] }

/-- A site without handlers and without a log. -/
def plain (config : Config) (tree : File.Tree) : Site := { config, tree }

/-- A site with a log that shows the comments of its posts. -/
def withComments (config : Config) (tree : File.Tree) : Site :=
  (({ config, tree, logged := true : Site }).connect scanned .loadComments).connect rendered .deploy

/-- The handlers of a signal. -/
def handlersOf (s : Site) (signal : Text) : List Handler :=
  (s.handlers.filter (·.1 == signal)).map (·.2)

/-- The post with a slug. -/
def post? (s : Site) (slug : Text) : Option Post := (s.slugPlaces.lookup slug).bind (s.timeline[·]?)

/-- The site with an entry in its log, if it keeps one. -/
def note (s : Site) (e : Log.Entry) : Site := if s.logged then { s with log := s.log ++ [e] } else s

/-- Writes a file of the output. -/
def save (s : Site) (path content : Text) : Except File.Error Site :=
  (s.tree.save path content).map fun tree => { s with tree }

end Site

/-- A step of a building: it may fail, and what it did before stays done. -/
abbrev Build (ε : Type) (α : Type) := ExceptT ε (StateM Site) α

namespace Build

variable {ε : Type}

/-- Changes the site. -/
def change (f : Site → Site) : Build ε Unit := modify f

/-- Puts an entry into the log. -/
def note (e : Log.Entry) : Build ε Unit := change (·.note e)

/-- Writes a file of the output. Directories that were made for it stay if that fails. -/
def save (wrap : File.Error → ε) (path content : Text) : Build ε Unit := do
  match (← get).save path content with
  | .ok s => set s
  | .error e =>
    change fun s => { s with tree := s.tree.leftBySave path }
    throw (wrap e)

end Build

end Marginalia
