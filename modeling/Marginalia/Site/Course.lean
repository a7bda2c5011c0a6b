import Marginalia.Site.Publish

/-!
Building a site step by step. Others may change the files while a site is built, so it matters when something is read. In
the course of a building each listing of a directory, each reading of a post, each turn of the workers that load comments
and each writing of a page is a step of its own, and between two steps anything can happen to the files.
-/

namespace Marginalia

open File (Tree Place)

/-- What is left of a building: it is over, or there is a next step, and what comes then depends on the site as it was
before that step. -/
inductive Course (ε α : Type) where
  | done (r : Except ε α)
  | act (effect : Site → Site) (next : Site → Course ε α)

namespace Site

/-- The posts in order; no two have the same slug. -/
def arranged (posts : List Post) : Except SiteError (List Post) :=
  let sorted := sortPosts posts
  match sharedSlug? [] sorted with
  | some (a, b) => .error (.sharedSlug a.sourcePath b.sourcePath b.slug)
  | none => .ok sorted

/-- The names in the directory at a place, each with whether it stands for a directory. If the directory is there no more,
what its path leads to now is taken. -/
def listDirectory (t : Tree) (dir : Place) (path : Text) : Except File.Error (Place × List (Text × Bool)) :=
  let list (place : Place) := (t.names place).map fun name => (name, t.get? (place ++ [name]) == some .dir)
  if t.get? dir == some .dir then .ok (dir, list dir)
  else
    match t.find true path with
    | .ok (place, .dir) => .ok (place, list place)
    | .ok _ => .error ⟨"open", path, .notDirectory⟩
    | .error c => .error ⟨"open", path, c⟩

end Site

namespace Course

variable {ε ε' α β : Type}

/-! ### Putting courses together -/

def bind : Course ε α → (α → Course ε β) → Course ε β
  | done (.ok a), f => f a
  | done (.error e), _ => done (.error e)
  | act effect next, f => act effect fun s => (next s).bind f

instance : Monad (Course ε) where
  pure a := done (.ok a)
  bind := bind

/-- The course with its error in another form. -/
def adapt (f : ε → ε') : Course ε α → Course ε' α
  | done r => done (r.mapError f)
  | act effect next => act effect fun s => (next s).adapt f

/-- Does something in one step. -/
def once (b : Build ε α) : Course ε α := act (fun s => (s.run b).2) fun s => done (s.run b).1

/-- Looks at the site. -/
def look (f : Site → Except ε α) : Course ε α := act id fun s => done (f s)

/-- The course if nobody interferes. -/
def alone : Course ε α → Build ε α
  | done r => liftM r
  | act effect next => do
    let s ← get
    set (effect s)
    (next s).alone

/-! ### Finding posts -/

/-- Reads a file if its path is that of a post. -/
def readFile (path : Text) : Course ScanError (List Post) :=
  if Site.isPostPath path then (fun p => [p]) <$> look fun s => Site.readPost s.tree path else pure []

/-- Reads the posts below a directory in the order of their names; the number bounds the depth. -/
def postsBelow : (depth : Nat) → Place → (path : Text) → Course ScanError (List Post)
  | 0, _, _ => pure []
  | depth + 1, dir, path => do
    let (dir, entries) ← look fun s => (Site.listDirectory s.tree dir path).mapError .file
    let found ← entries.mapM fun (name, isDir) =>
      let path := Path.join [path, name]
      if isDir then if Site.isSkipped name then pure [] else postsBelow depth (dir ++ [name]) path
      else readFile path
    pure found.flatten

/-- Reads the posts at or below a path. -/
def readPosts (depth : Nat) (root : Text) : Course ScanError (List Post) := do
  match ← look fun s => (s.tree.find false root).mapError fun c => .file ⟨"lstat", root, c⟩ with
  | (place, .dir) => postsBelow depth place root
  | _ => readFile root

/-! ### Comments and signals -/

/-- Takes so many turns at most, as the work on a pool does. -/
def takeTurns : (turns : Nat) → Schedule → Pool → Course HandlerError Pool
  | 0, _, pool => pure pool
  | turns + 1, schedule, pool => do
    let next ← look fun s =>
      let step := pool.step (Site.processPost s.config s.tree) (Site.workerLimit s.config)
      .ok ((schedule.head?.bind step).or (step pool.nextInOrder))
    match next with
    | some pool => takeTurns turns schedule.tail pool
    | none => pure pool

/-- Loads the comments of all posts. -/
def loadComments : Course HandlerError Unit := do
  let s ← look .ok
  let pool := Pool.ofPosts s.timeline
  let pool ← takeTurns pool.turnsLeft s.schedule pool
  once do
    Build.change fun s => pool.entries.foldl Site.note { s with timeline := pool.posts }
    match pool.error with
    | some e => throw e
    | none => pure ()

/-- Writes the script and the feed. -/
def deploy : Course HandlerError Unit := do
  let s ← look .ok
  let script := Site.scriptPath s.config
  let feed := Site.feedPath s.config
  once (Build.save (.deploy script) script Page.script)
  once (Build.save (.deploy feed) feed s.feed)
  once (Build.note { level := .info, message := "deployed comment assets"
                     fields := [("script", .text script), ("feed", .text feed)] })

/-- Runs a handler. -/
def handle : Handler → Course HandlerError Unit
  | .loadComments => loadComments
  | .deploy => deploy
  | .labelled label fails => once (Build.handle (.labelled label fails))

/-- Runs the handlers of a signal. -/
def emit (signal : Text) : Course SiteError Unit := do
  let handlers ← look fun s => .ok (s.handlersOf signal)
  once (Build.note { level := .debug, message := "emit signal"
                     fields := [("signal", .text signal), ("handlers", .int handlers.length)] })
  (handlers.forM handle).adapt (.handler signal)

/-! ### Building -/

/-- Finds the posts anew. -/
def scan (depth : Nat) : Course SiteError Unit := do
  let root ← look fun s => .ok s.config.postsPath
  let posts ← (readPosts depth root).adapt (.scan root)
  let timeline ← done (Site.arranged posts)
  once (Build.change fun s => { s with timeline, slugPlaces := Site.slugPlacesOf timeline })
  once (Build.note { level := .info, message := "scanned posts"
                     fields := [("dir", .text root), ("posts", .int timeline.length)] })
  emit Site.scanned

/-- Writes all pages. -/
def render : Course SiteError Unit := do
  let post ← done (Site.loadPage "post.html")
  let index ← done (Site.loadPage "index.html")
  once Build.renderBodies
  let s ← look .ok
  s.timeline.forM fun p => once (Build.writePost post false p)
  once (Build.save .write (Site.indexPath s.config) (index.execute (Page.indexData s.config s.timeline)))
  once (Build.note { level := .info, message := "rendered site"
                     fields := [("output", .text s.config.outputPath), ("posts", .int s.timeline.length)] })
  emit Site.rendered

/-- Builds the site. Directories are gone into so deep at most. -/
def build (depth : Nat) : Course SiteError Unit := do
  scan depth
  render

end Course

end Marginalia
