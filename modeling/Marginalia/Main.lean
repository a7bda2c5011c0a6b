import Marginalia.Command.Run
import Marginalia.Json
import Std.Time.DateTime.Timestamp

/-!
The program: it reads the files below the working directory, runs the command line on them, and writes what
has changed. While a session watches the files, it looks at them again and again.
-/

namespace Marginalia

namespace Program

def ofText (t : Text) : String := (String.fromUTF8? t.toByteArray).getD ""

/-- What stands at a place, as the system knows it. -/
def entryAt (place : File.Place) : IO.FS.DirEntry := ⟨"/", ofText (Text.join "/" place)⟩

/-- What has been read: a tree, and the places that were read with all below them. -/
structure Reading where
  tree : File.Tree
  places : List File.Place := []

/-- Adds a node, and the directories that lead to it. -/
def Reading.put (r : Reading) (place : File.Place) (node : File.Node) : Reading :=
  let add (t : File.Tree) (p : File.Place) (n : File.Node) : File.Tree := if (t.get? p).isNone then t.put p n else t
  let way := (List.range place.length).foldl (fun t k => add t (place.take k) .dir) r.tree
  { r with tree := add way place node }

/-- Reads what stands at a place, with all below it and all that links there lead to. -/
partial def Reading.read (r : Reading) (place : File.Place) : IO Reading := do
  if r.places.contains place then return r
  let r := { r with places := place :: r.places }
  let path := (entryAt place).path
  match (← path.symlinkMetadata).type with
  | .dir =>
    let mut r := r.put place .dir
    for e in ← path.readDir do
      r ← r.read (place ++ [Text.ofString e.fileName])
    return r
  | .file => return r.put place (.file (← IO.FS.readBinFile path).toList)
  | .symlink =>
    try
      let target := Text.ofString (← IO.FS.realPath path).toString
      (r.put place (.link target)).read (r.tree.place target)
    catch _ => return r
  | .other => return r

/-- The files below the working directory, and those that links there lead to. -/
def workingTree : IO File.Tree := do
  let names := Text.splitOn '/' (Text.ofString (← IO.currentDir).toString)
  let workDir := names.filter fun n => decide (Path.IsName n)
  let empty : File.Tree := { workDir, workDir_names := fun _ hn => of_decide_eq_true (List.mem_filter.mp hn).2 }
  return (← Reading.read { tree := empty } workDir).tree

/-- Writes the files that are new or have changed. -/
def writeChanges (before after : File.Tree) : IO Unit := do
  for (place, node) in after.entries do
    if before.get? place != some node then
      let path := (entryAt place).path
      match node with
      | .dir => IO.FS.createDirAll path
      | .file content => IO.FS.writeBinFile path content.toByteArray
      | .link _ => pure ()

/-- The variables that the configuration knows. -/
def variableNames : List String :=
  ["SITE_DIR", "POSTS_DIR", "OUTPUT_DIR", "SITE_TITLE", "SITE_URL", "STATICMAN_ENDPOINT",
    "COMMENTS_FAIL_ON_ERROR", "BUILD_WORKERS", "RENDER_CACHE_SIZE", "FEED_LIMIT", "PORT", "DEBUG"]

def environment : IO Config.Environment := do
  variableNames.filterMapM fun name => do
    return (← IO.getEnv name).map fun value => (Text.ofString name, Text.ofString value)

def now : IO Moment := do
  let t ← Std.Time.Timestamp.now
  return ⟨t.toSecondsSinceUnixEpoch.val, 0, 0⟩

def levelText : Log.Level → Text
  | .debug => "debug"
  | .info => "info"
  | .warn => "warn"
  | .error => "error"
  | .fatal => "fatal"

def valueText : Log.Value → Text
  | .text t => Json.string t
  | .int i => Json.number i

/-- A line of the log. -/
def logLine (e : Log.Entry) : Text :=
  let start : List (Text × Text) := [("level", Json.string (levelText e.level)), ("msg", Json.string e.message)]
  Json.object (start ++ e.fields.map fun (name, value) => (name, valueText value))

def printLog (entries : List Log.Entry) : IO Unit :=
  entries.forM fun e => IO.eprintln (ofText (logLine e))

/-- Looks at the files again and again, and builds the site whenever its sources have changed. -/
partial def watchLoop (s : Site) (session : Watch.Session) : IO Unit := do
  IO.sleep 300
  let tree ← workingTree
  let (s, session) := Command.lookAgain s session tree (← now)
  writeChanges tree s.tree
  printLog ({ site := s : Command.Outcome }).log
  watchLoop s session

end Program

end Marginalia

open Marginalia Program in
def main (args : List String) : IO UInt32 := do
  let tree ← workingTree
  let args := args.map Text.ofString
  let outcome := Command.run (← environment) tree (← now) args
  writeChanges tree outcome.site.tree
  printLog outcome.log
  IO.print (ofText outcome.output)
  if let some e := outcome.error then IO.eprintln (ofText ("Error: " ++ e))
  if let some session := outcome.session then watchLoop outcome.site session
  return UInt32.ofNat outcome.exit
