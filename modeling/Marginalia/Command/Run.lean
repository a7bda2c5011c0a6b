import Marginalia.Command.Completion
import Marginalia.Command.Help
import Marginalia.Command.Invocation
import Marginalia.EnvFile
import Marginalia.Site.Publish
import Marginalia.Watch.Session

/-!
What the program does with a command line, an environment and the files around it.
-/

namespace Marginalia

namespace Config

/-- Where further variables are kept. -/
def envFile : Text := ".env"

/-- The configuration from the environment and from the file of further variables, if it can be read. -/
def load (env : Environment) (tree : File.Tree) : Config :=
  let further := match tree.readFile envFile with
    | .ok content => (EnvFile.parse? content).getD []
    | .error _ => []
  ofEnvironment (EnvFile.extend env further)

end Config

namespace Command

/-- The configuration with what the flags say. -/
def Settings.apply (s : Settings) (c : Config) : Config :=
  { c with
    siteDir := s.site.getD c.siteDir
    outputDir := s.output.getD c.outputDir
    failOnCommentError := s.failOnError.getD c.failOnCommentError
    debug := c.debug || s.verbose == some true }

/-- How a run ended: its exit code, what it printed, the error it ended with, the site it left behind, and the session
that goes on watching the files of the site. -/
structure Outcome where
  exit : Nat := 0
  output : Text := []
  error : Option Text := none
  site : Site
  session : Option Watch.Session := none

namespace Outcome

/-- A run that ended with an error. -/
def failed (site : Site) (message : Text) : Outcome := { exit := 1, error := some message, site }

/-- The entries of the log that are shown: when debugging all, else those that matter. -/
def log (o : Outcome) : List Log.Entry :=
  if o.site.config.debug then o.site.log else o.site.log.filter (·.reaches .info)

end Outcome

/-- Builds a site. -/
def runBuild (s : Site) : Outcome :=
  match s.run (Build.build false) with
  | (.ok (), s) => { site := s }
  | (.error e, s) => .failed s e.message

/-- Builds a site once, whatever comes of it, and begins to watch its posts. This fails only if there is
nothing to watch; else it goes on until it is interrupted. -/
def runWatch (s : Site) : Outcome :=
  let s := match s.run (Build.build false) with
    | (.ok (), s) => s
    | (.error e, s) =>
      s.note { level := .error, message := "initial build failed", fields := [("error", .text e.message)] }
  let posts := s.config.postsPath
  match Watch.Session.start s.tree posts with
  | .error e => .failed s e.message
  | .ok session =>
    { site := s.note { level := .info, message := "watching for changes", fields := [("dir", .text posts)] }, session }

/-- Builds a site that is watched anew. That it fails is only noted. -/
def rebuild (s : Site) : Site :=
  match s.run (Build.build false) with
  | (.ok (), s) => s.note { level := .info, message := "rebuilt site" }
  | (.error e, s) => s.note { level := .error, message := "rebuild failed", fields := [("error", .text e.message)] }

/-- Looks again at the files of a site that is watched, and builds it anew if its sources have changed. -/
def lookAgain (s : Site) (session : Watch.Session) (tree : File.Tree) (now : Moment) : Site × Watch.Session :=
  let (changed, session) := session.look tree
  let s := { s with tree, now, log := [] }
  (if changed then rebuild s else s, session)

/-- Runs a command line. -/
def run (env : Config.Environment) (tree : File.Tree) (now : Moment) (args : List Text) : Outcome :=
  let site (s : Settings) : Site := { Site.withComments (s.apply (Config.load env tree)) tree with now }
  match invocation args with
  | .error e => .failed { tree } e.message
  | .ok (.tell c) => { output := c.helpText, site := { tree } }
  | .ok (.unknownTopic _) => { site := { tree } }
  | .ok (.completion ..) => { site := { tree } }
  | .ok (.complete args last withDescriptions) =>
    { output := (choices args last).text withDescriptions, site := { tree } }
  | .ok (.build s) => runBuild (site s)
  | .ok (.watch s) => runWatch (site s)

end Command

end Marginalia
