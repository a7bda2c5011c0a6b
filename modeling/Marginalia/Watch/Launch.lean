import Marginalia.Site.Course
import Marginalia.Watch.Session

/-!
How watching begins. A site is built once, and when that is over, whatever came of it, a session begins to watch the
directory with its posts. Others may change the files all the while.
-/

namespace Marginalia

namespace Watch

open File (Tree Place)

/-- How far the beginning has come. -/
inductive Launch where
  /-- The site is being built. -/
  | building (s : Site) (left : Course SiteError Unit)
  /-- The site was built, and a session watches the files. -/
  | watching (s : Site) (session : Session)
  /-- The site was built, but there is nothing to watch. -/
  | failed (s : Site) (e : File.Error)

namespace Launch

/-- The building begins; it goes so deep into directories at most. -/
def start (depth : Nat) (s : Site) : Launch := building s (.build depth)

/-- The site when the first building is over. That it failed is only noted. -/
def built (s : Site) : Except SiteError Unit → Site
  | .ok () => s
  | .error e => s.note { level := .error, message := "initial build failed", fields := [("error", .text e.message)] }

/-- Begins to watch the posts of a site. -/
def watch (s : Site) : Launch :=
  match s.tree.find false s.config.postsPath with
  | .ok (place, _) => watching s (.opened s.tree place)
  | .error c => failed s ⟨"lstat", s.config.postsPath, c⟩

/-- What comes after an action, if this can happen. -/
def step : Launch → Action → Option Launch
  | building s left, .change d => (d.perform? s.tree).map fun tree => building { s with tree } left
  | building s (.act effect next), .proceed => some (building (effect s) (next s))
  | building s (.done r), .proceed => some (watch (built s r))
  | watching s session, a => (session.step a).map (watching s)
  | _, _ => none

/-- What comes after actions in order, if each of them can happen. -/
def follow (l : Launch) (actions : List Action) : Option Launch := actions.foldlM step l

/-- The directories that are watched. -/
def watched : Launch → List Place
  | watching _ session => session.watched
  | _ => []

end Launch

end Watch

end Marginalia
