import Marginalia.Feed
import Marginalia.Page.Script
import Marginalia.Site.State

/-!
What goes with every site: the script of the comment form and the feed of the latest comments.
-/

namespace Marginalia

namespace Site

/-- Where the script goes. -/
def scriptPath (c : Config) : Text := Path.join [c.outputPath, "assets", Page.scriptFile]

/-- Where the feed goes. -/
def feedPath (c : Config) : Text := Path.join [c.outputPath, "comments.xml"]

/-- The feed of a site. -/
def feed (s : Site) : Text := (Feed.ofPosts s.config s.timeline s.config.feedLimit).rss s.now

end Site

namespace Build

/-- Writes the script and the feed. -/
def deploy : Build HandlerError Unit := do
  let s ← get
  let script := Site.scriptPath s.config
  let feed := Site.feedPath s.config
  save (.deploy script) script Page.script
  save (.deploy feed) feed s.feed
  note { level := .info, message := "deployed comment assets"
         fields := [("script", .text script), ("feed", .text feed)] }

end Build

end Marginalia
