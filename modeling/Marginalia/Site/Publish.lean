import Marginalia.Comment.Markup
import Marginalia.Page.Data
import Marginalia.Site.Scan

/-!
Writing the pages of a site, and building it from beginning to end.
-/

namespace Marginalia

namespace Site

/-- Where the page of a post goes. -/
def postPath (c : Config) (p : Post) : Text := Path.join [c.outputPath, "posts", p.slug, "index.html"]

/-- Where the list of posts goes. -/
def indexPath (c : Config) : Text := Path.join [c.outputPath, "index.html"]

/-- The template of a page, if there is such a page. -/
def loadPage (page : Text) : Except SiteError Template :=
  match Page.template? page with
  | some t => .ok t
  | none => .error (.noPage page)

/-- A post with its body rendered. -/
def renderBody (p : Post) : Post := { p with body := Markdown.render .post p.content }

end Site

namespace Build

/-- Makes sure that there is a page of this name. -/
def needPage (name : Text) : Build SiteError Unit := discard (Site.loadPage name)

/-- Renders the bodies of all posts. -/
def renderBodies : Build SiteError Unit := change fun s => { s with timeline := s.timeline.map Site.renderBody }

/-- Writes the page of a post, unless the building has been cancelled. -/
def writePost (page : Template) (cancelled : Bool) (p : Post) : Build SiteError Unit := do
  if cancelled then throw .cancelled
  let config := (← get).config
  let path := Site.postPath config p
  save .write path (page.execute (Page.postData config p))
  note { level := .debug, message := "wrote post"
         fields := [("path", .text path), ("comments", .int p.commentCount)] }

/-- Writes the pages of posts in order. The building may be called off before the page at a place. -/
def writePosts (page : Template) : (off : Option Nat) → List Post → Build SiteError Unit
  | _, [] => pure ()
  | off, p :: more => do
    writePost page (off == some 0) p
    writePosts page (off.map (· - 1)) more

/-- Writes all pages, unless the building is called off before the page of the post at a place. -/
def renderUntil (off : Option Nat) : Build SiteError Unit := do
  let post ← Site.loadPage "post.html"
  let index ← Site.loadPage "index.html"
  renderBodies
  let s ← get
  writePosts post off s.timeline
  save .write (Site.indexPath s.config) (index.execute (Page.indexData s.config s.timeline))
  note { level := .info, message := "rendered site"
         fields := [("output", .text s.config.outputPath), ("posts", .int s.timeline.length)] }
  emit Site.rendered

/-- Writes all pages, unless the building has been called off from the beginning. -/
def render (cancelled : Bool) : Build SiteError Unit := renderUntil (if cancelled then some 0 else none)

/-- Builds the site. -/
def build (cancelled : Bool) : Build SiteError Unit := do
  scan
  render cancelled

end Build

namespace Site

variable {ε α : Type}

/-- Takes a step of a building. -/
def run (s : Site) (b : Build ε α) : Except ε α × Site := (ExceptT.run b).run s

end Site

end Marginalia
