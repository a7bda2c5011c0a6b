import Marginalia.Site.State

/-!
The comments of all posts of a site. Posts whose comments are broken stop the building, or are shown without
comments, as the configuration says.
-/

namespace Marginalia

section
variable {m : Type → Type} [Monad m]

/-- The comments of a post, in order, with their messages rendered by `render`. -/
def Post.loadCommentsBy (render : Text → m Text) (tree : File.Tree) (p : Post) :
    ExceptT CommentsError m (List ThreadedComment) := do
  let found ← (Comment.loadDirectoryBy render tree p.commentsDir).adapt .load
  match thread (found.getD []) with
  | .error e => throw (.thread e)
  | .ok cs => return cs

end

/-- The comments of a post, in order. -/
def Post.loadComments (tree : File.Tree) (p : Post) : Except CommentsError (List ThreadedComment) :=
  Id.run (p.loadCommentsBy (m := Id) Comment.renderMessage tree).run

namespace Site

/-- Gives comments to the post with a slug. -/
def setComments (s : Site) (slug : Text) (cs : List ThreadedComment) : Site :=
  match s.slugPlaces.lookup slug with
  | some place => { s with timeline := s.timeline.modify place fun p => { p with comments := some cs } }
  | none => s

/-- What becomes of a post for which comments were loaded, or could not be loaded. -/
def outcomeOf (config : Config) (p : Post) : Except CommentsError (List ThreadedComment) → PostOutcome
  | .ok cs =>
    let entry : Log.Entry :=
      { level := .debug, message := "threaded comments"
        fields := [("post", .text p.sourcePath), ("comments", .int cs.length)] }
    ⟨{ p with comments := some cs }, some entry, none⟩
  | .error e =>
    if config.failOnCommentError then ⟨{ p with comments := none }, none, some (.comments p.sourcePath e)⟩
    else
      let entry : Log.Entry :=
        { level := .warn, message := "rendering post without comments"
          fields := [("post", .text p.sourcePath), ("error", .text e.message)] }
      ⟨{ p with comments := none }, some entry, none⟩

/-- Loads the comments of one post. -/
def processPost (config : Config) (tree : File.Tree) (p : Post) : PostOutcome :=
  outcomeOf config p (p.loadComments tree)

/-- How many posts are processed at a time. -/
def workerLimit (config : Config) : Nat := (max config.workers 1).toNat

end Site

namespace Build

/-- Loads the comments of all posts. -/
def loadComments : Build HandlerError Unit := do
  let s ← get
  let pool := (Pool.ofPosts s.timeline).run (Site.processPost s.config s.tree) (Site.workerLimit s.config) s.schedule
  set (pool.entries.foldl Site.note { s with timeline := pool.posts })
  match pool.error with
  | some e => throw e
  | none => pure ()

end Build

end Marginalia
