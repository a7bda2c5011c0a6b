import Marginalia.Comment.Directory
import Marginalia.Comment.Thread
import Marginalia.Post

/-!
What can go wrong when a site is built, and how it is worded.
-/

namespace Marginalia

/-- Why a post has no comments: they cannot be read, or they make no thread. -/
inductive CommentsError where
  | load (e : LoadError)
  | thread (e : ThreadError)
deriving DecidableEq, Repr

def CommentsError.message : CommentsError → Text
  | .load e => e.message
  | .thread e => e.message

/-- Why a handler of a signal failed. -/
inductive HandlerError where
  /-- The comments of the post at a path. -/
  | comments (path : Text) (e : CommentsError)
  /-- A file that goes with every site. -/
  | deploy (path : Text) (e : File.Error)
  /-- A handler that fails by itself. -/
  | labelled (label : Text)
deriving DecidableEq, Repr

def HandlerError.message : HandlerError → Text
  | .comments path e => "comments for " ++ path ++ ": " ++ e.message
  | .deploy path e => "deploy " ++ path ++ ": " ++ e.message
  | .labelled label => label

/-- Why the posts cannot be read. -/
inductive ScanError where
  | file (e : File.Error)
  | post (path : Text) (f : PostFault)
deriving DecidableEq, Repr

def ScanError.message : ScanError → Text
  | .file e => e.message
  | .post path f => f.message path

/-- Why a site cannot be built. -/
inductive SiteError where
  /-- The posts below a directory. -/
  | scan (root : Text) (e : ScanError)
  | sharedSlug (first second slug : Text)
  | handler (signal : Text) (e : HandlerError)
  | write (e : File.Error)
  | cancelled
  /-- There is no such page. -/
  | noPage (name : Text)
deriving DecidableEq, Repr

/-- The wording of an error. -/
def SiteError.message : SiteError → Text
  | .scan root e => "scan " ++ root ++ ": " ++ e.message
  | .sharedSlug a b slug => "posts " ++ a ++ " and " ++ b ++ " share slug " ++ Text.quoted slug
  | .handler signal e => signal ++ ": " ++ e.message
  | .write e => e.message
  | .cancelled => "context canceled"
  | .noPage name => "template " ++ name ++ ": file does not exist"

end Marginalia
