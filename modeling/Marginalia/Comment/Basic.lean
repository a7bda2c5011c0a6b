import Marginalia.Calendar.Basic

/-!
Reader comments, and comments placed in a thread.
-/

namespace Marginalia

/-- One reader comment. The id it replies to is empty for a comment on the post itself; `html` is
the rendering of `message`. -/
structure Comment where
  id : Text := []
  author : Text := []
  url : Text := []
  date : Moment := Moment.zero
  replyingTo : Text := []
  message : Text := []
  html : Text := []
deriving DecidableEq, Repr, Inhabited

/-- Does the comment answer another comment? -/
def Comment.isReply (c : Comment) : Bool := !c.replyingTo.isEmpty

/-- A comment in its place: how many replies lie between it and the post, and where in the thread
the comment it answers stands. -/
structure ThreadedComment extends Comment where
  depth : Nat := 0
  parent : Option Nat := none
deriving DecidableEq, Repr, Inhabited

/-- The name of the comment's place on the page. -/
def ThreadedComment.anchor (c : ThreadedComment) : Text := "comment-" ++ c.id

end Marginalia
