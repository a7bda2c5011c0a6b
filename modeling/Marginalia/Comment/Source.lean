import Marginalia.Calendar.FreeForm
import Marginalia.Comment.Basic
import Marginalia.Comment.Markup
import Marginalia.Text.Quoted
import Marginalia.Yaml.Record

/-!
The files in which comments are kept: records with the fields of a comment. Id, date and message must be
there, and the date may be in any common form. Whoever reads a comment says how its message is rendered: at once, or
by way of a cache.
-/

namespace Marginalia

/-- Why a text is no comment. -/
inductive CommentFault where
  | empty
  | unreadable
  /-- A field that must be there has nothing but white space. -/
  | missing (field : Text)
  | badDate (date : Text)
deriving DecidableEq, Repr

/-- The wording of a fault. -/
def CommentFault.message (f : CommentFault) : Text :=
  "invalid comment: " ++ match f with
    | .empty => ("empty file" : Text)
    | .unreadable => "yaml: not a record of a comment"
    | .missing field => "missing " ++ field
    | .badDate date => "date " ++ Text.quoted date ++ ": unknown form"

namespace Comment

/-- The names of the fields in a file. -/
def fields : List Text := Text.words "_id author url date replying_to_id message"

variable {m : Type → Type} [Monad m]

/-- The comment that a record describes, with its message rendered by `render`. White space around the fields does not
count, but that of the message is kept. -/
def ofRecordBy (render : Text → m Text) (r : Yaml.Record) : ExceptT CommentFault m Comment :=
  let id := Text.trim (r.get "_id")
  let date := r.get "date"
  let message := r.get "message"
  if id.isEmpty then throw (.missing "_id")
  else if (Text.trim date).isEmpty then throw (.missing "date")
  else if (Text.trim message).isEmpty then throw (.missing "message")
  else match Moment.parseFreeForm? (Text.trim date) with
    | none => throw (.badDate date)
    | some moment => do
      let html ← render message
      return {
        id, message, html, date := moment
        author := Text.trim (r.get "author")
        url := Text.trim (r.get "url")
        replyingTo := Text.trim (r.get "replying_to_id") }

/-- The comment that a record describes. -/
def ofRecord (r : Yaml.Record) : Except CommentFault Comment := Id.run (ofRecordBy (m := Id) renderMessage r).run

/-- Reads a comment, whose message is rendered by `render`. -/
def parseBy (render : Text → m Text) (source : Text) : ExceptT CommentFault m Comment :=
  match Yaml.readRecord fields source with
  | .wrong => throw .unreadable
  | .absent => throw .empty
  | .record r => ofRecordBy render r

/-- Reads a comment. -/
def parse (source : Text) : Except CommentFault Comment := Id.run (parseBy (m := Id) renderMessage source).run

end Comment

end Marginalia
