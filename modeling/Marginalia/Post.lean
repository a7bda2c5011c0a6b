import Marginalia.Calendar.FreeForm
import Marginalia.Comment.Basic
import Marginalia.File.Path
import Marginalia.FrontMatter
import Marginalia.Slug
import Marginalia.Text.Quoted
import Marginalia.Yaml.Record

/-!
Posts: a body in Markdown behind settings for title, slug and date. What the settings leave open comes from
the name of the file.
-/

namespace Marginalia

/-- A post. Its comments are absent until they have been looked for, and the body until it is rendered. -/
structure Post where
  sourcePath : Text
  title : Text
  slug : Text
  date : Moment := Moment.zero
  content : Text := []
  body : Text := []
  comments : Option (List ThreadedComment) := none
deriving DecidableEq, Repr, Inhabited

/-- Why a text is no post. -/
inductive PostFault where
  | badSettings
  | badSlug (slug : Text)
  | badDate (date : Text)
deriving DecidableEq, Repr

/-- The wording of a fault in the file at a path. -/
def PostFault.message (path : Text) (f : PostFault) : Text :=
  path ++ ": " ++ match f with
    | .badSettings => ("front matter: yaml: not a record of settings" : Text)
    | .badSlug slug => "invalid slug " ++ Text.quoted slug
    | .badDate date => "date " ++ Text.quoted date ++ ": unknown form"

namespace Post

/-- How the directory with the comments of a post ends. -/
def commentsSuffix : Text := ".comments"

/-- The directory with the comments of a post stands beside it. -/
def commentsDir (p : Post) : Text := p.sourcePath ++ commentsSuffix

/-- The address of a post within the site. -/
def url (p : Post) : Text := "/posts/" ++ p.slug ++ "/"

def commentCount (p : Post) : Nat := (p.comments.getD []).length

/-- Does the post have a date? -/
def hasDate (p : Post) : Bool := !p.date.isZero

/-- The name of a file without directory and extension. -/
def stem (path : Text) : Text := Text.dropEnd (Path.base path) (Path.extension (Path.base path))

/-- The settings that a post may have. -/
def fields : List Text := Text.words "title slug date"

/-- The first text that is not empty. -/
def firstOf (a b : Text) : Text := if a.isEmpty then b else a

/-- The post that settings and a body make. -/
def ofRecord (path : Text) (r : Yaml.Record) (content : Text) : Except PostFault Post :=
  let title := firstOf (Text.trim (r.get "title")) (stem path)
  let slug := firstOf (Text.trim (r.get "slug")) (firstOf (Slug.ofTitle title) (Slug.ofTitle (stem path)))
  let date := Text.trim (r.get "date")
  let post : Post := { sourcePath := path, title, slug, content }
  if !Slug.isSlug slug then .error (.badSlug slug)
  else if date.isEmpty then .ok post
  else match Moment.parseFreeForm? date with
    | some moment => .ok { post with date := moment }
    | none => .error (.badDate date)

/-- Reads the post in the file at a path. -/
def parse (path source : Text) : Except PostFault Post :=
  let parts := FrontMatter.split source
  match parts.settings.filter (!·.isEmpty) with
  | none => ofRecord path [] parts.body
  | some settings =>
    match Yaml.readRecord fields settings with
    | .wrong => .error .badSettings
    | .absent => ofRecord path [] parts.body
    | .record r => ofRecord path r parts.body

end Post

end Marginalia
