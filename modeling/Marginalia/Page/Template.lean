import Marginalia.Calendar.Format
import Marginalia.Page.Escape
import Marginalia.Page.Indent
import Marginalia.Post

/-!
Templates of pages. A template speaks of values by their names, and says of each place where a value goes whether it is
text, an attribute or a link there. It is assembled from sources: one has the body of the page, and all of them may define
parts that bodies call by name.
-/

namespace Marginalia

namespace Template

/-! ### Values -/

/-- What a template can speak of. -/
inductive Value where
  | absent
  | text (t : Text)
  /-- Markup that is trusted. -/
  | markup (t : Text)
  /-- A measure for a style, which is trusted. -/
  | measure (t : Text)
  | number (n : Nat)
  | flag (b : Bool)
  | moment (m : Moment)
  | post (p : Post)
  | posts (ps : List Post)
  | comment (c : ThreadedComment)
  | comments (cs : List ThreadedComment)
  /-- Values by their names. -/
  | record (fields : Text → Option Value)

/-- Values by their names, as a page is given them. -/
abbrev Data := Text → Option Value

namespace Data

/-- The data that has these fields. -/
def ofFields (fields : List (Text × Value)) : Data := fun n => fields.lookup n

/-- The data with another value under a name. -/
def set (d : Data) (name : Text) (v : Value) : Data := fun n => if n == name then some v else d n

/-- The data with those of another put over them. -/
def merge (d others : Data) : Data := fun n => (others n).or (d n)

end Data

namespace Value

/-- What a post has to show. -/
def ofPost (p : Post) : List (Text × Value) :=
  [("Title", text p.title), ("Slug", text p.slug), ("URL", text p.url), ("Date", moment p.date), ("Body", markup p.body),
    ("Comments", comments (p.comments.getD [])), ("CommentCount", number p.commentCount)]

/-- What a comment has to show. -/
def ofComment (c : ThreadedComment) : List (Text × Value) :=
  [("ID", text c.id), ("Anchor", text c.anchor), ("Author", text c.author), ("URL", text c.url), ("Date", moment c.date),
    ("HTML", markup c.html), ("Depth", number c.depth)]

/-- The value under a name of another. -/
def field : Value → Text → Value
  | record fields, name => (fields name).getD absent
  | post p, name => ((ofPost p).lookup name).getD absent
  | comment c, name => ((ofComment c).lookup name).getD absent
  | moment m, name => if name == "IsZero" then flag m.isZero else absent
  | _, _ => absent

/-- Does a condition hold that is such a value? -/
def holds : Value → Bool
  | absent => false
  | text t | markup t | measure t => !t.isEmpty
  | number n => n != 0
  | flag b => b
  | posts ps => !ps.isEmpty
  | comments cs => !cs.isEmpty
  | moment _ | post _ | comment _ | record _ => true

/-- What a repetition goes through. -/
def members : Value → List Value
  | posts ps => ps.map post
  | comments cs => cs.map comment
  | _ => []

/-- A value that is written as it is. -/
def plain : Value → Text
  | text t | markup t | measure t => t
  | number n => Text.ofNat n
  | flag b => if b then "true" else "false"
  | _ => []

end Value

/-! ### Expressions -/

/-- The functions that templates may use. -/
inductive Function where
  | len
  | not
  | formatDate
  | isoDate
  | indent
deriving DecidableEq, Repr

def Function.apply : Function → Value → Value
  | .len, .posts ps => .number ps.length
  | .len, .comments cs => .number cs.length
  | .not, v => .flag !v.holds
  | .formatDate, .moment m => .text m.readerText
  | .isoDate, .moment m => .text m.isoText
  | .indent, .number n => .measure (Page.indentText n)
  | _, _ => .absent

/-- What a template says of its value. -/
inductive Expr where
  /-- The value under a name, or under further names of that. -/
  | field (name : Text) (more : List Text := [])
  | apply (f : Function) (e : Expr)

def Expr.eval (dot : Value) : Expr → Value
  | field name more => more.foldl Value.field (dot.field name)
  | apply f e => f.apply (e.eval dot)

/-! ### Bodies -/

/-- Where in a page a value goes. -/
inductive Context where
  | text
  | attribute
  /-- A whole link in an attribute. -/
  | link
  /-- The part of a link that names a place on a page. -/
  | anchor
  /-- A measure in the style of an attribute. -/
  | style
deriving DecidableEq, Repr

/-- What stands where a measure is not trusted. -/
def blockedMeasure : Text := "ZgotmplZ"

/-- A value written where it goes. -/
def Value.written : Context → Value → Text
  | .text, .markup t => t
  | .text, v => Page.escape v.plain
  | .attribute, v => Page.escape v.plain
  | .link, v => Page.link v.plain
  | .anchor, v => Page.anchor v.plain
  | .style, .measure t => Page.escape t
  | .style, _ => blockedMeasure

/-- A body, from some part of it on. -/
inductive Body where
  | stop
  | literal (t : Text) (next : Body)
  | print (context : Context) (e : Expr) (next : Body)
  | branch (condition : Expr) (yes no next : Body)
  /-- A body for each member of a value. -/
  | each (e : Expr) (body next : Body)
  /-- The body that is defined under a name, for the same value. -/
  | call (name : Text) (next : Body)

namespace Body

/-- Writes a body for a value. -/
def write (called : Text → Value → Text) : Body → Value → Text
  | stop, _ => []
  | literal t next, dot => t ++ next.write called dot
  | print context e next, dot => (e.eval dot).written context ++ next.write called dot
  | branch condition yes no next, dot =>
    (if (condition.eval dot).holds then yes.write called dot else no.write called dot) ++ next.write called dot
  | each e body next, dot => (e.eval dot).members.flatMap (body.write called) ++ next.write called dot
  | call name next, dot => called name dot ++ next.write called dot

/-- Is there nothing but white space? -/
def isBlank : Body → Bool
  | stop => true
  | literal t next => t.all Text.isSpace && next.isBlank
  | _ => false

end Body

end Template

/-! ### Templates -/

/-- A source: the body of a page, and bodies under names. -/
structure Template.Source where
  body : Template.Body
  defined : List (Text × Template.Body) := []

/-- The template of a page: bodies under names, of which that under its own name is the page. -/
structure Template where
  name : Text
  defined : List (Text × Template.Body) := []

namespace Template

/-- Puts a body under a name. A blank body takes the place of no other. -/
def define (t : Template) (name : Text) (body : Body) : Template :=
  if body.isBlank && (t.defined.lookup name).isSome then t else { t with defined := (name, body) :: t.defined }

/-- Puts in what a source has. -/
def parse (t : Template) (source : Source) : Template :=
  source.defined.foldl (fun t d => t.define d.1 d.2) (t.define t.name source.body)

/-- The template with this name from its sources. -/
def assemble (name : Text) (sources : List Source) : Template := sources.foldl parse { name }

/-- How many bodies may be called within each other. -/
def maxDepth : Nat := 100000

/-- Writes the body under a name, and those that it calls; the number bounds how deep they are within each other. A body
that is not defined is left out. -/
def call (t : Template) : (depth : Nat) → (name : Text) → Value → Text
  | 0, _, _ => []
  | depth + 1, name, dot =>
    match t.defined.lookup name with
    | some body => body.write (t.call depth) dot
    | none => []

/-- The page for its data. -/
def execute (t : Template) (d : Data) : Text := t.call maxDepth t.name (.record d)

end Template

end Marginalia
