import Marginalia.Text.Basic

/-!
Which part of the preview answers a path. A path that would be known with one slash more or less at its end
leads there; any other path is unknown.
-/

namespace Marginalia

namespace Preview

/-- The parts of the preview. -/
inductive Route where
  | index
  | post (slug : Text)
  | comments (slug : Text)
  | greeting (name : Text)
  | robots
  | sitemap
  | feed
  /-- A file that goes with the pages, by its path below their directory, which starts with a slash. -/
  | asset (path : Text)
deriving DecidableEq, Repr

/-- What is known of a path. -/
inductive Match where
  | found (r : Route)
  /-- The path with its last slash removed, or with one more, is the right one. -/
  | otherSlash
  | unknown
deriving DecidableEq, Repr

namespace Match

/-- A second way to know a path. -/
def orElse : Match → (Unit → Match) → Match
  | .unknown, other => other ()
  | m, _ => m

instance orElseMatch : OrElse Match := ⟨orElse⟩

end Match

/-- The first component of a path, and the rest from the slash behind it on. -/
def component (t : Text) : Text × Text := Text.span (fun c : UInt8 => c != '/') t

/-- Where a path leads that is exactly one text. -/
def fixedPath (known : Text) (r : Route) (path : Text) : Match :=
  match Text.after? path known with
  | some [] => .found r
  | some rest => if rest == "/" then .otherSlash else .unknown
  | none => .unknown

/-- What follows a directory in a path, if that is not empty. -/
def below? (directory path : Text) : Option Text := (Text.after? path directory).filter (!·.isEmpty)

/-- The pages of posts. -/
def postPath (path : Text) : Match :=
  match below? "/posts/" path with
  | none => .unknown
  | some rest =>
    let (slug, tail) := component rest
    if tail == "/" then .found (.post slug)
    else if tail == "" || tail == "//" then .otherSlash
    else .unknown

/-- The comments of posts as data. Their directory counts as a known path with its slash removed. -/
def commentsPath (path : Text) : Match :=
  match below? "/api/posts/" path with
  | none => .unknown
  | some rest =>
    let (slug, tail) := component rest
    if tail == "/comments" then .found (.comments slug)
    else if tail == "/" || tail == "/comments/" then .otherSlash
    else .unknown

/-- Greetings. -/
def greetingPath (path : Text) : Match :=
  match below? "/greet/" path with
  | none => .unknown
  | some rest =>
    let (name, tail) := component rest
    if tail == "" then .found (.greeting name)
    else if tail == "/" then .otherSlash
    else .unknown

/-- Where the files are that go with the pages. -/
def assetRoot : Text := "/assets"

/-- The files that go with the pages. -/
def assetPath (path : Text) : Match :=
  match Text.after? path assetRoot with
  | none => .unknown
  | some [] => .otherSlash
  | some (c :: rest) => if c == '/' then .found (.asset (c :: rest)) else .unknown

/-- What is known of a path that is asked for with a method. Pages can only be got; of the files that go with
them one may also ask for the headers alone. -/
def lookUp (method path : Text) : Match :=
  if method == "GET" then
    fixedPath "/" .index path
      <|> postPath path
      <|> commentsPath path
      <|> greetingPath path
      <|> fixedPath "/robots.txt" .robots path
      <|> fixedPath "/sitemap.xml" .sitemap path
      <|> fixedPath "/comments.xml" .feed path
      <|> assetPath path
  else if method == "HEAD" then assetPath path
  else .unknown

/-- The path with its last slash removed, or with one more. -/
def otherSlash (path : Text) : Text :=
  if 1 < path.length && Text.endsWith path "/" then path.take (path.length - 1) else path ++ "/"

end Preview

end Marginalia
