import Marginalia.Site.Signal

/-!
Finding the posts: all files with the extension `.md` below a directory, apart from hidden directories and
those with comments.
-/

namespace Marginalia

namespace Site

/-- Is the directory left out? -/
def isSkipped (name : Text) : Bool := Text.startsWith name "." || Text.endsWith name Post.commentsSuffix

/-- Is this the path of a post? -/
def isPostPath (path : Text) : Bool := Text.lower (Path.extension path) == ".md"

/-- The paths of the posts below a directory, in the order of their names; the number bounds the depth. -/
def postPaths (t : File.Tree) : (depth : Nat) → File.Place → (path : Text) → List Text
  | 0, _, _ => []
  | depth + 1, dir, path =>
    (t.names dir).flatMap fun name =>
      let path := Path.join [path, name]
      match t.get? (dir ++ [name]) with
      | some .dir => if isSkipped name then [] else postPaths t depth (dir ++ [name]) path
      | _ => if isPostPath path then [path] else []

/-- The paths of the posts at or below a path. -/
def findPosts (t : File.Tree) (root : Text) : Except File.Error (List Text) :=
  match t.find false root with
  | .error c => .error ⟨"lstat", root, c⟩
  | .ok (place, .dir) => .ok (postPaths t (t.depth + 1) place root)
  | .ok _ => .ok (if isPostPath root then [root] else [])

/-- Reads the post at a path. -/
def readPost (t : File.Tree) (path : Text) : Except ScanError Post :=
  match t.readFile path with
  | .error e => .error (.file e)
  | .ok source =>
    match Post.parse path source with
    | .error f => .error (.post path f)
    | .ok p => .ok p

/-- All posts at or below a path. -/
def readPosts (t : File.Tree) (root : Text) : Except ScanError (List Post) :=
  match findPosts t root with
  | .error e => .error (.file e)
  | .ok paths => paths.mapM (readPost t)

/-- The order of posts: newest first, those of one instant by slug. -/
def postOrder (a b : Post) : Ordering := (b.date.order a.date).then (Text.order a.slug b.slug)

/-- The posts in order. -/
def sortPosts (posts : List Post) : List Post := posts.mergeSort fun a b => postOrder a b != .gt

/-- The first two posts with the same slug. -/
def sharedSlug? : (seen : List Post) → List Post → Option (Post × Post)
  | _, [] => none
  | seen, p :: more =>
    match seen.find? (·.slug == p.slug) with
    | some other => some (other, p)
    | none => sharedSlug? (seen ++ [p]) more

/-- The posts of a site, in order; no two have the same slug. -/
def timelineOf (t : File.Tree) (root : Text) : Except SiteError (List Post) :=
  match readPosts t root with
  | .error e => .error (.scan root e)
  | .ok posts =>
    let sorted := sortPosts posts
    match sharedSlug? [] sorted with
    | some (a, b) => .error (.sharedSlug a.sourcePath b.sourcePath b.slug)
    | none => .ok sorted

/-- The slugs of posts, each with the place of its post. -/
def slugPlacesOf (posts : List Post) : List (Text × Nat) := posts.zipIdx.map fun (p, place) => (p.slug, place)

end Site

namespace Build

/-- Finds the posts anew. If that fails, those found before stay. -/
def scan : Build SiteError Unit := do
  let s ← get
  let root := s.config.postsPath
  let timeline ← Site.timelineOf s.tree root
  change fun s => { s with timeline, slugPlaces := Site.slugPlacesOf timeline }
  note { level := .info, message := "scanned posts"
         fields := [("dir", .text root), ("posts", .int timeline.length)] }
  emit Site.scanned

end Build

end Marginalia
