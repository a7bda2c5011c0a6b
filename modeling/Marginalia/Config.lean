import Marginalia.File.Path

/-!
The configuration of a site, and how environment variables set it.
-/

namespace Marginalia

/-- What a site is built from and how. -/
structure Config where
  /-- The root of the site. -/
  siteDir : Text := "."
  /-- The posts, below the root unless absolute. -/
  postsDir : Text := "posts"
  /-- The rendered site, below the root unless absolute. -/
  outputDir : Text := "output"
  siteTitle : Text := "Blog"
  siteUrl : Text := "http://localhost:8080"
  /-- Where the comment form sends to; pages have no form while it is empty. -/
  formAction : Text := []
  /-- Do broken comments of a post stop the build, or is the post shown without them? -/
  failOnCommentError : Bool := true
  /-- How many posts are processed at a time; below one it is one. -/
  workers : Int := 4
  renderCacheSize : Int := 500
  /-- How many comments the feed holds; all of them at zero and below. -/
  feedLimit : Int := 50
  port : Text := "8080"
  debug : Bool := false
deriving DecidableEq, Repr, Inhabited

namespace Config

/-- A directory of the site: below the root unless it is absolute. -/
def resolve (c : Config) (dir : Text) : Text :=
  if Path.isAbsolute dir then dir else Path.join [c.siteDir, dir]

def postsPath (c : Config) : Text := c.resolve c.postsDir

def outputPath (c : Config) : Text := c.resolve c.outputDir

/-! ### Environment -/

/-- Environment variables, a later one of the same name over an earlier one. -/
abbrev Environment := List (Text × Text)

/-- The value of a variable, empty when it is not set. -/
def value (env : Environment) (name : Text) : Text :=
  ((env.reverse.find? fun (n, _) => n == name).map (·.2)).getD []

def text (env : Environment) (name fallback : Text) : Text :=
  let v := value env name
  if v.isEmpty then fallback else v

/-- The integer a text writes: digits with at most one sign in front, within 64 bits. -/
def integer? (t : Text) : Option Int :=
  let signed : Option Int := match t with
    | [] => none
    | c :: digits =>
      if c == '-' then (Text.toNat? digits).map fun n => -(Int.ofNat n)
      else if c == '+' then (Text.toNat? digits).map Int.ofNat
      else (Text.toNat? t).map Int.ofNat
  signed.filter fun i => -Text.signedLimit ≤ i && i < Text.signedLimit

/-- The integer of a variable if it is at least `least`. -/
def integer (env : Environment) (name : Text) (least fallback : Int) : Int :=
  ((integer? (value env name)).filter (least ≤ ·)).getD fallback

/-- The spellings of yes and no. -/
def bool? (t : Text) : Option Bool :=
  if (["1", "t", "T", "true", "TRUE", "True"] : List Text).contains t then some true
  else if (["0", "f", "F", "false", "FALSE", "False"] : List Text).contains t then some false
  else none

def bool (env : Environment) (name : Text) (fallback : Bool) : Bool :=
  (bool? (value env name)).getD fallback

/-- The configuration that the environment describes; what it does not set, or sets to something
unusable, keeps its default. -/
def ofEnvironment (env : Environment) : Config :=
  let d : Config := {}
  { siteDir := text env "SITE_DIR" d.siteDir
    postsDir := text env "POSTS_DIR" d.postsDir
    outputDir := text env "OUTPUT_DIR" d.outputDir
    siteTitle := text env "SITE_TITLE" d.siteTitle
    siteUrl := Text.dropEnd (text env "SITE_URL" d.siteUrl) "/"
    formAction := text env "STATICMAN_ENDPOINT" d.formAction
    failOnCommentError := bool env "COMMENTS_FAIL_ON_ERROR" d.failOnCommentError
    workers := integer env "BUILD_WORKERS" 1 d.workers
    renderCacheSize := integer env "RENDER_CACHE_SIZE" 1 d.renderCacheSize
    feedLimit := integer env "FEED_LIMIT" 0 d.feedLimit
    port := text env "PORT" d.port
    debug := bool env "DEBUG" d.debug }

end Config

end Marginalia
