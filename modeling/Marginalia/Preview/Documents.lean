import Marginalia.Calendar.Format
import Marginalia.Json
import Marginalia.Post
import Marginalia.Xml

/-!
What the preview gives to programs: the rules for robots, the map of the site, and comments as data.
-/

namespace Marginalia

namespace Preview

/-- The rules for robots. -/
def robots (siteUrl : Text) : Text :=
  "User-agent: *\nAllow: /\n\n# API 只用于预览\nDisallow: /api/\n\nSitemap: " ++ siteUrl ++ "/sitemap.xml\n"

/-! ### The map of the site -/

/-- The later of two moments, the first where they are the same. -/
def later (a b : Moment) : Moment := if b.order a == .gt then b else a

/-- When something was last said in a post: its own date or that of its latest comment. -/
def lastChange (p : Post) : Moment := ((p.comments.getD []).map (·.date)).foldl later p.date

/-- The entry of a post. -/
def sitemapEntry (siteUrl : Text) (p : Post) : Text :=
  let changed := lastChange p
  "  <url>\n    <loc>" ++ Xml.escapeMarkup (siteUrl ++ p.url) ++ "</loc>\n"
    ++ Text.onlyIf (!changed.isZero) ("    <lastmod>" ++ changed.utc.dateText ++ "</lastmod>\n")
    ++ "    <priority>0.7</priority>\n  </url>\n"

/-- The map of the site: the list of posts, then each post. -/
def sitemap (siteUrl : Text) (posts : List Post) : Text :=
  "<?xml version=\"1.0\" encoding=\"UTF-8\"?>\n<urlset xmlns=\"http://www.sitemaps.org/schemas/sitemap/0.9\">\n"
    ++ "  <url>\n    <loc>" ++ Xml.escapeMarkup siteUrl
    ++ "/</loc>\n    <changefreq>daily</changefreq>\n    <priority>1.0</priority>\n  </url>\n"
    ++ posts.flatMap (sitemapEntry siteUrl) ++ "</urlset>"

/-! ### Comments as data -/

/-- Why a date cannot be given as data. -/
inductive DateFault where
  | year
  | offset
deriving DecidableEq, Repr

def DateFault.message : DateFault → Text
  | .year => "json: date: year outside of range [0,9999]"
  | .offset => "json: date: timezone hour outside of range [0,23]"

/-- A date as data, which has room for years of four digits and for offsets of less than a day. -/
def dateData (m : Moment) : Except DateFault Text :=
  if m.civil.year < 0 || 9999 < m.civil.year then .error .year
  else if 86400 ≤ m.offset.natAbs then .error .offset
  else .ok (Json.string m.internetText)

/-- A field that is left out if its text is empty. -/
def field? (name value : Text) : List (Text × Text) := if value.isEmpty then [] else [(name, Json.string value)]

/-- The place of the comment that a comment answers, below zero if there is none. -/
def parentNumber : Option Nat → Int
  | some k => k
  | none => -1

/-- A comment as data. -/
def commentData (c : ThreadedComment) : Except DateFault Text := do
  let date ← dateData c.date
  let who : List (Text × Text) := [("id", Json.string c.id), ("author", Json.string c.author)]
  let place : List (Text × Text) :=
    [("html", Json.string c.html), ("depth", Json.number c.depth), ("parent", Json.number (parentNumber c.parent))]
  let said : List (Text × Text) := [("date", date)]
  return Json.object (who ++ field? "url" c.url ++ said ++ field? "replying_to_id" c.replyingTo ++ place)

/-- The comments of a post as data, in the order in which its page shows them. -/
def commentsData (p : Post) : Except DateFault Text := do
  let comments ← (p.comments.getD []).mapM commentData
  return Json.object [("comments", Json.array comments), ("count", Json.number p.commentCount),
    ("post", Json.string p.slug)]

/-- A greeting from a host. -/
def greeting (name host : Text) : Text :=
  Json.object [("data", Json.object [("message", Json.string ("Hello " ++ name ++ "!"))]),
    ("info", Json.object [("hostname", Json.string host)])]

end Preview

end Marginalia
