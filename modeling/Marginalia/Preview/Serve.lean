import Marginalia.Page.Data
import Marginalia.Page.Script
import Marginalia.Preview.Documents
import Marginalia.Preview.RequestLog
import Marginalia.Preview.Response
import Marginalia.Preview.Route
import Marginalia.Site.Deploy

/-!
The preview of a site: it answers requests from what has been built so far and logs all but those that it
only sends elsewhere.
-/

namespace Marginalia

namespace Preview

/-! ### Pages -/

open Template (Data)

/-- The templates of all pages, in the order of their names; nothing if one lacks a source. -/
def templates? : Option (List (Text × Template)) :=
  ((Page.pages.map (·.1)).mergeSort fun a b => Text.order a b != .gt).mapM fun page =>
    (Page.pageSources? page).map fun sources => (page, Template.assemble page sources)

/-- What a page is written for that is asked for: what all pages are written for, what it has itself, and the path. -/
def requestData (s : Site) (r : Request) (own : Data) : Data :=
  ((Page.pageData s.config []).merge own).set "CurrentPath" (.text r.url.path)

/-- A page that is asked for. -/
def render (s : Site) (r : Request) (status : Nat) (page : Text) (own : Data) : Response :=
  let template? := templates?.bind fun templates => templates.lookup page
  { Response.page ((template?.map fun t => t.execute (requestData s r own)).getD []) with status }

/-- The wording of a status. -/
def statusText : Nat → Text
  | 404 => "Not Found"
  | 500 => "Internal Server Error"
  | _ => []

/-- A page that tells of an error. -/
def renderError (s : Site) (r : Request) (status : Nat) (message : Text) : Response :=
  render s r status "error.html" (.ofFields [("Title", .text (statusText status)), ("Error", .text message)])

/-- The answer where no part of the preview is asked. -/
def noPage (s : Site) (r : Request) : Response := renderError s r 404 "Page not found"

/-- The page with the list of posts. -/
def indexPage (s : Site) (r : Request) : Response := render s r 200 "index.html" (Page.indexData s.config s.timeline)

/-- The page of a post. -/
def postPage (s : Site) (r : Request) (slug : Text) : Response :=
  match s.post? slug with
  | some p => render s r 200 "post.html" (Page.postData s.config p)
  | none => renderError s r 404 "Post not found"

/-! ### Comments -/

/-- The comments of a post. Comments that cannot be given as data leave the answer empty. -/
def commentsOf (s : Site) (slug : Text) : Response :=
  match s.post? slug with
  | none => { Response.json (Json.object [("error", Json.string "post not found")]) with status := 404 }
  | some p =>
    match commentsData p with
    | .ok body => Response.json body
    | .error e => { Response.json [] with errors := [e.message] }

/-! ### Files that go with the pages -/

/-- What is found below the directory of the files. -/
inductive Asset where
  | listing (names : List Text)
  /-- A directory that is asked for without its slash. -/
  | directory (name : Text)
  | script
deriving DecidableEq, Repr

/-- The directory of the script. -/
def scriptDirectory : Text := Path.parent Page.scriptFile

/-- What a path names. -/
def asset? (path : Text) : Option Asset :=
  if path == "/" then some (.listing [scriptDirectory ++ "/"])
  else if path == "/" ++ scriptDirectory then some (.directory scriptDirectory)
  else if path == "/" ++ Page.scriptFile then some .script
  else none

/-- A line with a link to a name. -/
def nameLink (name : Text) : Text := "<a href=\"" ++ name ++ "\">" ++ name ++ "</a>\n"

/-- A list of links. -/
def listingPage (names : List Text) : Text :=
  "<!doctype html>\n<meta name=\"viewport\" content=\"width=device-width\">\n<pre>\n"
    ++ names.flatMap nameLink ++ "</pre>\n"

/-- Is the directory of the files also written plainly in the address? -/
def writesAssetRoot (u : Url) : Bool := u.writtenPath.isEmpty || Text.startsWith u.writtenPath assetRoot

/-- A file that goes with the pages. -/
def assetResponse (s : Site) (r : Request) (path : Text) : Response :=
  match asset? path with
  | none => noPage s r
  | some a =>
    if !writesAssetRoot r.url then { Response.plain "404 page not found\n" with status := 404 }
    else match a with
      | .listing names => Response.page (listingPage names)
      | .directory name =>
        { status := 301, location := name ++ "/" ++ Text.onlyIf (!r.url.query.isEmpty) ("?" ++ r.url.query) }
      | .script =>
        { contentType := "text/javascript; charset=utf-8"
          body := Text.onlyIf (r.method != "HEAD") Page.script }

/-! ### The whole -/

/-- The response of a part of the preview. -/
def routeResponse (s : Site) (host : Text) (r : Request) : Route → Response
  | .index => indexPage s r
  | .post slug => postPage s r slug
  | .comments slug => commentsOf s slug
  | .greeting name => Response.json (greeting name host)
  | .robots => Response.plain (robots s.config.siteUrl)
  | .sitemap => { contentType := "application/xml; charset=utf-8", body := sitemap s.config.siteUrl s.timeline }
  | .feed => { contentType := "application/rss+xml; charset=utf-8", body := s.feed }
  | .asset path => assetResponse s r path

/-- The log entry of a request and its response. -/
def entry (r : Request) (answer : Response) : Log.Entry :=
  Exchange.entry { method := r.method, path := r.url.path, status := answer.status, errors := answer.errors }

/-- Answers a request on a host. -/
def serve (s : Site) (host : Text) (r : Request) : Response × Site :=
  let logged (answer : Response) : Response × Site := (answer, s.note (entry r answer))
  match lookUp r.method r.url.path with
  | .found route => logged (routeResponse s host r route)
  | .otherSlash => (Response.redirect r { r.url with path := otherSlash r.url.path, writtenPath := [] }, s)
  | .unknown => logged (noPage s r)

end Preview

end Marginalia
