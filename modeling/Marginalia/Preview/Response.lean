import Marginalia.File.Path
import Marginalia.Url
import Marginalia.Xml

/-!
Requests to the preview and its responses.
-/

namespace Marginalia

namespace Preview

structure Request where
  method : Text := "GET"
  url : Url

structure Response where
  status : Nat := 200
  contentType : Text := []
  location : Text := []
  body : Text := []
  /-- What went wrong while the body was written. -/
  errors : List Text := []
deriving DecidableEq, Repr

namespace Response

/-- A page. -/
def page (body : Text) : Response := { contentType := "text/html; charset=utf-8", body }

/-- Data. -/
def json (body : Text) : Response := { contentType := "application/json; charset=utf-8", body }

/-- Plain text. -/
def plain (body : Text) : Response := { contentType := "text/plain; charset=utf-8", body }

/-- Octets that are not ASCII as escapes. -/
def asciiLocation (t : Text) : Text := t.flatMap fun c => if c < 0x80 then [c] else '%' :: Text.hexPair c

/-- An address on the same host with its path cleaned; a slash at its end and the query stay. -/
def cleanLocation (t : Text) : Text :=
  let path := Text.upTo '?' t
  let cleaned := Path.clean path
  cleaned ++ Text.onlyIf (Text.endsWith path "/" && !Text.endsWith cleaned "/") "/" ++ t.drop path.length

/-- Sends the reader to another address: for good where a page was to be got, else for now. Who got a page
also gets a link. -/
def redirect (r : Request) (url : Url) : Response :=
  let target := if url.scheme.isEmpty && url.host.isEmpty then cleanLocation url.text else url.text
  let get := r.method == "GET"
  let typed : Response := if get || r.method == "HEAD" then page [] else {}
  { typed with
    status := if get then 301 else 307
    location := asciiLocation target
    body := Text.onlyIf get ("<a href=\"" ++ Xml.escapeMarkup target ++ "\">Moved Permanently</a>.\n\n") }

end Response

end Preview

end Marginalia
