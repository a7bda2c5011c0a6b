import Marginalia.Url

/-!
Links to videos, and the id of the video they lead to.
-/

namespace Marginalia

namespace Video

/-- The octets that ids are made of. -/
def isIdOctet (c : UInt8) : Bool := Text.isAlnum c || c == '-' || c == '_'

/-- What a link names as a video, before its octets are looked at. -/
def candidate (u : Url) : Text :=
  let host := Text.dropStart u.host "www."
  if host == "youtube.com" || host == "m.youtube.com" then
    if u.path == "/watch" then (u.parameter? "v").getD [] else []
  else if host == "youtu.be" then Text.strip (· == '/') u.path
  else []

/-- The id of the video that a link leads to; empty for any other link. -/
def id (link : Text) : Text :=
  match Url.parse? link with
  | none => []
  | some u => if (candidate u).all isIdOctet then candidate u else []

end Video

end Marginalia
