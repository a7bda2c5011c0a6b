import Marginalia.Command.Run
import Marginalia.Preview.Serve

/-!
Starting the preview: the posts are read and rendered, then the server listens, if its port can be used.
-/

namespace Marginalia

namespace Preview

/-- Why the server cannot listen. -/
inductive PortFault where
  /-- A number outside the range of ports. -/
  | outOfRange (port : Text)
  /-- No number, and no service of that name. -/
  | unknown (port : Text)
  /-- No port at all. -/
  | tooManyColons (port : Text)
  /-- A bracket where an address has none. -/
  | bracket (port : Text) (sign : UInt8)
deriving DecidableEq, Repr

def PortFault.message : PortFault → Text
  | .outOfRange port => "listen tcp: address " ++ port ++ ": invalid port"
  | .unknown port => "listen tcp: lookup tcp/" ++ port ++ ": unknown port"
  | .tooManyColons port => "listen tcp: address :" ++ port ++ ": too many colons in address"
  | .bracket port sign =>
    "listen tcp: address :" ++ port ++ ": unexpected '" ++ sign :: Text.ofString "' in address"

/-- The highest port. -/
def maxPort : Int := 65535

/-- The number of a port. -/
def port (t : Text) : Except PortFault Int :=
  let brackets : List UInt8 := ['[', ']']
  if t.contains ':'.toUInt8 then .error (.tooManyColons t)
  else match brackets.find? t.contains with
  | some sign => .error (.bracket t sign)
  | none =>
    let digits : Text := match t with
      | c :: rest => if c == '+' || c == '-' then rest else t
      | [] => []
    if !digits.all Text.isDigit then .error (.unknown t)
    else
      let size : Int := Text.digitsValue 10 digits
      let n := if t.head? == some '-'.toUInt8 then -size else size
      if n < 0 || maxPort < n then .error (.outOfRange t) else .ok n

/-- The site that the preview shows, after its posts have been read and rendered. -/
def prepare (s : Site) : Except SiteError Unit × Site :=
  s.run do
    Build.scan
    Build.renderBodies

/-- Ends a run with an entry in the log. -/
def fatal (s : Site) (message error : Text) : Command.Outcome :=
  { exit := 1, site := s.note { level := .fatal, message, fields := [("error", .text error)] } }

/-- Starts the preview, up to the point where it listens. -/
def start (env : Config.Environment) (tree : File.Tree) (now : Moment) : Command.Outcome :=
  let site := { Site.withComments (Config.load env tree) tree with now }
  match prepare site with
  | (.error e, s) => fatal s "scan site" e.message
  | (.ok (), s) =>
    if templates?.isNone then fatal s "load templates" "file does not exist"
    else
      let s := s.note { level := .info, message := "preview server starting"
                        fields := [("port", .text s.config.port), ("posts", .int s.timeline.length)] }
      match port s.config.port with
      | .error f => fatal s "server stopped" f.message
      | .ok _ => { site := s }

end Preview

end Marginalia
