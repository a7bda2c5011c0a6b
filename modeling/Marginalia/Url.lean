import Marginalia.Text.Basic

/-!
Web addresses: their parts, how they are read from a text, and how they are written.
-/

namespace Marginalia

/-- The parts of an address. Host, path and fragment are decoded; the path and the fragment keep the
form they were written in where it is not the usual one. -/
structure Url where
  scheme : Text := []
  /-- What follows the scheme of an address without a slash, such as a mail address. -/
  rootless : Text := []
  /-- User name and password. -/
  user : Option (Text × Option Text) := none
  host : Text := []
  path : Text := []
  writtenPath : Text := []
  /-- Does a scheme stand before a path without any host? -/
  omitHost : Bool := false
  /-- Does the address end in a question mark? -/
  bareQuery : Bool := false
  query : Text := []
  fragment : Text := []
  writtenFragment : Text := []
deriving DecidableEq, Repr, Inhabited

namespace Url

/-- The parts of an address that escape octets differently. -/
inductive Part where
  | path
  | host
  | zone
  | user
  | query
  | fragment
deriving DecidableEq, Repr

def anyOf (set : String) (c : UInt8) : Bool := (Text.ofString set).contains c

/-- Must the octet be escaped in a part? -/
def mustEscape (part : Part) (c : UInt8) : Bool :=
  if Text.isAlnum c then false
  else if (part == .host || part == .zone) && anyOf "!$&'()*+,;=:[]<>\"" c then false
  else if anyOf "-_.~" c then false
  else if anyOf "$&+,/:;=?@" c then
    match part with
    | .path => c == '?'
    | .user => c == '@' || c == '/' || c == '?' || c == ':'
    | .fragment => false
    | _ => true
  else !(part == .fragment && anyOf "!()*" c)

/-- An octet as a percent sign and two digits in upper case. -/
def percent (c : UInt8) : Text := '%' :: (Text.hexPair c).map Text.toUpper

def escape (part : Part) (t : Text) : Text :=
  t.flatMap fun c : UInt8 =>
    if c == ' ' && part == .query then "+"
    else if mustEscape part c then percent c
    else [c]

/-- The decoded text of a part, if its escapes and octets are allowed there. -/
def unescape? (part : Part) : Text → Option Text
  | [] => some []
  | c :: t =>
    if c == '%' then
      match t with
      | a :: b :: rest =>
        let value := UInt8.ofNat (Text.hexValue a * 16 + Text.hexValue b)
        let isPercent := a == '2' && b == '5'
        if !(Text.isHex a && Text.isHex b) then none
        else if part == .host && Text.hexValue a < 8 && !isPercent then none
        else if part == .zone && !isPercent && value != ' ' && mustEscape .host value then none
        else (unescape? part rest).map (value :: ·)
      | _ => none
    else if c == '+' && part == .query then (unescape? part t).map (' '.toUInt8 :: ·)
    else if (part == .host || part == .zone) && c < 0x80 && mustEscape part c then none
    else (unescape? part t).map (c :: ·)

/-- Is the text a way to write a part that needs no more escapes? -/
def isWritten (part : Part) (t : Text) : Bool :=
  t.all fun c => anyOf "!$&'()*+,;=:@[]%" c || !mustEscape part c

/-! ### Reading -/

def isSchemeOctet (c : UInt8) : Bool :=
  Text.isAlnum c || c == '+' || c == '-' || c == '.'

/-- The scheme and what follows its colon; nothing for a colon in front of all. -/
def scheme? (t : Text) : Option (Text × Text) :=
  let (name, rest) := Text.span isSchemeOctet t
  match rest with
  | [] => some ([], t)
  | c :: rest =>
    if c != ':' then some ([], t)
    else match name with
      | [] => none
      | first :: _ => if Text.isLetter first then some (Text.lower name, rest) else some ([], t)

/-- Is this empty, or a colon with digits behind it? -/
def isOptionalPort : Text → Bool
  | [] => true
  | c :: t => c == ':' && t.all Text.isDigit

/-- The host of an authority, decoded. -/
def host? (t : Text) : Option Text :=
  if t.head? == some '[' then
    match Text.cutLast? "]" t with
    | none => none
    | some (before, after) =>
      if !isOptionalPort after then none
      else match Text.cut? "%25" before with
        | some (address, zone) => do
          let a ← unescape? .host address
          let z ← unescape? .zone ("%25" ++ zone)
          let p ← unescape? .host (']' :: after)
          some (a ++ z ++ p)
        | none => unescape? .host t
  else
    match Text.cutLast? ":" t with
    | some (_, port) => if port.all Text.isDigit then unescape? .host t else none
    | none => unescape? .host t

def isUserOctet (c : UInt8) : Bool := Text.isAlnum c || anyOf "-._:~!$&'()*+,;=%@" c

/-- User and host of an authority. -/
def authority? (t : Text) : Option (Option (Text × Option Text) × Text) :=
  match Text.cutLast? "@" t with
  | none => (host? t).map fun h => (none, h)
  | some (info, host) => do
    let h ← host? host
    if !info.all isUserOctet then none
    else match Text.cut? ":" info with
      | none => do
        let name ← unescape? .user info
        some (some (name, none), h)
      | some (name, password) => do
        let n ← unescape? .user name
        let p ← unescape? .user password
        some (some (n, some p), h)

/-- Sets a path from the form it is written in. -/
def withPath? (u : Url) (written : Text) : Option Url :=
  (unescape? .path written).map fun path =>
    { u with path, writtenPath := if escape .path path == written then [] else written }

/-- Sets a fragment from the form it is written in. -/
def withFragment? (u : Url) (written : Text) : Option Url :=
  (unescape? .fragment written).map fun fragment =>
    { u with fragment
             writtenFragment := if escape .fragment fragment == written then [] else written }

/-- Where an address stands: on its own, or as the target of a request, which is an absolute
address or a path and never a host without a scheme. -/
inductive Place where
  | free
  | target
deriving DecidableEq, Repr

/-- Reads an address without its fragment. -/
def parseMain? (place : Place) (t : Text) : Option Url :=
  if t.any fun c : UInt8 => c < ' ' || c == 0x7f then none
  else if t.isEmpty && place == .target then none
  else if t == "*" then some { path := "*" }
  else do
    let (scheme, rest) ← scheme? t
    let bare := rest.getLast? == some '?' && rest.count '?'.toUInt8 == 1
    let (rest, query) :=
      if bare then (rest.dropLast, []) else (Text.cut? "?" rest).getD (rest, [])
    let u : Url := { scheme, bareQuery := bare, query }
    let rooted := rest.head? == some '/'
    if !rooted && !scheme.isEmpty then some { u with rootless := rest }
    else if !rooted && place == .target then none
    else if !rooted && Text.hasPart (rest.takeWhile fun c : UInt8 => c != '/') ":" then none
    else
      let plain := withPath? { u with omitHost := rooted && !scheme.isEmpty } rest
      match Text.after? rest "//" with
      | none => plain
      | some inner =>
        if scheme.isEmpty && (place == .target || inner.head? == some '/') then plain
        else do
          let (authority, path) := Text.span (· != '/') inner
          let (user, host) ← authority? authority
          withPath? { u with user, host } path

/-- Reads the target of a request. -/
def target? (t : Text) : Option Url := parseMain? .target t

/-- Reads an address. -/
def parse? (t : Text) : Option Url :=
  match Text.cut? "#" t with
  | none => parseMain? .free t
  | some (main, fragment) => do
    let u ← parseMain? .free main
    if fragment.isEmpty then some u else withFragment? u fragment

/-- The first value of a query parameter. Parameters that hold a semicolon or a broken escape do not
count. -/
def parameter? (u : Url) (name : Text) : Option Text :=
  (Text.splitOn '&' u.query).findSome? fun pair =>
    if pair.isEmpty || pair.contains ';' then none
    else
      let (key, value) := (Text.cut? "=" pair).getD (pair, [])
      match unescape? .query key, unescape? .query value with
      | some k, some v => if k == name then some v else none
      | _, _ => none

/-! ### Writing -/

/-- The written form of a path. -/
def pathText (u : Url) : Text :=
  if !u.writtenPath.isEmpty && isWritten .path u.writtenPath
      && unescape? .path u.writtenPath == some u.path then u.writtenPath
  else if u.path == "*" then u.path
  else escape .path u.path

/-- The written form of a fragment. -/
def fragmentText (u : Url) : Text :=
  if !u.writtenFragment.isEmpty && isWritten .fragment u.writtenFragment
      && unescape? .fragment u.writtenFragment == some u.fragment then u.writtenFragment
  else escape .fragment u.fragment

def userText : Text × Option Text → Text
  | (name, password) =>
    let secret : Text := match password with
      | some p => ":" ++ escape .user p
      | none => ""
    escape .user name ++ secret ++ "@"

/-- The host with what stands in front of it. -/
def authorityText (u : Url) : Text :=
  if u.scheme.isEmpty && u.host.isEmpty && u.user.isNone then []
  else if u.omitHost && u.host.isEmpty && u.user.isNone then []
  else
    (if !u.host.isEmpty || !u.path.isEmpty || u.user.isSome then "//" else "")
      ++ (u.user.map userText).getD [] ++ escape .host u.host

/-- Scheme, authority and path. -/
def mainText (u : Url) : Text :=
  let scheme : Text := if u.scheme.isEmpty then "" else u.scheme ++ ":"
  if !u.rootless.isEmpty then scheme ++ u.rootless
  else
    let start := scheme ++ u.authorityText
    let path := u.pathText
    let slash : Text :=
      if !path.isEmpty && path.head? != some '/' && !u.host.isEmpty then "/" else ""
    let dot : Text :=
      if start.isEmpty && slash.isEmpty && Text.hasPart (path.takeWhile fun c : UInt8 => c != '/') ":" then "./" else ""
    start ++ slash ++ dot ++ path

/-- The written form of an address. -/
def text (u : Url) : Text :=
  let query : Text := if u.bareQuery || !u.query.isEmpty then "?" ++ u.query else ""
  let fragment : Text := if u.fragment.isEmpty then "" else "#" ++ u.fragmentText
  u.mainText ++ query ++ fragment

end Url

end Marginalia
