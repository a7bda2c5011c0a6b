import Marginalia.Text.Basic

/-!
Addresses in running text: those in angle brackets, and those that stand bare after white space.
-/

namespace Marginalia

namespace Markdown

namespace Address

/-- The octets before the at sign of a mail address. -/
def isMailOctet (c : UInt8) : Bool :=
  Text.isAlnum c || (".!#$%&*+/=?^_|~-\x7b\x7d" : Text).contains c || c == Text.apostrophe || c == Text.grave

/-- The length of the longest label of a host name at the head of a text: letters, digits and inner
hyphens, at most sixty-three. -/
def labelLength (t : Text) : Nat :=
  let run := (t.takeWhile fun c : UInt8 => Text.isAlnum c || c == '-').take 63
  if (run.head?.map Text.isAlnum).getD false then
    (Text.stripRight (fun c : UInt8 => c == '-') run).length
  else 0

/-- The length of the longest host name at the head of a text. -/
def hostLength : (fuel : Nat) → Text → Nat
  | 0, _ => 0
  | fuel + 1, t =>
    let n := labelLength t
    if n == 0 then 0
    else match t.drop n with
      | c :: rest =>
        let m := if c == '.' then hostLength fuel rest else 0
        if m == 0 then n else n + 1 + m
      | [] => n

/-- The length of the mail address at the head of a text. -/
def mailLength? (t : Text) : Option Nat :=
  let user := t.takeWhile isMailOctet
  match t.drop user.length with
  | c :: rest =>
    let n := hostLength rest.length rest
    if user.isEmpty || c != '@' || n == 0 then none else some (user.length + 1 + n)
  | [] => none

/-- May the octet stand in a scheme? -/
def isSchemeOctet (c : UInt8) : Bool := Text.isAlnum c || c == '+' || c == '.' || c == '-'

/-- The length of the scheme, colon and all else up to white space or an angle bracket. -/
def schemeLength? (t : Text) : Option Nat :=
  let scheme := t.takeWhile isSchemeOctet
  match t.drop scheme.length with
  | c :: rest =>
    if (t.head?.map Text.isLetter).getD false && 2 ≤ scheme.length && scheme.length ≤ 33 && c == ':' then
      let body := rest.takeWhile fun c : UInt8 => ' ' < c && c != '<' && c != '>'
      some (scheme.length + 1 + body.length)
    else none
  | [] => none

/-- An address found in running text. -/
structure Found where
  /-- The octets before the address that belong to the text. -/
  lead : Nat
  /-- The octets of the address. -/
  label : Text
  destination : Text

/-- Where a mail address leads. -/
def mailDestination (address : Text) : Text :=
  if Text.startsWith (Text.lower address) "mailto:" then address else "mailto:" ++ address

/-- An address in angle brackets at the head of a line: what it leads to, its text, and how many octets
it takes with the brackets. -/
def bracketed? (line : Text) : Option (Text × Text × Nat) :=
  let inner := line.drop 1
  let closed (n : Nat) : Bool := (inner.drop n).head? == some '>'
  match mailLength? inner with
  | some n => if closed n then some (mailDestination (inner.take n), inner.take n, n + 2) else none
  | none =>
    match schemeLength? inner with
    | some n => if closed n then some (inner.take n, inner.take n, n + 2) else none
    | none => none

/-! ### Bare addresses -/

/-- The octets of the host part of a bare address. -/
def isHostOctet (c : UInt8) : Bool := Text.isAlnum c || ("-@:%._+~#=" : Text).contains c

/-- The octets of the path part of a bare address. -/
def isPathOctet (dollar : Bool) (c : UInt8) : Bool :=
  Text.isAlnum c || ("-@:%_+.~#!?&/=();,\">^\x7b\x7d[]" : Text).contains c || c == Text.apostrophe ||
    c == Text.grave || (dollar && c == '$')

/-- The least ending of a host part: the last point, not at its head and after at most `limit` octets,
that has a small letter behind it; gives the length up to the end of the letters. -/
def hostEnd (t : Text) : (limit : Nat) → Option Nat
  | 0 => none
  | k + 1 =>
    match t.drop (k + 1) with
    | point :: c :: rest =>
      if point == '.' && Text.isLower c then some (k + 3 + (rest.takeWhile Text.isLower).length)
      else hostEnd t k
    | _ => hostEnd t k

/-- The length of a host part and an optional path behind it. A port may stand between them if the
address has a scheme. -/
def bareLength? (hasScheme : Bool) (t : Text) : Option Nat :=
  let run := (t.takeWhile isHostOctet).take 256
  match hostEnd t run.length with
  | none => none
  | some host =>
    let rest := t.drop host
    let port : Nat := match rest with
      | c :: ds =>
        let digits := (ds.takeWhile Text.isDigit).length
        if hasScheme && c == ':' && digits != 0 then digits + 1 else 0
      | [] => 0
    let path : Nat := match rest.drop port with
      | c :: ps =>
        if c == '/' || c == '#' || c == '?' then 1 + (ps.takeWhile (isPathOctet hasScheme)).length else 0
      | [] => 0
    some (host + port + path)

/-- The length of a web address at the head of a text, and the scheme to be put in front of it. -/
def webLength? (t : Text) : Option (Nat × Text) :=
  let schemed : Option Nat := (Text.words "http:// https:// ftp://").findSome? fun scheme =>
    (Text.after? t scheme).bind fun rest => (bareLength? true rest).map (· + scheme.length)
  match schemed with
  | some n => some (n, "")
  | none => (Text.after? t "www.").bind fun rest => (bareLength? false rest).map fun n => (n + 4, "http://")

/-- The length of an address without an ending that belongs to the text around it: a point, closing
parentheses without their opening ones, a character reference. -/
def trimmedLength (address : Text) : Nat :=
  match address.reverse with
  | [] => 0
  | last :: before =>
    if last == '.' then before.length
    else if last == ')' then
      address.length - (address.count ')'.toUInt8 - address.count '('.toUInt8)
    else if last == ';' then
      let name := before.takeWhile Text.isAlnum
      if !name.isEmpty && (before.drop name.length).head? == some '&' then before.length - name.length - 1
      else address.length
    else address.length

/-- The address without punctuation at its end; its first octet always stays. -/
def withoutPunctuation (address : Text) : Text :=
  address.take 1 ++ Text.stripRight (("?!.,:*_~" : Text).contains ·) (address.drop 1)

/-- The mail address at the head of a text: its host has a point, and neither a hyphen nor a low line
follows. -/
def bareMail? (t : Text) : Option Text :=
  match mailLength? t with
  | none => none
  | some n =>
    let address := t.take n
    let next := (t.drop n).head?
    if (t.head?.map Text.isPunctuation).getD true then none
    else if !((address.dropWhile fun c : UInt8 => c != '@').dropLast).contains '.' then none
    else if next == some '-' || next == some '_' then none
    else some address

/-- A bare address at the head of a line, behind at most one octet of text. -/
def bare? (line : Text) : Option Found :=
  let lead := if (line.head?.map ((" *_~(" : Text).contains ·)).getD false then 1 else 0
  let t := line.drop lead
  match webLength? t with
  | some (n, scheme) =>
    let label := withoutPunctuation (t.take (trimmedLength (t.take n)))
    some ⟨lead, label, scheme ++ label⟩
  | none =>
    (bareMail? t).map fun address =>
      let label := withoutPunctuation address
      let scheme : Text := if Text.startsWith t "www." then "http://" else ""
      ⟨lead, label, mailDestination (scheme ++ label)⟩

end Address

end Markdown

end Marginalia
