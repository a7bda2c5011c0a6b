import Marginalia.Html.Node
import Marginalia.Text.Letters
import Marginalia.Url

/-!
What is kept of the HTML of a comment. Only elements and attributes known to be harmless stay; links
lead to the web or to a mail address, and tell search engines and the page they open nothing.
-/

namespace Marginalia

namespace Html

namespace Sanitize

/-- The elements that are kept. -/
def keptElements : List Text :=
  ["blockquote br code del em h1 h2 h3 h4 h5 h6 hr li ol p pre strong table tbody td th thead tr ul",
    "a img"].flatMap Text.words

/-- The elements that are kept only with an attribute. -/
def needsAttribute (name : Text) : Bool := name == "a" || name == "img"

/-- The elements of which an attribute may be an address. -/
def isLinkable (name : Text) : Bool := (Text.words "a blockquote del img").contains name

/-- Is a text harmless as the value of an attribute: letters, numbers, white space and a few signs? -/
def isPlain (t : Text) : Bool :=
  (Text.symbols t).all fun s => match s with
    | .char c => Text.isWordChar c || ("\t\n\x0c\r -_',[]!./\\()".toList).contains c
    | .stray _ => false

/-- May the octet stand in an id? -/
def isIdOctet (c : UInt8) : Bool := Text.isAlnum c || c == ':' || c == '-' || c == '_' || c == '.'

/-- The schemes an address may have. -/
def schemes : List Text := Text.words "mailto http https"

/-- An address as it is kept, if it is: it has no white space, can be read as one, and is relative or
has a known scheme. -/
def address? (t : Text) : Option Text :=
  let t := Text.trim t
  if t.any fun c : UInt8 => c == ' ' || c == '\t' || c == '\n' then none
  else match Url.parse? t with
    | none => none
    | some u =>
      if u.scheme.isEmpty then if u.text.isEmpty then none else some u.text
      else if schemes.contains u.scheme then some u.text
      else none

/-- An attribute of an element as it is kept, if it is. -/
def attribute? (element : Text) (a : Attribute) : Option Attribute :=
  let keepIf (b : Bool) : Option Attribute := if b then some a else none
  if (element == "a" && a.name == "href") || (element == "img" && a.name == "src") then
    (address? a.value).map fun value => { a with value }
  else if element == "img" && a.name == "alt" then keepIf (isPlain a.value)
  else if (element == "td" || element == "th") && a.name == "align" then
    keepIf ((Text.words "center justify left right char").contains (Text.lower a.value))
  else if a.name == "id" then keepIf (a.value.any isIdOctet)
  else if a.name == "title" then keepIf (isPlain a.value)
  else none

/-- Does an address name a host? -/
def isExternal (address : Text) : Bool := ((Url.parse? address).map fun u => !u.host.isEmpty).getD false

/-- What a link to an address gets in addition. -/
def linkAttributes (address : Text) : List Attribute :=
  if isExternal address then [⟨"rel", "nofollow noreferrer noopener"⟩, ⟨"target", "_blank"⟩]
  else [⟨"rel", "nofollow noreferrer"⟩]

/-- The attributes of an element that are kept, and those it gets in addition. -/
def attributes (element : Text) (given : List Attribute) : List Attribute :=
  let kept := given.filterMap (attribute? element)
  match kept.find? fun a : Attribute => element == "a" && a.name == "href" with
  | some href => kept ++ linkAttributes href.value
  | none => kept

/-- An attribute as it is written. Addresses are written as they are. -/
def attributeText (element : Text) (a : Attribute) : Text :=
  let raw := isLinkable element && (a.name == "href" || a.name == "src")
  " " ++ a.name ++ "=\"" ++ (if raw then a.value else escape a.value) ++ "\""

/-- An opening tag as it is written. -/
def tagText (name : Text) (kept : List Attribute) (closesItself : Bool) : Text :=
  "<" ++ name ++ kept.flatMap (attributeText name) ++ (if closesItself then "/>" else ">")

/-- The tokens that are kept, as they are written. `skipped` holds the names of the elements whose
opening tag was left out for want of attributes, the latest first. -/
def kept : (skipped : List Text) → List Token → Text
  | _, [] => []
  | skipped, token :: more =>
    match token with
    | .text t => escape t ++ kept skipped more
    | .startTag name given closesItself =>
      let left := attributes name given
      if !keptElements.contains name then kept skipped more
      else if left.isEmpty && needsAttribute name then
        kept (if closesItself then skipped else name :: skipped) more
      else tagText name left closesItself ++ kept skipped more
    | .endTag name =>
      if skipped.head? == some name then kept (skipped.drop 1) more
      else if keptElements.contains name then "</" ++ name ++ ">" ++ kept skipped more
      else kept skipped more
    | .comment _ | .doctype _ | .stop => kept skipped more

end Sanitize

/-- The part of a text of HTML that is kept. -/
def sanitize (t : Text) : Text := Sanitize.kept [] (tokens t)

end Html

end Marginalia
