import Marginalia.Text.Symbols

/-!
Texts within pages. What a reader or an author has written stands in a page as text, in an attribute or in a
link, and never becomes markup.
-/

namespace Marginalia

namespace Page

/-- What an octet is replaced by in text and in attributes. -/
def reference? (c : UInt8) : Option Text :=
  if c == 0 then some (Text.ofChar Text.replacement)
  else if c == '"' then some "&#34;"
  else if c == '&' then some "&amp;"
  else if c == Text.apostrophe then some "&#39;"
  else if c == '+' then some "&#43;"
  else if c == '<' then some "&lt;"
  else if c == '>' then some "&gt;"
  else none

/-- A text that stands for itself in a page. -/
def escape (t : Text) : Text := Text.replaceEach reference? t

/-- A percent sign and two digits. -/
def percent (c : UInt8) : Text := '%' :: Text.hexPair c

/-- The octets that stand for themselves in every part of a link. -/
def isPlain (c : UInt8) : Bool := Text.isAlnum c || c == '-' || c == '.' || c == '_' || c == '~'

/-- The octets that have a meaning in links. -/
def isReserved (c : UInt8) : Bool := (Text.ofString "!#$&*+,/:;=?@[]").contains c

/-- A text within a part of a link. -/
def escapePart (t : Text) : Text := t.flatMap fun c => if isPlain c then [c] else percent c

/-- A whole link. What is written with percent signs stays so. -/
def normalizeLink : Text → Text
  | [] => []
  | c :: t =>
    let isWritten := c == '%' && (t.take 2).length == 2 && (t.take 2).all Text.isHex
    (if isPlain c || isReserved c || isWritten then [c] else percent c) ++ normalizeLink t

/-- The schemes that a link may have. -/
def safeSchemes : List Text := Text.words "http https mailto"

/-- A scheme without the difference of case; the long s counts as an s. -/
def foldScheme (scheme : Text) : Text := Text.lower (Text.replaceAll "ſ" "s" scheme)

/-- Does the link lead to a place of the web and not to a program? -/
def isSafeLink (t : Text) : Bool :=
  match Text.cut? ":" t with
  | some (scheme, _) => scheme.contains '/' || safeSchemes.contains (foldScheme scheme)
  | none => true

/-- What stands in the place of a link that is not safe. -/
def blockedLink : Text := "#ZgotmplZ"

/-- A link in an attribute. -/
def link (t : Text) : Text := escape (normalizeLink (if isSafeLink t then t else blockedLink))

/-- The part of a link in an attribute that names a place on a page. -/
def anchor (t : Text) : Text := escape (escapePart t)

end Page

end Marginalia
