import Marginalia.Text.Romanize
import Marginalia.Text.Symbols

/-!
Slugs: the names of posts in addresses. They have lower case letters, digits, hyphens and low lines, and
neither begin nor end with a hyphen or a low line.
-/

namespace Marginalia

namespace Slug

/-- The octets of a slug. -/
def isSlugOctet (c : UInt8) : Bool := Text.isLower c || Text.isDigit c || c == '-' || c == '_'

/-- The octets with which a slug neither begins nor ends. -/
def isEdge (c : UInt8) : Bool := c == '-' || c == '_'

/-- Is the text a slug? -/
def isSlug (t : Text) : Bool :=
  !t.isEmpty && t.all isSlugOctet && !t.head?.any isEdge && !t.getLast?.any isEdge

/-- What some characters are replaced by: quotes vanish, dashes become hyphens, two signs become words. -/
def substitutes : List (Char × Text) :=
  [('"', []), (Char.ofNat 0x27, []), ('’', []), ('‒', "-"), ('–', "-"), ('—', "-"), ('―', "-"), ('&', "and"),
    ('@', "at")]

/-- The Latin letters for a character of a title. -/
def letters (c : Char) : Text :=
  match substitutes.lookup c with
  | some t => t
  | none => Text.romanizeChar c

/-- A run of hyphens as one. -/
def joinHyphens : Text → Text
  | [] => []
  | c :: t => if c == '-' && t.head? == some '-'.toUInt8 then joinHyphens t else c :: joinHyphens t

/-- The slug of a title: its letters in Latin script, with hyphens for all else. It is empty if the title has
no letters. -/
def ofTitle (title : Text) : Text :=
  let latin := Text.lower ((Text.chars (Text.trim title)).flatMap letters)
  Text.strip isEdge (joinHyphens (latin.map fun c => if isSlugOctet c then c else '-'))

end Slug

end Marginalia
