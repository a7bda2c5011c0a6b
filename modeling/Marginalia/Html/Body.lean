import Marginalia.Html.Draft

/-!
What tags do in the body of a document. A tag is first classified by its name, and then acts on the
draft; where it calls for another mode, it is handled again there.
-/

namespace Marginalia

namespace Html

namespace Draft

/-- What handling a token comes to: the draft, and the token that is to be handled again. -/
abbrev Step := Draft × Option Token

/-- The token has been handled. -/
def handled (d : Draft) : Step := (d, none)

/-- The token is to be handled again. -/
def retry (d : Draft) (t : Token) : Step := (d, some t)

/-! ### Elements of the head -/

/-- The elements of the head that may stand anywhere. -/
def headElements : List Text :=
  Text.words "base basefont bgsound link meta noframes script style template title"

/-- Opens an element of the head. Templates inside other vocabularies end the reading. -/
def startHeadElement (d : Draft) (name : Text) (attributes : List Attribute) : Draft :=
  if name == "template" then
    if d.stack.any fun i => d.space i != .html then { d with mode := .ignoreRest }
    else
      let d := (d.addElement name attributes).addBorder
      { d with framesetOk := false, mode := .inTemplate, templates := .inTemplate :: d.templates }
  else if (Text.words "noframes script style title noscript").contains name then d.addRaw name attributes
  else d.addVoid name attributes

/-- The closing tag of a template. -/
def endTemplate (d : Draft) : Draft := if d.hasOpen "template" then d.closeTemplate else d

/-- A second opening tag of the document. -/
def startHtml (d : Draft) (attributes : List Attribute) : Draft :=
  if d.hasOpen "template" then d else d.addAttributes (d.stack.getLastD 0) attributes

/-! ### Opening tags -/

/-- What an opening tag does in the body. -/
inductive Opening where
  | html
  | headElement
  | body
  | frameset
  | block
  | heading
  | preformatted
  | form
  | listItem
  | term
  | plaintext
  | button
  | anchor
  | formatting
  | noBreak
  | bordered
  | table
  | void
  | part
  | rule
  | image
  | textarea
  | example
  | iframe
  | raw
  | select
  | option
  | rubyBase
  | rubyText
  | foreign
  | ignored
  | other
deriving DecidableEq, Repr, Inhabited

/-- The names with something of their own to do. -/
def openings : List (String × Opening) :=
  [("html", .html), ("base basefont bgsound link meta noframes script style template title", .headElement),
    ("body", .body), ("frameset", .frameset),
    ("address article aside blockquote center details dialog dir div dl fieldset figcaption figure", .block),
    ("footer header hgroup main menu nav ol p section summary ul", .block), ("h1 h2 h3 h4 h5 h6", .heading),
    ("pre listing", .preformatted), ("form", .form), ("li", .listItem), ("dd dt", .term),
    ("plaintext", .plaintext), ("button", .button), ("a", .anchor),
    ("b big code em font i s small strike strong tt u", .formatting), ("nobr", .noBreak),
    ("applet marquee object", .bordered), ("table", .table), ("area br embed img input keygen wbr", .void),
    ("param source track", .part), ("hr", .rule), ("image", .image), ("textarea", .textarea),
    ("xmp", .example), ("iframe", .iframe), ("noembed noscript", .raw), ("select", .select),
    ("optgroup option", .option), ("rb rtc", .rubyBase), ("rp rt", .rubyText), ("math svg", .foreign),
    ("caption col colgroup frame head tbody td tfoot th thead tr", .ignored)]

/-- What an opening tag of a name does. -/
def opening (name : Text) : Opening :=
  ((openings.find? fun (names, _) => (Text.words names).contains name).map (·.2)).getD .other

/-- Closes the nearest open list item, or another element of some names, unless a special element other
than an address, a division or a paragraph is nearer. -/
def closeItem (d : Draft) (names : List Text) : Draft :=
  let rec go : List Nat → List Nat
    | [] => d.stack
    | i :: outer =>
      if names.contains (d.name i) then outer
      else if d.isSpecial i && !(Text.words "address div p").contains (d.name i) then d.stack
      else go outer
  { d with stack := go d.stack }

/-- Is an input hidden from the reader? -/
def isHidden (attributes : List Attribute) : Bool :=
  attributes.any fun a => a.name == "type" && Text.lower a.value == "hidden"

/-- The names of attributes that are not written in small letters. -/
def mixedCaseAttributes : Space → List Text
  | .math => ["definitionURL"]
  | .svg =>
    ["attributeName attributeType baseFrequency baseProfile calcMode clipPathUnits",
      "diffuseConstant edgeMode filterUnits glyphRef gradientTransform gradientUnits kernelMatrix kernelUnitLength",
      "keyPoints keySplines keyTimes lengthAdjust limitingConeAngle markerHeight markerUnits",
      "markerWidth maskContentUnits maskUnits numOctaves pathLength patternContentUnits",
      "patternTransform patternUnits pointsAtX pointsAtY pointsAtZ preserveAlpha",
      "preserveAspectRatio primitiveUnits refX refY repeatCount repeatDur requiredExtensions",
      "requiredFeatures specularConstant specularExponent spreadMethod startOffset stdDeviation",
      "stitchTiles surfaceScale systemLanguage tableValues targetX targetY textLength viewBox",
      "viewTarget xChannelSelector yChannelSelector zoomAndPan"].flatMap Text.words
  | .html => []

/-- The names of elements that are not written in small letters. -/
def mixedCaseElements : List Text :=
  ["altGlyph altGlyphDef altGlyphItem animateColor animateMotion animateTransform clipPath feBlend",
    "feColorMatrix feComponentTransfer feComposite feConvolveMatrix feDiffuseLighting",
    "feDisplacementMap feDistantLight feFlood feFuncA feFuncB feFuncG feFuncR feGaussianBlur feImage",
    "feMerge feMergeNode feMorphology feOffset fePointLight feSpecularLighting feSpotLight feTile",
    "feTurbulence foreignObject glyphRef linearGradient radialGradient textPath"].flatMap Text.words

/-- A name in the spelling of a list, if it is in the list. -/
def respell (names : List Text) (name : Text) : Text :=
  (names.find? fun n => Text.lower n == name).getD name

/-- Attributes in the spelling of a vocabulary. -/
def respellAttributes (s : Space) (attributes : List Attribute) : List Attribute :=
  attributes.map fun a => { a with name := respell (mixedCaseAttributes s) a.name }

/-- An opening tag in the body. -/
def startInBody (d : Draft) (name : Text) (attributes : List Attribute) (closesItself : Bool) : Step :=
  let add (d : Draft) : Draft := d.addElement name attributes
  let noFrameset (d : Draft) : Draft := { d with framesetOk := false }
  match opening name with
  | .html => handled (d.startHtml attributes)
  | .headElement => handled (d.startHeadElement name attributes)
  | .body =>
    let body := (d.stack.reverse.drop 1).headD 0
    if d.hasOpen "template" || d.name body != "body" then handled d
    else handled (noFrameset (d.addAttributes body attributes))
  | .frameset =>
    let body := (d.stack.reverse.drop 1).headD 0
    if !d.framesetOk || d.name body != "body" then handled d
    else
      let d := d.detach body
      let d := add { d with stack := [d.stack.getLastD 0] }
      handled { d with mode := .inFrameset }
  | .block => handled (add d.closeParagraph)
  | .heading =>
    let d := d.closeParagraph
    handled (add (if opening d.topName == .heading then d.pop else d))
  | .preformatted => handled (noFrameset (add d.closeParagraph))
  | .form =>
    let inTemplate := d.hasOpen "template"
    if d.form.isSome && !inTemplate then handled d
    else
      let d := add d.closeParagraph
      handled (if inTemplate then d else { d with form := some d.top })
  | .listItem => handled (add (noFrameset (d.closeItem ["li"])).closeParagraph)
  | .term => handled (add (noFrameset (d.closeItem ["dd", "dt"])).closeParagraph)
  | .plaintext => handled (add d.closeParagraph)
  | .button => handled (noFrameset (add (d.popUntil .default ["button"]).1.reopen))
  | .anchor =>
    let isAnchor : Option Nat → Bool
      | some i => d.name i == "a"
      | none => false
    let d := match (d.active.takeWhile (·.isSome)).find? isAnchor with
      | some (some i) => ((d.closeFormatting "a").removeOpen i).forget i
      | _ => d
    handled (d.reopen.addFormatting name attributes)
  | .formatting => handled (d.reopen.addFormatting name attributes)
  | .noBreak =>
    let d := d.reopen
    let d := if d.inScope .default ["nobr"] then (d.closeFormatting "nobr").reopen else d
    handled (d.addFormatting name attributes)
  | .bordered => handled (noFrameset (add d.reopen).addBorder)
  | .table =>
    let d := noFrameset (add (if d.quirks then d else d.closeParagraph))
    handled { d with mode := .inTable }
  | .void =>
    let d := d.reopen.addVoid name attributes
    handled (if name == "input" && isHidden attributes then d else noFrameset d)
  | .part => handled (d.addVoid name attributes)
  | .rule => handled (noFrameset (d.closeParagraph.addVoid name attributes))
  | .image => retry d (.startTag "img" attributes closesItself)
  | .textarea => handled (noFrameset (d.addRaw name attributes))
  | .example => handled (noFrameset (d.closeParagraph.reopen.addRaw name attributes))
  | .iframe => handled (noFrameset (d.addRaw name attributes))
  | .raw => handled (d.addRaw name attributes)
  | .select =>
    let d := noFrameset (add d.reopen)
    handled { d with mode := .inSelect }
  | .option =>
    let d := if d.topName == "option" then d.pop else d
    handled (add d.reopen)
  | .rubyBase => handled (add (if d.inScope .default ["ruby"] then d.closeImplied [] else d))
  | .rubyText => handled (add (if d.inScope .default ["ruby"] then d.closeImplied "rtc" else d))
  | .foreign =>
    let space : Space := if name == "math" then .math else .svg
    let d := d.reopen.addElement name (respellAttributes space attributes) space
    handled (if closesItself then d.pop else d)
  | .ignored => handled d
  | .other => handled (add d.reopen)

/-! ### Closing tags -/

/-- The elements that their closing tag closes with all inside them. -/
def closedBlocks : List Text :=
  ["address article aside blockquote button center details dialog dir div dl fieldset figcaption",
    "figure footer header hgroup listing main menu nav ol pre section summary ul dd dt"].flatMap Text.words

/-- Leaves the other vocabularies: closes elements up to one in which HTML stands. -/
def leaveForeign (d : Draft) (isEntry : Nat → Bool) : Draft :=
  match d.stack.dropWhile fun i => !isEntry i with
  | [] => d
  | stack => { d with stack }

/-- Is this an element of another vocabulary in which HTML stands? -/
def holdsHtml (d : Draft) (i : Nat) : Bool :=
  match d.label? i with
  | none => true
  | some l =>
    match l.space with
    | .html => true
    | .svg => (Text.words "desc foreignObject title").contains l.name
    | .math =>
      (Text.words "mi mo mn ms mtext").contains l.name ||
        (l.name == "annotation-xml" && l.attributes.any fun a =>
          a.name == "encoding" && (Text.words "text/html application/xhtml+xml").contains (Text.lower a.value))

/-- A closing tag in the body. -/
def endInBody (d : Draft) (name : Text) : Step :=
  if name == "body" then
    handled (if d.inScope .default ["body"] then { d with mode := .afterBody } else d)
  else if name == "html" then
    if d.inScope .default ["body"] then retry { d with mode := .afterBody } (.endTag name) else handled d
  else if closedBlocks.contains name then handled (d.popUntil .default [name]).1
  else if name == "form" then
    match d.outside? .default ["form"] d.stack with
    | none => handled (if d.hasOpen "template" then d else { d with form := none })
    | some outer =>
      let found := (d.stack.drop (d.stack.length - outer.length - 1)).headD 0
      if d.hasOpen "template" then handled (((d.closeImplied []).popUntil .default ["form"]).1)
      else if d.form == some found then handled (({ d with form := none }.closeImplied []).removeOpen found)
      else handled { d with form := none }
  else if name == "p" then
    let d := if d.inScope .button ["p"] then d else (d.leaveForeign d.holdsHtml).addElement "p" []
    handled d.closeParagraph
  else if name == "li" then handled (d.popUntil .listItem ["li"]).1
  else if opening name == .heading then handled (d.popUntil .default (Text.words "h1 h2 h3 h4 h5 h6")).1
  else if opening name == .anchor || opening name == .formatting || opening name == .noBreak then
    handled (d.closeFormatting name)
  else if opening name == .bordered then
    match d.popUntil .default [name] with
    | (d, true) => handled d.clearActive
    | (d, false) => handled d
  else if name == "br" then retry d (.startTag "br" [] false)
  else if name == "template" then handled d.endTemplate
  else handled (d.closeOther name)

/-! ### Text -/

/-- Text without the line feed that directly follows an opening tag. -/
def withoutLeadingFeed (d : Draft) (names : String) (t : Text) : Text :=
  if (Text.words names).contains d.topName && (d.entry d.top).children.isEmpty then
    Text.dropStart (Text.dropStart t "\r") "\n"
  else t

/-- Text in the body. -/
def textInBody (d : Draft) (t : Text) : Draft :=
  let t := (d.withoutLeadingFeed "pre listing" t).filter (· != 0)
  if t.isEmpty then d
  else
    let d := d.reopen.addText t
    if t.all isGap then d else { d with framesetOk := false }

/-- A token in the body. -/
def inBody (token : Token) (d : Draft) : Step :=
  match token with
  | .text t => handled (d.textInBody t)
  | .startTag name attributes closesItself => d.startInBody name attributes closesItself
  | .endTag name => d.endInBody name
  | .comment t => handled (d.addComment t)
  | .doctype _ => handled d
  | .stop => if d.templates.isEmpty then handled d else retry { d with mode := .inTemplate } token

end Draft

end Html

end Marginalia
