import Marginalia.Html.Body

/-!
What tokens do outside the running content of a document: before and in its head, in tables, in
selections, in templates, in other vocabularies and behind its end.
-/

namespace Marginalia

namespace Html

namespace Draft

/-- A text split into the white space it begins with and the rest. -/
def splitGap (t : Text) : Text × Text := Text.span isGap t

/-- The white space of a text. -/
def gapsOf (t : Text) : Text := t.filter isGap

/-- Is a tag one of some names? -/
def oneOf (names : String) (name : Text) : Bool := (Text.words names).contains name

/-! ### Before the body -/

/-- Identifiers of old types of documents, by their beginnings. -/
def oldIdentifiers : List Text :=
  ["+//silmaril//dtd html pro v0r11 19970101//", "-//advasoft ltd//dtd html 3.0 aswedit + extensions//",
    "-//as//dtd html 3.0 aswedit + extensions//", "-//ietf//dtd html 2.0 level 1//",
    "-//ietf//dtd html 2.0 level 2//", "-//ietf//dtd html 2.0 strict level 1//",
    "-//ietf//dtd html 2.0 strict level 2//", "-//ietf//dtd html 2.0 strict//", "-//ietf//dtd html 2.0//",
    "-//ietf//dtd html 2.1e//", "-//ietf//dtd html 3.0//", "-//ietf//dtd html 3.2 final//",
    "-//ietf//dtd html 3.2//", "-//ietf//dtd html 3//", "-//ietf//dtd html level 0//",
    "-//ietf//dtd html level 1//", "-//ietf//dtd html level 2//", "-//ietf//dtd html level 3//",
    "-//ietf//dtd html strict level 0//", "-//ietf//dtd html strict level 1//",
    "-//ietf//dtd html strict level 2//", "-//ietf//dtd html strict level 3//",
    "-//ietf//dtd html strict//", "-//ietf//dtd html//", "-//metrius//dtd metrius presentational//",
    "-//microsoft//dtd internet explorer 2.0 html strict//", "-//microsoft//dtd internet explorer 2.0 html//",
    "-//microsoft//dtd internet explorer 2.0 tables//",
    "-//microsoft//dtd internet explorer 3.0 html strict//", "-//microsoft//dtd internet explorer 3.0 html//",
    "-//microsoft//dtd internet explorer 3.0 tables//", "-//netscape comm. corp.//dtd html//",
    "-//netscape comm. corp.//dtd strict html//", "-//o'reilly and associates//dtd html 2.0//",
    "-//o'reilly and associates//dtd html extended 1.0//",
    "-//o'reilly and associates//dtd html extended relaxed 1.0//",
    "-//softquad software//dtd hotmetal pro 6.0::19990601::extensions to html 4.0//",
    "-//softquad//dtd hotmetal pro 4.0::19971010::extensions to html 4.0//",
    "-//spyglass//dtd html 2.0 extended//", "-//sq//dtd html 2.0 hotmetal + extensions//",
    "-//sun microsystems corp.//dtd hotjava html//", "-//sun microsystems corp.//dtd hotjava strict html//",
    "-//w3c//dtd html 3 1995-03-24//", "-//w3c//dtd html 3.2 draft//", "-//w3c//dtd html 3.2 final//",
    "-//w3c//dtd html 3.2//", "-//w3c//dtd html 3.2s draft//", "-//w3c//dtd html 4.0 frameset//",
    "-//w3c//dtd html 4.0 transitional//", "-//w3c//dtd html experimental 19960712//",
    "-//w3c//dtd html experimental 970421//", "-//w3c//dtd w3 html//", "-//w3o//dtd w3 html 3.0//",
    "-//webtechs//dtd mozilla html 2.0//", "-//webtechs//dtd mozilla html//"].map Text.ofString

/-- Identifiers of old types of documents, as a whole. -/
def oldWholeIdentifiers : List Text :=
  ["-//w3o//dtd w3 html strict 3.0//en//", "-/w3d/dtd html 4.0 transitional/en", "html"].map Text.ofString

/-- Identifiers that are old only without a system identifier. -/
def oldAlone : List Text :=
  ["-//w3c//dtd html 4.01 frameset//", "-//w3c//dtd html 4.01 transitional//"].map Text.ofString

/-- The quoted identifiers that follow a keyword; `isPublic` tells which the first one is. Gives them
with the rest of the declaration and whether another one is missing. -/
def identifiers : (fuel : Nat) → (isPublic : Bool) → Text → List (Bool × Text) × Text × Bool
  | 0, _, t => ([], t, true)
  | fuel + 1, isPublic, t =>
    match t.dropWhile isGap with
    | [] => ([], [], true)
    | q :: rest =>
      if q != '"' && q != Text.apostrophe then ([], q :: rest, true)
      else
        let (id, behind) := (Text.cut? [q] rest).getD (rest, [])
        if isPublic then
          let (more, behind, missing) := identifiers fuel false behind
          ((true, id) :: more, behind, missing)
        else ([(false, id)], behind, false)

/-- Do the identifiers of a declaration call for the ways of old documents? -/
def isOld (ids : List (Bool × Text)) : Bool :=
  let first := match ids.head? with
    | some (true, id) =>
      let id := Text.lower id
      oldWholeIdentifiers.contains id || oldIdentifiers.any (Text.startsWith id ·) ||
        (ids.length == 1 && oldAlone.any (Text.startsWith id ·))
    | _ => false
  let last := match ids.getLast? with
    | some (false, id) => Text.lower id == "http://www.ibm.com/data/dtd/v11/ibmxhtml1-transitional.dtd"
    | _ => false
  first || last

/-- Reads a declaration; tells whether the document is read in the ways of old ones. -/
def readDoctype (t : Text) : Doctype × Bool :=
  let (name, rest) := Text.span (fun c => !isGap c) t
  let rest := rest.dropWhile isGap
  let quirks := name != "html"
  let key := Text.lower (rest.take 6)
  let name := Text.lower name
  if rest.length < 6 then (⟨name, []⟩, quirks || !rest.isEmpty)
  else if key == "public" || key == "system" then
    let (ids, behind, missing) := identifiers 2 (key == "public") (rest.drop 6)
    (⟨name, ids⟩, quirks || missing || !behind.isEmpty || isOld ids)
  else (⟨name, []⟩, true)

/-- Before anything of a document. -/
def initial (token : Token) (d : Draft) : Step :=
  let next (t : Token) : Step := retry { d with quirks := true, mode := .beforeHtml } t
  match token with
  | .text t =>
    let rest := t.dropWhile isGap
    if rest.isEmpty then handled d else next (.text rest)
  | .comment t => handled (d.addCommentTo 0 t)
  | .doctype t =>
    let (doctype, quirks) := readDoctype t
    let (d, i) := d.create (.doctype doctype)
    handled { d.insert 0 none i with quirks, mode := .beforeHtml }
  | t => next t

/-- Before the opening tag of the document. -/
def beforeHtml (token : Token) (d : Draft) : Step :=
  let next (t : Token) : Step := retry { d.addElement "html" [] with mode := .beforeHead } t
  match token with
  | .text t =>
    let rest := t.dropWhile isGap
    if rest.isEmpty then handled d else next (.text rest)
  | .comment t => handled (d.addCommentTo 0 t)
  | .doctype _ => handled d
  | .startTag name attributes _ =>
    if name == "html" then handled { d.addElement name attributes with mode := .beforeHead } else next token
  | .endTag name => if oneOf "head body html br" name then next token else handled d
  | .stop => next token

/-- Opens the head. -/
def startHead (d : Draft) (attributes : List Attribute) : Draft :=
  let d := d.addElement "head" attributes
  { d with head := some d.top, mode := .inHead }

/-- Before the head. -/
def beforeHead (token : Token) (d : Draft) : Step :=
  let next (t : Token) : Step := retry (d.startHead []) t
  match token with
  | .text t =>
    let rest := t.dropWhile isGap
    if rest.isEmpty then handled d else next (.text rest)
  | .comment t => handled (d.addComment t)
  | .doctype _ => handled d
  | .startTag name attributes _ =>
    if name == "head" then handled (d.startHead attributes)
    else if name == "html" then handled (d.startHtml attributes)
    else next token
  | .endTag name => if oneOf "head body html br" name then next token else handled d
  | .stop => next token

/-- In the head. -/
def inHead (token : Token) (d : Draft) : Step :=
  let next (d : Draft) (t : Token) : Step := retry { d.pop with mode := .afterHead } t
  match token with
  | .text t =>
    let (gap, rest) := splitGap t
    let d := d.addText gap
    if rest.isEmpty then handled d else next d (.text rest)
  | .comment t => handled (d.addComment t)
  | .doctype _ => handled d
  | .startTag name attributes _ =>
    if name == "html" then handled (d.startHtml attributes)
    else if headElements.contains name || name == "noscript" then handled (d.startHeadElement name attributes)
    else if name == "head" then handled d
    else next d token
  | .endTag name =>
    if name == "head" then handled { d.pop with mode := .afterHead }
    else if oneOf "body html br" name then next d token
    else if name == "template" then handled d.endTemplate
    else handled d
  | .stop => next d token

/-- Between the head and the body. -/
def afterHead (token : Token) (d : Draft) : Step :=
  let next (d : Draft) (t : Token) : Step :=
    let d := { d.addElement "body" [] with framesetOk := true, mode := .inBody }
    if t == .stop then handled d else retry d t
  match token with
  | .text t =>
    let (gap, rest) := splitGap t
    let d := d.addText gap
    if rest.isEmpty then handled d else next d (.text rest)
  | .comment t => handled (d.addComment t)
  | .doctype _ => handled d
  | .startTag name attributes _ =>
    if name == "html" then handled (d.startHtml attributes)
    else if name == "body" then
      handled { d.addElement name attributes with framesetOk := false, mode := .inBody }
    else if name == "frameset" then handled { d.addElement name attributes with mode := .inFrameset }
    else if headElements.contains name then
      let head := d.head.getD 0
      handled (({ d with stack := head :: d.stack }.startHeadElement name attributes).removeOpen head)
    else if name == "head" then handled d
    else next d token
  | .endTag name =>
    if oneOf "body html br" name then next d token
    else if name == "template" then handled d.endTemplate
    else handled d
  | .stop => next d token

/-- In an element whose content is one text. -/
def inText (token : Token) (d : Draft) : Step :=
  match token with
  | .text t => handled (d.addText (d.withoutLeadingFeed "textarea" t))
  | .endTag _ => handled { d.pop with mode := d.resume }
  | .stop => retry { d.pop with mode := d.resume } token
  | _ => retry { d with mode := d.resume } token

/-! ### Tables -/

/-- Content of a table that belongs before it. -/
def fostered (token : Token) (d : Draft) : Step :=
  let (d, again) := inBody token { d with fostering := true }
  ({ d with fostering := false }, again)

/-- In a table, outside its rows. -/
def inTable (token : Token) (d : Draft) : Step :=
  let clear (d : Draft) : Draft := d.clearTo (Text.words "html table template")
  match token with
  | .text t =>
    let t := t.filter (· != 0)
    if tableParts.contains d.topName && t.all isGap then handled (d.addText t) else fostered (.text t) d
  | .comment t => handled (d.addComment t)
  | .doctype _ => handled d
  | .stop => inBody token d
  | .startTag name attributes _ =>
    let add (d : Draft) : Draft := d.addElement name attributes
    if name == "caption" then handled { add (clear d).addBorder with mode := .inCaption }
    else if name == "colgroup" then handled { add (clear d) with mode := .inColumnGroup }
    else if name == "col" then retry { (clear d).addElement "colgroup" [] with mode := .inColumnGroup } token
    else if oneOf "tbody tfoot thead" name then handled { add (clear d) with mode := .inTableBody }
    else if oneOf "td th tr" name then retry { (clear d).addElement "tbody" [] with mode := .inTableBody } token
    else if name == "table" then
      match d.popUntil .table ["table"] with
      | (d, true) => retry d.resetMode token
      | (d, false) => handled d
    else if oneOf "style script template" name then handled (d.startHeadElement name attributes)
    else if name == "input" && isHidden attributes then handled (d.addVoid name attributes)
    else if name == "form" then
      if d.hasOpen "template" || d.form.isSome then handled d
      else
        let d := add d
        handled { d.pop with form := some d.top }
    else if name == "select" then
      let d := d.reopen
      let d := add { d with fostering := true }
      handled { d with fostering := false, framesetOk := false, mode := .inSelectInTable }
    else fostered token d
  | .endTag name =>
    if name == "table" then
      match d.popUntil .table ["table"] with
      | (d, true) => handled d.resetMode
      | (d, false) => handled d
    else if oneOf "body caption col colgroup html tbody td tfoot th thead tr" name then handled d
    else if name == "template" then handled d.endTemplate
    else fostered token d

/-- A selection inside a table. -/
def startSelect (d : Draft) (attributes : List Attribute) : Draft :=
  { d.reopen.addElement "select" attributes with framesetOk := false, mode := .inSelectInTable }

/-- In the caption of a table. -/
def inCaption (token : Token) (d : Draft) : Step :=
  let leave (again : Bool) : Step :=
    match d.popUntil .table ["caption"] with
    | (d, true) =>
      let d := { d.clearActive with mode := .inTable }
      if again then retry d token else handled d
    | (d, false) => handled d
  match token with
  | .startTag name attributes _ =>
    if oneOf "caption col colgroup tbody td tfoot thead tr" name then leave true
    else if name == "select" then handled (d.startSelect attributes)
    else inBody token d
  | .endTag name =>
    if name == "caption" then leave false
    else if name == "table" then leave true
    else if oneOf "body col colgroup html tbody td tfoot th thead tr" name then handled d
    else inBody token d
  | _ => inBody token d

/-- Among the columns of a table. -/
def inColumnGroup (token : Token) (d : Draft) : Step :=
  let leave (d : Draft) (t : Token) : Step :=
    if d.topName == "colgroup" then retry { d.pop with mode := .inTable } t else handled d
  match token with
  | .text t =>
    let (gap, rest) := splitGap t
    let d := d.addText gap
    if rest.isEmpty then handled d else leave d (.text rest)
  | .comment t => handled (d.addComment t)
  | .doctype _ => handled d
  | .startTag name attributes _ =>
    if name == "html" then handled (d.startHtml attributes)
    else if name == "col" then handled (d.addVoid name attributes)
    else if name == "template" then handled (d.startHeadElement name attributes)
    else leave d token
  | .endTag name =>
    if name == "colgroup" then
      handled (if d.topName == "colgroup" then { d.pop with mode := .inTable } else d)
    else if name == "col" then handled d
    else if name == "template" then handled d.endTemplate
    else leave d token
  | .stop => inBody token d

/-- The groups of rows of a table. -/
def rowGroups : List Text := Text.words "tbody thead tfoot"

/-- In a group of rows. -/
def inTableBody (token : Token) (d : Draft) : Step :=
  let clear (d : Draft) : Draft := d.clearTo (Text.words "html tbody tfoot thead template")
  let leave : Step :=
    match d.popUntil .table rowGroups with
    | (d, true) => retry { d with mode := .inTable } token
    | (d, false) => handled d
  match token with
  | .startTag name attributes _ =>
    if name == "tr" then handled { (clear d).addElement name attributes with mode := .inRow }
    else if oneOf "td th" name then retry { (clear d).addElement "tr" [] with mode := .inRow } token
    else if oneOf "caption col colgroup tbody tfoot thead" name then leave
    else inTable token d
  | .endTag name =>
    if rowGroups.contains name then
      handled (if d.inScope .table [name] then { (clear d).pop with mode := .inTable } else d)
    else if name == "table" then leave
    else if oneOf "body caption col colgroup html td th tr" name then handled d
    else inTable token d
  | .comment t => handled (d.addComment t)
  | _ => inTable token d

/-- In a row. -/
def inRow (token : Token) (d : Draft) : Step :=
  let leave (again : Bool) : Step :=
    match d.popUntil .table ["tr"] with
    | (d, true) =>
      let d := { d with mode := .inTableBody }
      if again then retry d token else handled d
    | (d, false) => handled d
  match token with
  | .startTag name attributes _ =>
    if oneOf "td th" name then
      let d := (d.clearTo (Text.words "html tr template")).addElement name attributes
      handled { d.addBorder with mode := .inCell }
    else if oneOf "caption col colgroup tbody tfoot thead tr" name then leave true
    else inTable token d
  | .endTag name =>
    if name == "tr" then leave false
    else if name == "table" then leave true
    else if rowGroups.contains name then if d.inScope .table [name] then leave true else handled d
    else if oneOf "body caption col colgroup html td th" name then handled d
    else inTable token d
  | _ => inTable token d

/-- In a cell. -/
def inCell (token : Token) (d : Draft) : Step :=
  match token with
  | .startTag name attributes _ =>
    if oneOf "caption col colgroup tbody td tfoot th thead tr" name then
      match d.popUntil .table ["td", "th"] with
      | (d, true) => retry { d.clearActive with mode := .inRow } token
      | (d, false) => handled d
    else if name == "select" then handled (d.startSelect attributes)
    else inBody token d
  | .endTag name =>
    if oneOf "td th" name then
      match d.popUntil .table [name] with
      | (d, true) => handled { d.clearActive with mode := .inRow }
      | (d, false) => handled d
    else if oneOf "body caption col colgroup html" name then handled d
    else if oneOf "table tbody tfoot thead tr" name then
      if !d.inScope .table [name] then handled d
      else match d.popUntil .table ["td", "th"] with
        | (d, true) => retry { d.clearActive with mode := .inRow } token
        | (d, false) => retry { d with mode := .inRow } token
    else inBody token d
  | _ => inBody token d

/-! ### Selections and templates -/

/-- In a selection. -/
def inSelect (token : Token) (d : Draft) : Step :=
  let popIf (name : Text) (d : Draft) : Draft := if d.topName == name then d.pop else d
  let leave : Step :=
    match d.popUntil .select ["select"] with
    | (d, true) => handled d.resetMode
    | (d, false) => handled d
  match token with
  | .text t => handled (d.addText (t.filter (· != 0)))
  | .comment t => handled (d.addComment t)
  | .doctype _ => handled d
  | .stop => inBody token d
  | .startTag name attributes _ =>
    if name == "html" then handled (d.startHtml attributes)
    else if name == "option" then handled ((popIf "option" d).addElement name attributes)
    else if name == "optgroup" then
      handled ((popIf "optgroup" (popIf "option" d)).addElement name attributes)
    else if name == "select" then leave
    else if oneOf "input keygen textarea" name then
      match d.popUntil .select ["select"] with
      | (d, true) => retry d.resetMode token
      | (d, false) => handled { d with plainNext := true }
    else if oneOf "script template" name then handled (d.startHeadElement name attributes)
    else if oneOf "iframe noembed noframes noscript plaintext style title xmp" name then
      handled { d with plainNext := true }
    else handled d
  | .endTag name =>
    if name == "option" then handled (popIf "option" d)
    else if name == "optgroup" then
      let outer := popIf "option" d
      handled (if outer.topName == "optgroup" then outer.pop else d)
    else if name == "select" then leave
    else if name == "template" then handled d.endTemplate
    else handled d

/-- In a selection inside a table. -/
def inSelectInTable (token : Token) (d : Draft) : Step :=
  let leave (name : Text) (isEnd : Bool) : Step :=
    if !oneOf "caption table tbody tfoot thead tr td th" name then inSelect token d
    else if isEnd && !d.inScope .table [name] then handled d
    else
      let d := match d.stack.dropWhile fun i => d.name i != "select" with
        | [] => d
        | _ :: outer => { d with stack := outer }
      retry d.resetMode token
  match token with
  | .startTag name _ _ => leave name false
  | .endTag name => leave name true
  | _ => inSelect token d

/-- In a template. -/
def inTemplate (token : Token) (d : Draft) : Step :=
  match token with
  | .text _ | .comment _ | .doctype _ => inBody token d
  | .startTag name attributes _ =>
    let next (m : Mode) : Step := retry { d with mode := m, templates := m :: d.templates.drop 1 } token
    if headElements.contains name then handled (d.startHeadElement name attributes)
    else if oneOf "caption colgroup tbody tfoot thead" name then next .inTable
    else if name == "col" then next .inColumnGroup
    else if name == "tr" then next .inTableBody
    else if oneOf "td th" name then next .inRow
    else next .inBody
  | .endTag name => handled (if name == "template" then d.endTemplate else d)
  | .stop => if d.hasOpen "template" then retry d.closeTemplate token else handled d

/-! ### Behind the body -/

/-- Behind the body; `parent` is where comments go, and `last` tells that the document is closed too. -/
def behindBody (parent : Nat) (last : Bool) (token : Token) (d : Draft) : Step :=
  let next : Step := retry { d with mode := .inBody } token
  match token with
  | .stop => handled d
  | .text t => if t.all isGap then inBody token d else next
  | .startTag name _ _ => if name == "html" then inBody token d else next
  | .endTag name => if name == "html" && !last then handled { d with mode := .afterAfterBody } else next
  | .comment t => handled (d.addCommentTo parent t)
  | .doctype _ => if last then inBody token d else next

/-- In a set of frames, which holds no text. -/
def inFrameset (token : Token) (d : Draft) : Step :=
  match token with
  | .comment t => handled (d.addComment t)
  | .text t => handled (d.addText (gapsOf t))
  | .startTag name attributes _ =>
    if name == "html" then handled (d.startHtml attributes)
    else if name == "frameset" then handled (d.addElement name attributes)
    else if name == "frame" then handled (d.addVoid name attributes)
    else if name == "noframes" then handled (d.startHeadElement name attributes)
    else handled d
  | .endTag name =>
    if name == "frameset" && d.topName != "html" then
      let d := d.pop
      handled (if d.topName != "frameset" then { d with mode := .afterFrameset } else d)
    else handled d
  | _ => handled d

/-- Behind a set of frames. -/
def afterFrameset (token : Token) (d : Draft) : Step :=
  match token with
  | .comment t => handled (d.addComment t)
  | .text t => handled (d.addText (gapsOf t))
  | .startTag name attributes _ =>
    if name == "html" then handled (d.startHtml attributes)
    else if name == "noframes" then handled (d.startHeadElement name attributes)
    else handled d
  | .endTag name => handled (if name == "html" then { d with mode := .afterAfterFrameset } else d)
  | _ => handled d

/-- Behind a document of frames. -/
def afterAfterFrameset (token : Token) (d : Draft) : Step :=
  match token with
  | .comment t => handled (d.addCommentTo 0 t)
  | .text t => if (gapsOf t).isEmpty then handled d else inBody (.text (gapsOf t)) d
  | .startTag name attributes _ =>
    if name == "html" then handled (d.startHtml attributes)
    else if name == "noframes" then handled (d.startHeadElement name attributes)
    else handled d
  | _ => handled d

/-! ### Other vocabularies -/

/-- The elements whose opening tag ends the content of another vocabulary. -/
def breakouts : List Text :=
  ["b big blockquote body br center code dd div dl dt em embed h1 h2 h3 h4 h5 h6 head hr i img li",
    "listing menu meta nobr ol p pre ruby s small span strong strike sub sup table tt u ul",
    "var"].flatMap Text.words

/-- A token by the mode of the draft. -/
def byMode (token : Token) (d : Draft) : Step :=
  match d.mode with
  | .initial => d.initial token
  | .beforeHtml => d.beforeHtml token
  | .beforeHead => d.beforeHead token
  | .inHead => d.inHead token
  | .afterHead => d.afterHead token
  | .inBody => d.inBody token
  | .text => d.inText token
  | .inTable => d.inTable token
  | .inCaption => d.inCaption token
  | .inColumnGroup => d.inColumnGroup token
  | .inTableBody => d.inTableBody token
  | .inRow => d.inRow token
  | .inCell => d.inCell token
  | .inSelect => d.inSelect token
  | .inSelectInTable => d.inSelectInTable token
  | .inTemplate => d.inTemplate token
  | .afterBody => d.behindBody (d.stack.getLastD 0) false token
  | .inFrameset => d.inFrameset token
  | .afterFrameset => d.afterFrameset token
  | .afterAfterBody => d.behindBody 0 true token
  | .afterAfterFrameset => d.afterAfterFrameset token
  | .ignoreRest => handled d

/-- A closing tag in another vocabulary. -/
def endForeign (token : Token) (name : Text) (d : Draft) : Step :=
  let rec go : List Nat → Step
    | [] => handled d
    | i :: outer =>
      if d.space i == .html then byMode token d
      else if Text.lower (d.name i) == name then handled { d with stack := outer }
      else go outer
  if Text.lower d.topName == name then handled d.pop else go d.stack

/-- A token in another vocabulary. -/
def inForeign (token : Token) (d : Draft) : Step :=
  match token with
  | .text t =>
    let ok := d.framesetOk && t.all fun c : UInt8 => isGap c || c == 0
    handled ({ d with framesetOk := ok }.addText (replaceZero t))
  | .comment t => handled (d.addComment t)
  | .startTag name attributes closesItself =>
    let breaksOut := breakouts.contains name ||
      (name == "font" && attributes.any fun a => oneOf "color face size" a.name)
    if breaksOut then retry (d.leaveForeign d.holdsHtml) token
    else
      let space := d.space d.top
      let name := if space == .svg then respell mixedCaseElements name else name
      let d := d.addElement name (respellAttributes space attributes) space
      let d := { d with plainNext := true }
      handled (if closesItself then d.pop else d)
  | .endTag name => endForeign token name d
  | _ => handled d

/-- Does a token belong to another vocabulary? -/
def isForeign (token : Token) (d : Draft) : Bool :=
  let i := d.top
  let math := d.space i == .math
  let isText := match token with
    | .text _ => true
    | _ => false
  let start : Option Text := match token with
    | .startTag name _ _ => some name
    | _ => none
  let plainMath := math && oneOf "mi mo mn ms mtext" (d.name i)
  if d.space i == .html || token == .stop then false
  else if plainMath then !(isText || (start.any fun n : Text => n != "mglyph" && n != "malignmark"))
  else if math && d.name i == "annotation-xml" && start == some "svg" then false
  else !(d.holdsHtml i && (isText || start.isSome))

/-- Handles a token until nothing of it is left. -/
def handle : (fuel : Nat) → Token → Draft → Draft
  | 0, _, d => d
  | fuel + 1, token, d =>
    match (if isForeign token d then inForeign token d else byMode token d) with
    | (d, none) => d
    | (d, some again) => handle fuel again d

end Draft

end Html

end Marginalia
