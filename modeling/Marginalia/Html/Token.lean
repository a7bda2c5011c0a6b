import Marginalia.Html.Reference

/-!
The tokens of HTML: tags, comments, declarations and the text between them. The elements whose content
is not markup make what follows their tag one text.
-/

namespace Marginalia

namespace Html

/-- An attribute of a tag. -/
structure Attribute where
  name : Text
  value : Text
deriving DecidableEq, Repr, Inhabited

/-- A token. -/
inductive Token where
  | text (value : Text)
  | comment (value : Text)
  | doctype (value : Text)
  | startTag (name : Text) (attributes : List Attribute) (closesItself : Bool)
  | endTag (name : Text)
  /-- The end of the input. -/
  | stop
deriving DecidableEq, Repr, Inhabited

/-- White space between the parts of a tag. -/
def isGap (c : UInt8) : Bool := c == ' ' || c == '\n' || c == '\r' || c == '\t' || c == 0x0c

/-- Each line ending as one line feed. -/
def normalizeLines : Text → Text
  | [] => []
  | [c] => if c == '\r' then "\n" else [c]
  | c :: d :: t =>
    if c == '\r' then
      if d == '\n' then normalizeLines (d :: t) else '\n'.toUInt8 :: normalizeLines (d :: t)
    else c :: normalizeLines (d :: t)

/-- The text with the replacement character for each octet that is zero. -/
def replaceZero (t : Text) : Text :=
  Text.replaceEach (fun c : UInt8 => if c == 0 then some (Text.ofChar Text.replacement) else none) t

/-! ### Tags -/

/-- The name of an attribute and what follows it. An equals sign may begin a name. -/
def attributeName (t : Text) : Text × Text :=
  let isEnd (c : UInt8) : Bool := isGap c || c == '/' || c == '>' || c == '='
  let first : Text := if t.head? == some '=' then "=" else ""
  let (name, rest) := Text.span (fun c => !isEnd c) (t.drop first.length)
  (first ++ name, rest)

/-- The value behind the name of an attribute and what follows it; nothing if the input ends before. -/
def attributeValue? (t : Text) : Option (Text × Text) :=
  match t.dropWhile isGap with
  | [] => none
  | c :: rest =>
    if c == '/' then some ([], rest)
    else if c != '=' then some ([], c :: rest)
    else match rest.dropWhile isGap with
      | [] => none
      | q :: inner =>
        if q == '>' then some ([], q :: inner)
        else if q == '"' || q == Text.apostrophe then Text.cut? [q] inner
        else some (Text.span (fun c : UInt8 => !isGap c && c != '>') (q :: inner))

/-- The attributes of a tag and what follows the tag; nothing if the input ends before. -/
def attributes? : (fuel : Nat) → Text → Option (List Attribute × Text)
  | 0, _ => none
  | fuel + 1, t =>
    match t.dropWhile isGap with
    | [] => none
    | c :: rest =>
      if c == '>' then some ([], rest)
      else
        let (name, behind) := attributeName (c :: rest)
        match attributeValue? behind with
        | none => none
        | some (value, behind) =>
          let found : Attribute := ⟨Text.lower name, unescape true (normalizeLines value)⟩
          (attributes? fuel behind).map fun (more, rest) =>
            (if name.isEmpty then more else found :: more, rest)

/-- A tag from its name on: name, attributes, whether a slash ends it, and what follows. -/
def tag? (t : Text) : Option (Text × List Attribute × Bool × Text) :=
  let (name, behind) := Text.span (fun c : UInt8 => !isGap c && c != '/' && c != '>') t
  match attributes? (behind.length + 1) behind with
  | none => none
  | some (attributes, rest) =>
    let slash := (t.take (t.length - rest.length - 1)).getLast? == some '/'
    some (Text.lower name, attributes, slash, rest)

/-! ### Content that is not markup -/

/-- The elements whose content is one text. -/
def rawElements : List Text :=
  Text.words "iframe noembed noframes noscript plaintext script style textarea title xmp"

/-- Does the closing tag of an element begin with what follows `</`? -/
def closes (name t : Text) : Bool :=
  match Text.afterIgnoringCase? t name with
  | some (c :: _) => isGap c || c == '/' || c == '>'
  | _ => false

/-- The text up to the closing tag of an element, and the rest from that tag on. -/
def rawContent (name : Text) : Text → Text × Text
  | [] => ([], [])
  | c :: t =>
    match Text.after? (c :: t) "</" with
    | some rest =>
      if closes name rest then ([], c :: t)
      else
        let (a, b) := rawContent name t
        (c :: a, b)
    | none =>
      let (a, b) := rawContent name t
      (c :: a, b)

/-- Where a script stands with respect to a comment in it: outside, inside, or inside with an inner
script. The number counts the hyphens just read, up to two. -/
inductive ScriptState where
  | plain
  | escaped (hyphens : Nat)
  | nested (hyphens : Nat)
deriving DecidableEq, Repr

/-- One step along a script: how many octets are read and the state behind them; nothing where the
closing tag begins. -/
def scriptStep (s : ScriptState) (t : Text) : Option (Nat × ScriptState) :=
  let closing := match Text.after? t "</" with
    | some rest => closes "script" rest
    | none => false
  let opening := match Text.after? t "<" with
    | some rest => closes "script" rest
    | none => false
  let letter := (t.drop 1).head?.any Text.isLetter
  let c := t.headD 0
  match s with
  | .plain =>
    if closing then none
    else if Text.startsWith t "<!--" then some (4, .escaped 2)
    else some (1, .plain)
  | .escaped n =>
    if closing then none
    else if c == '-' then some (1, .escaped (min 2 (n + 1)))
    else if c == '<' then
      if opening then some (8, .nested 0)
      else if letter || Text.startsWith t "</" then some (1, .escaped 0)
      else some (1, .plain)
    else if c == '>' && n == 2 then some (1, .plain)
    else some (1, .escaped 0)
  | .nested n =>
    if closing then some (9, .escaped 0)
    else if c == '-' then some (1, .nested (min 2 (n + 1)))
    else if c == '>' && n == 2 then some (1, .plain)
    else some (1, .nested 0)

/-- The text of a script and the rest from its closing tag on. -/
def scriptContent : (fuel : Nat) → ScriptState → Text → Text × Text
  | 0, _, t => (t, [])
  | _ + 1, _, [] => ([], [])
  | fuel + 1, s, t =>
    match scriptStep s t with
    | none => ([], t)
    | some (n, s) =>
      let (a, b) := scriptContent fuel s (t.drop n)
      (t.take n ++ a, b)

/-- The content of a raw element and the rest from its closing tag on. -/
def contentOf (name t : Text) : Text × Text :=
  if name == "plaintext" then (t, [])
  else if name == "script" then scriptContent t.length .plain t
  else rawContent name t

/-! ### Comments and declarations -/

/-- The text without the beginnings of an ending at its end. -/
def withoutAbruptEnd (t : Text) : Text :=
  if Text.endsWith t "--!" then Text.dropEnd t "--!"
  else if Text.endsWith t "--" then Text.dropEnd t "--"
  else Text.dropEnd t "-"

/-- The length of a comment with its ending: `hyphens` counts those just read, and `fresh` tells that
nothing else has been read. -/
def commentLength? : (hyphens : Nat) → (fresh : Bool) → Text → Option Nat
  | _, _, [] => none
  | hyphens, fresh, c :: t =>
    if c == '-' then (commentLength? (hyphens + 1) fresh t).map (· + 1)
    else if c == '>' && (2 ≤ hyphens || fresh) then some 1
    else if c == '!' && 2 ≤ hyphens && t.head? == some '>' then some 2
    else (commentLength? 0 false t).map (· + 1)

/-- The text of a comment, after its opening, and what follows it. -/
def commentBody (t : Text) : Text × Text :=
  match commentLength? 0 true t with
  | none => (withoutAbruptEnd t, [])
  | some n =>
    let whole := t.take n
    let body : Text :=
      if Text.endsWith whole "--!>" then Text.dropEnd whole "--!>" else whole.take (n - 3)
    (body, t.drop n)

/-- The text up to the next closing angle bracket and what follows it. -/
def upToAngle (t : Text) : Text × Text := (Text.cut? ">" t).getD (t, [])

/-- A character data section, after its opening, and what follows it. -/
def dataSection (t : Text) : Text × Text := (Text.cut? "]]>" t).getD (t, [])

/-- The text of a comment or a declaration as a token holds it. -/
def settle (t : Text) : Text := unescape false (normalizeLines t)

/-- A declaration after `<!`. -/
def declaration (dataAllowed : Bool) (t : Text) : Token × Text :=
  let comment (parts : Text × Text) : Token × Text := (.comment (settle (replaceZero parts.1)), parts.2)
  match Text.after? t "--" with
  | some rest => comment (commentBody rest)
  | none =>
    match Text.afterIgnoringCase? t "doctype" with
    | some rest =>
      let (body, rest) := upToAngle (rest.dropWhile isGap)
      (.doctype (settle body), rest)
    | none =>
      match (if dataAllowed then Text.after? t "[CDATA[" else none) with
      | some rest =>
        let (body, rest) := dataSection rest
        (.text (settle (replaceZero body)), rest)
      | none =>
        let cutShort := Text.startsWith "doctype" (Text.lower t) || (dataAllowed && Text.startsWith "[CDATA[" t)
        comment (if t.length < 2 then (t, []) else if cutShort then ([], []) else upToAngle t)

/-! ### Tokens -/

/-- Does markup begin here? -/
def isMarkup (t : Text) : Bool :=
  match t with
  | a :: b :: rest =>
    a == '<' && (Text.isLetter b || b == '!' || b == '?' || (b == '/' && !rest.isEmpty))
  | _ => false

/-- The text up to the next markup, and the rest. -/
def textRun : Text → Text × Text
  | [] => ([], [])
  | c :: t =>
    if isMarkup (c :: t) then ([], c :: t)
    else
      let (a, b) := textRun t
      (c :: a, b)

/-- The markup at the head of a text, and what follows it; nothing if the input ends inside a tag. -/
def markup? (dataAllowed : Bool) (t : Text) : Option (Token × Text) :=
  match t with
  | _ :: c :: rest =>
    if Text.isLetter c then
      (tag? (c :: rest)).map fun (name, attributes, slash, rest) => (.startTag name attributes slash, rest)
    else if c == '!' then some (declaration dataAllowed rest)
    else if c == '?' then
      let (body, rest) := upToAngle (c :: rest)
      some (.comment (settle (replaceZero body)), rest)
    else match rest with
      | [] => none
      | d :: more =>
        if d == '>' then some (.comment [], more)
        else if Text.isLetter d then (tag? rest).map fun (name, _, _, rest) => (.endTag name, rest)
        else
          let (body, rest) := upToAngle rest
          some (.comment (settle (replaceZero body)), rest)
  | _ => none

/-- The raw element that a token opens, if it does. -/
def Token.raw? : Token → Option Text
  | .startTag name _ _ => if rawElements.contains name then some name else none
  | _ => none

/-- The next token and what follows it. `raw` is the element whose content is one text, and
`dataAllowed` tells whether character data sections count. -/
def Token.next (raw : Option Text) (dataAllowed : Bool) (t : Text) : Token × Text :=
  let (content, rest) := match raw with
    | some name => contentOf name t
    | none => ([], t)
  if !content.isEmpty then
    let body := replaceZero (normalizeLines content)
    let resolved := raw == some "textarea" || raw == some "title"
    (.text (if resolved then unescape false body else body), rest)
  else
    let (run, behind) := textRun t
    if !run.isEmpty then (.text (settle run), behind)
    else match markup? dataAllowed t with
      | some found => found
      | none => (.stop, [])

/-- All tokens of a text. -/
def tokensFrom : (fuel : Nat) → (raw : Option Text) → Text → List Token
  | 0, _, _ => []
  | _ + 1, _, [] => []
  | fuel + 1, raw, t =>
    match Token.next raw false t with
    | (.stop, _) => []
    | (token, rest) => token :: tokensFrom fuel token.raw? rest

/-- All tokens of a text. -/
def tokens (t : Text) : List Token := tokensFrom t.length none t

end Html

end Marginalia
