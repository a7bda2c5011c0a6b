import Marginalia.Yaml.TokenStream

/-!
The tree of a document: scalars, sequences and mappings, and references to parts that bear an anchor. Only
the first document of a text is read.
-/

namespace Marginalia

namespace Yaml

/-- A part of a document. -/
inductive Node where
  /-- A scalar with its tag in short form, if it has one. -/
  | scalar (tag : Text) (plain : Bool) (value : Text)
  | sequence (items : List Node)
  | mapping (pairs : List (Node × Node))
  /-- A reference to another part; none if the reference stands within that part. -/
  | alias (name : Text) (target : Option Node)
deriving Inhabited

namespace Node

/-- What stands for nothing. -/
def empty : Node := .scalar [] true []

end Node

/-! ### Tags -/

/-- What the handles of tags stand for. -/
abbrev Handles := List (Text × Text)

/-- How the tags of the language begin. -/
def standardTags : Text := "tag:yaml.org,2002:"

/-- A tag in short form: those of the language begin with two exclamation marks. A single mark alone is no
tag. -/
def shortTag (tag : Text) : Text :=
  if tag == "!" then []
  else match Text.after? tag standardTags with
    | some name => "!!" ++ name
    | none => tag

/-- The tag that a handle and a suffix make, if the handle is known. -/
def resolveTag (handles : Handles) (handle suffix : Text) : Option Text :=
  if handle.isEmpty then some (shortTag suffix)
  else (handles.lookup handle).map fun p => shortTag (p ++ suffix)

/-! ### Reading -/

/-- The tokens left and the anchors seen; a part that is not yet complete has none. -/
structure Composing where
  rest : List Token
  anchors : Array (Text × Option Node) := #[]

namespace Composing

def head (s : Composing) : Token := s.rest.headD .streamEnd

def skip (s : Composing) : Composing := { s with rest := s.rest.drop 1 }

/-- Notes an anchor whose part begins; gives its place. -/
def openAnchor (s : Composing) (name : Option Text) : Option Nat × Composing :=
  match name with
  | none => (none, s)
  | some n => (some s.anchors.size, { s with anchors := s.anchors.push (n, none) })

/-- Notes the part that bears an anchor. -/
def closeAnchor (place : Option Nat) (result : Node × Composing) : Node × Composing :=
  match place with
  | none => result
  | some k =>
    (result.1, { result.2 with anchors := result.2.anchors.modify k fun (n, _) => (n, some result.1) })

/-- The part that the latest anchor of a name stands at. -/
def find? (s : Composing) (name : Text) : Option (Option Node) :=
  (s.anchors.findRev? (·.1 == name)).map (·.2)

end Composing

/-- Anchor and tag of a part, in either order. -/
def readProperties (handles : Handles) (s : Composing) : Option (Option Text × Option Text × Composing) :=
  match s.rest with
  | .anchor a :: .tag h t :: _ => (resolveTag handles h t).map fun t => (some a, some t, s.skip.skip)
  | .tag h t :: .anchor a :: _ => (resolveTag handles h t).map fun t => (some a, some t, s.skip.skip)
  | .anchor a :: _ => some (some a, none, s.skip)
  | .tag h t :: _ => (resolveTag handles h t).map fun t => (none, some t, s.skip)
  | _ => some (none, none, s)

mutual

/-- Reads a part. Block collections stand only outside of brackets; entries of a sequence may stand at the
column of the key in front of them. -/
def readNode (handles : Handles) (block flush : Bool) : (fuel : Nat) → Composing → Option (Node × Composing)
  | 0, _ => none
  | fuel + 1, s =>
    match s.head with
    | .alias name => (s.find? name).map fun target => (.alias name target, s.skip)
    | _ =>
      match readProperties handles s with
      | none => none
      | some (anchor, tag, s) =>
        let (place, s) := s.openAnchor anchor
        Option.map (Composing.closeAnchor place) <|
          match s.head with
          | .blockEntry => if flush then readEntries handles true fuel [] s else readNothing anchor tag s
          | .scalar plain value => some (.scalar (tag.getD []) plain value, s.skip)
          | .flowSequenceStart => readFlowEntries handles true fuel [] s.skip
          | .flowMappingStart => readFlowPairs handles true fuel [] s.skip
          | .blockSequenceStart =>
            if block then readEntries handles false fuel [] s.skip else readNothing anchor tag s
          | .blockMappingStart => if block then readPairs handles fuel [] s.skip else readNothing anchor tag s
          | _ => readNothing anchor tag s

/-- A part that has only an anchor or a tag. -/
def readNothing (anchor tag : Option Text) (s : Composing) : Option (Node × Composing) :=
  if anchor.isSome || tag.isSome then some (.scalar (tag.getD []) true [], s) else none

/-- Reads the entries of a block sequence; those that are flush with a key end without a sign. -/
def readEntries (handles : Handles) (flush : Bool) :
    (fuel : Nat) → List Node → Composing → Option (Node × Composing)
  | 0, _, _ => none
  | fuel + 1, done, s =>
    match s.head with
    | .blockEntry =>
      let s := s.skip
      let nothing := match s.head with
        | .blockEntry | .blockEnd => true
        | .key | .value => flush
        | _ => false
      if nothing then readEntries handles flush fuel (.empty :: done) s
      else match readNode handles true false fuel s with
        | some (n, s) => readEntries handles flush fuel (n :: done) s
        | none => none
    | .blockEnd => some (.sequence done.reverse, if flush then s else s.skip)
    | _ => if flush then some (.sequence done.reverse, s) else none

/-- Reads the keys and values of a block mapping. -/
def readPairs (handles : Handles) : (fuel : Nat) → List (Node × Node) → Composing → Option (Node × Composing)
  | 0, _, _ => none
  | fuel + 1, done, s =>
    match s.head with
    | .key =>
      match readBlockPart handles fuel s.skip with
      | none => none
      | some (k, s) =>
        match s.head with
        | .value =>
          match readBlockPart handles fuel s.skip with
          | some (v, s) => readPairs handles fuel ((k, v) :: done) s
          | none => none
        | _ => readPairs handles fuel ((k, .empty) :: done) s
    | .blockEnd => some (.mapping done.reverse, s.skip)
    | _ => none

/-- Reads a key or a value of a block mapping, which may be missing. -/
def readBlockPart (handles : Handles) : (fuel : Nat) → Composing → Option (Node × Composing)
  | 0, _ => none
  | fuel + 1, s =>
    match s.head with
    | .key | .value | .blockEnd => some (.empty, s)
    | _ => readNode handles true true fuel s

/-- Reads the entries of a sequence in brackets; an entry with a key is a mapping of one pair. -/
def readFlowEntries (handles : Handles) (first : Bool) :
    (fuel : Nat) → List Node → Composing → Option (Node × Composing)
  | 0, _, _ => none
  | fuel + 1, done, s =>
    match s.head with
    | .flowSequenceEnd => some (.sequence done.reverse, s.skip)
    | t =>
      if !first && t != .flowEntry then none
      else
        let s := if first then s else s.skip
        match s.head with
        | .flowSequenceEnd => some (.sequence done.reverse, s.skip)
        | .key =>
          match readFlowPair handles fuel s.skip with
          | some (n, s) => readFlowEntries handles false fuel (n :: done) s
          | none => none
        | _ =>
          match readNode handles false false fuel s with
          | some (n, s) => readFlowEntries handles false fuel (n :: done) s
          | none => none

/-- Reads the one pair of an entry, behind the sign of its key. A sign in the place of the key is lost. -/
def readFlowPair (handles : Handles) : (fuel : Nat) → Composing → Option (Node × Composing)
  | 0, _ => none
  | fuel + 1, s =>
    let key := match s.head with
      | .value | .flowEntry | .flowSequenceEnd => some (Node.empty, s.skip)
      | _ => readNode handles false false fuel s
    match key with
    | none => none
    | some (k, s) =>
      let value := match s.head with
        | .value =>
          let s := s.skip
          match s.head with
          | .flowEntry | .flowSequenceEnd => some (Node.empty, s)
          | _ => readNode handles false false fuel s
        | _ => some (Node.empty, s)
      value.map fun (v, s) => (.mapping [(k, v)], s)

/-- Reads the pairs of a mapping in braces. -/
def readFlowPairs (handles : Handles) (first : Bool) :
    (fuel : Nat) → List (Node × Node) → Composing → Option (Node × Composing)
  | 0, _, _ => none
  | fuel + 1, done, s =>
    match s.head with
    | .flowMappingEnd => some (.mapping done.reverse, s.skip)
    | t =>
      if !first && t != .flowEntry then none
      else
        let s := if first then s else s.skip
        match s.head with
        | .flowMappingEnd => some (.mapping done.reverse, s.skip)
        | .key =>
          match readFlowPart handles fuel s.skip with
          | none => none
          | some (k, s) =>
            match s.head with
            | .value =>
              match readFlowPart handles fuel s.skip with
              | some (v, s) => readFlowPairs handles false fuel ((k, v) :: done) s
              | none => none
            | _ => readFlowPairs handles false fuel ((k, .empty) :: done) s
        | _ =>
          match readNode handles false false fuel s with
          | some (k, s) => readFlowPairs handles false fuel ((k, .empty) :: done) s
          | none => none

/-- Reads a key or a value in braces, which may be missing. -/
def readFlowPart (handles : Handles) : (fuel : Nat) → Composing → Option (Node × Composing)
  | 0, _ => none
  | fuel + 1, s =>
    match s.head with
    | .value | .flowEntry | .flowMappingEnd => some (.empty, s)
    | _ => readNode handles false false fuel s

end

/-! ### Documents -/

/-- Reads the directives in front of a document. -/
def readDirectives : (seenVersion : Bool) → Handles → List Token → Option (Handles × List Token)
  | seen, handles, .version major minor :: rest =>
    if seen || major != 1 || minor != 1 then none else readDirectives true handles rest
  | seen, handles, .tagPrefix h p :: rest =>
    if (handles.lookup h).isSome then none else readDirectives seen (handles ++ [(h, p)]) rest
  | _, handles, rest => some (handles, rest)

/-- The handles that need no directive. -/
def standardHandles : Handles := [("!", "!"), ("!!", standardTags)]

/-- The tree of a document and the tokens behind it. -/
def readDocument (tokens : List Token) : Option (Node × List Token) :=
  let fuel := 4 * tokens.length + 8
  let content (handles : Handles) (rest : List Token) : Option (Node × List Token) :=
    (readNode (handles ++ standardHandles) true false fuel { rest }).map fun (n, s) => (n, s.rest)
  match tokens.head? with
  | some (.version ..) | some (.tagPrefix ..) | some .documentStart =>
    match readDirectives false [] tokens with
    | some (handles, .documentStart :: rest) =>
      match rest.head? with
      | some (.version ..) | some (.tagPrefix ..) | some .documentStart | some .documentEnd
      | some .streamEnd => some (.empty, rest)
      | _ => content handles rest
    | _ => none
  | _ => content [] tokens

/-- What a text holds. -/
inductive Document where
  /-- It is not well formed. -/
  | wrong
  /-- It has no document. -/
  | absent
  | present (root : Node)

/-- Reads the first document of a text. Two tokens behind it must be right, too. -/
def Document.ofText (t : Text) : Document :=
  let stream := TokenStream.ofSource (Source.ofText t)
  let tokens := stream.tokens.toList
  if tokens.head? == some .streamEnd then .absent
  else match readDocument tokens with
    | none => .wrong
    | some (root, rest) => if stream.failed && rest.length < 3 then .wrong else .present root

end Yaml

end Marginalia
