import Marginalia.Yaml.Scalar

/-!
Records: documents that are mappings from names to texts. Names that nobody asked for are not looked into.
A mapping may take over the entries of others, which its own entries override.
-/

namespace Marginalia

namespace Yaml

/-- The values of the fields that were found. -/
abbrev Record := List (Text × Text)

/-- The value of a field, empty if it was not found. -/
def Record.get (r : Record) (name : Text) : Text := (r.lookup name).getD []

/-- The names seen so far and the fields found. -/
structure Filling where
  /-- The names whose values are settled. -/
  settled : List Text := []
  record : Record := []

/-- The text of a part for a field. -/
def Node.text : Node → FieldValue
  | .scalar tag plain value => scalarText tag plain value
  | .alias _ (some target) => target.text
  | _ => .wrong

/-- The part that a reference leads to. -/
def Node.target? : Node → Option Node
  | .alias _ target => target
  | n => some n

/-- Do two parts count as the same key? References are compared by name, collections are all the same. -/
def Node.sameKey : Node → Node → Bool
  | .scalar _ _ a, .scalar _ _ b => a == b
  | .alias a _, .alias b _ => a == b
  | .sequence _, .sequence _ => true
  | .mapping _, .mapping _ => true
  | _, _ => false

/-- Does a key occur twice? -/
def hasTwin : List (Node × Node) → Bool
  | [] => false
  | (k, _) :: more => more.any (fun p => k.sameKey p.1) || hasTwin more

/-- Is this the key whose value is taken over? -/
def Node.isMerge : Node → Bool
  | .scalar tag plain value => value == "<<" && (tag == "!!merge" || (tag.isEmpty && plain))
  | _ => false

/-- Reads the entries of a mapping in order. Only the outermost mapping may not set a field twice; in those
that it takes over the first value stays. -/
def fillPairs (fields : List Text) (outermost : Bool) : List (Node × Node) → Filling → Option Filling
  | [], f => some f
  | (k, v) :: more, f =>
    if k.isMerge then fillPairs fields outermost more f
    else match k.text with
      | .wrong => none
      | .nothing => fillPairs fields outermost more f
      | .text name =>
        if f.settled.contains name then if outermost then none else fillPairs fields outermost more f
        else if !fields.contains name then fillPairs fields outermost more f
        else
          let f := { f with settled := name :: f.settled }
          match v.text with
          | .wrong => none
          | .nothing => fillPairs fields outermost more f
          | .text t => fillPairs fields outermost more { f with record := f.record ++ [(name, t)] }

/-- The mappings whose entries a part takes over. -/
def mergedParts? : Node → Option (List Node)
  | .sequence items => items.mapM Node.target?
  | n => n.target?.map fun m => [m]

/-- Reads a mapping and the mappings it takes over, its own entries first; the number bounds the depth. -/
def fillMapping (fields : List Text) : (fuel : Nat) → (outermost : Bool) → Node → Filling → Option Filling
  | 0, _, _, _ => none
  | fuel + 1, outermost, .mapping pairs, f =>
    if hasTwin pairs then none
    else match fillPairs fields outermost pairs f, pairs.find? (·.1.isMerge) with
      | none, _ => none
      | some f, none => some f
      | some f, some (_, v) =>
        match mergedParts? v with
        | none => none
        | some parts =>
          parts.foldl (fun f m => match f with
            | some f => fillMapping fields fuel false m f
            | none => none) (some f)
  | _ + 1, _, _, _ => none

/-- What a text holds for a record. -/
inductive RecordReading where
  | wrong
  | absent
  | record (r : Record)

/-- How deep mappings may take over others. -/
def mergeDepth : Nat := 1000

/-- Reads the named fields of the first document of a text. -/
def readRecord (fields : List Text) (t : Text) : RecordReading :=
  match Document.ofText t with
  | .wrong => .wrong
  | .absent => .absent
  | .present root =>
    match root.target? with
    | some (.scalar tag plain value) =>
      if scalarText tag plain value == .nothing then .record [] else .wrong
    | some root =>
      match fillMapping fields mergeDepth true root {} with
      | some f => .record f.record
      | none => .wrong
    | none => .wrong

end Yaml

end Marginalia
