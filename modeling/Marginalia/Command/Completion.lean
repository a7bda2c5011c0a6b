import Marginalia.Command.Invocation

/-!
Completing a command line for a shell: from the arguments in front of the last one follows what it can be, a
command, a flag or a value of a flag.
-/

namespace Marginalia

namespace Command

/-- What a shell should do beside the choices that it is given. -/
inductive Advice where
  /-- Offer files. -/
  | offerFiles
  | noFiles
deriving DecidableEq, Repr

def Advice.code : Advice → Nat
  | .offerFiles => 0
  | .noFiles => 4

/-- Choices, each with a description, and an advice. -/
structure Choices where
  choices : List (Text × Text) := []
  advice : Advice := .offerFiles
deriving DecidableEq, Repr

/-- A choice on a line of its own. -/
def choiceLine (withDescriptions : Bool) : Text × Text → Text
  | (choice, about) => choice ++ Text.onlyIf withDescriptions ("\t" ++ about) ++ "\n"

/-- The choices as a shell reads them, and the advice behind them. -/
def Choices.text (c : Choices) (withDescriptions : Bool) : Text :=
  c.choices.flatMap (choiceLine withDescriptions) ++ ":" ++ Text.ofNat c.advice.code ++ "\n"

/-- The commands below a command whose names begin so. -/
def namesFrom (c : Command) (start : Text) : List (Text × Text) :=
  (c.below.filter fun sub => Text.startsWith sub.name start).map fun sub => (sub.name, sub.summary)

/-- The spellings of a flag that begin so. -/
def flagsFrom (start : Text) (f : Flag) : List (Text × Text) :=
  let short : List Text := match f.letter with
    | some c => ['-'.toUInt8 :: [c]]
    | none => []
  ((("--" ++ f.name) :: short).filter fun spelling => Text.startsWith spelling start).map fun spelling =>
    (spelling, f.usage)

/-- Is this a whole flag, by its form? -/
def isFlag (a : Text) : Bool :=
  match a with
  | c :: d :: rest => c == '-' && (d != '-' || !rest.isEmpty)
  | _ => false

/-- The name or letter of a flag without a value, by its form. -/
def flagWord (a : Text) : Text :=
  match Text.after? a "--" with
  | some name => name
  | none => a.drop (a.length - 1)

/-- The flag of a name or a letter. -/
def flagOf? (c : Command) (word : Text) : Option Flag :=
  match word with
  | [letter] => c.allFlags.find? (·.letter == some letter)
  | name => c.allFlags.find? (·.name == name)

/-- What is to be completed. -/
inductive Target where
  /-- A word, or the name of a flag. -/
  | word
  /-- The value of a flag. -/
  | value
  /-- The value of something that is no flag. -/
  | unknown

/-- What the last argument is, the arguments in front of it that are to be read, and the part of it that is to
be completed. -/
def target (c : Command) (args : List Text) (last : Text) : Target × List Text × Text :=
  let byName (name : Text) (args shorter : List Text) (withSign : Bool) (rest : Text) : Target × List Text × Text :=
    match c.flagOf? name with
    | none => (.unknown, args, last)
    | some f => if !withSign && f.isSwitch then (.word, args, rest) else (.value, shorter, rest)
  let byPrevious (rest : Text) : Target × List Text × Text :=
    match args.getLast? with
    | some previous =>
      if isFlag previous && !previous.contains '='.toUInt8 then
        let name := flagWord previous
        if name.isEmpty then (.word, args.dropLast, rest) else byName name args args.dropLast false rest
      else (.word, args, rest)
    | none => (.word, args, rest)
  if last.head? == some '-'.toUInt8 then
    match Text.cut? "=" last with
    | some (flag, value) =>
      let name := flagWord flag
      if name.isEmpty then byPrevious value else byName name args args true value
    | none => (.word, args, last)
  else byPrevious last

/-- What a command offers for words. -/
def wordChoices (c : Command) (words : List Text) (start : Text) : Choices :=
  let below := if words.isEmpty then c.namesFrom start else []
  let plain : Choices := ⟨below, if words.isEmpty && !c.below.isEmpty then .noFiles else .offerFiles⟩
  match c with
  | .help =>
    match find words with
    | .ok (topic, _) => ⟨topic.namesFrom start, .noFiles⟩
    | .error _ => ⟨[], .noFiles⟩
  | .completion | .shell _ => { plain with advice := .noFiles }
  | _ => plain

/-- Completes the last of some arguments. -/
def choices (args : List Text) (last : Text) : Choices :=
  match find args with
  | .error _ => {}
  | .ok (c, rest) =>
    let (kind, rest, start) := target c rest last
    match readFlags c.allFlags {} rest with
    | .error _ => {}
    | .ok (s, words) =>
      let isOpen : Bool := match readFlags c.allFlags {} (rest ++ [Text.ofString "--"]) with
        | .ok (_, more) => decide (more.length ≤ words.length)
        | .error _ => false
      match kind, isOpen with
      | .unknown, true => {}
      | kind, isOpen =>
        if s.help.isSome then { advice := .noFiles }
        else match kind, isOpen with
          | .value, true => {}
          | .word, true =>
            if start.head? == some '-'.toUInt8 && !start.contains '='.toUInt8 then
              let inherited := if c == .program then [] else globalFlags
              let own := (if c == .program then c.allFlags else helpFlag c.name :: c.ownFlags).mergeSort
                fun a b => a.name ≤ b.name
              ⟨((inherited ++ own).filter (!s.has ·)).flatMap (flagsFrom start), .noFiles⟩
            else wordChoices c words start
          | .value, false => ⟨[], (wordChoices c words start).advice⟩
          | _, _ => wordChoices c words start

end Command

end Marginalia
