import Marginalia.Command.Basic

/-!
From arguments to what is to be done. The command is looked for first, among the arguments that are neither
flags nor values of flags; only then are the flags read.
-/

namespace Marginalia

namespace Command

/-- Does the argument look like a flag whose value is the next argument? Flags that are not known count. -/
def takesNext (flags : List Flag) (a : Text) : Bool :=
  if a.contains '='.toUInt8 then false
  else match Text.after? a "--" with
    | some name => !flags.any fun f => f.isSwitch && f.name == name
    | none =>
      match Text.after? a "-" with
      | some [c] => !flags.any fun f => f.isSwitch && f.letter == some c
      | _ => false

/-- Is the argument a word, and no flag? -/
def isWord (a : Text) : Bool := !a.isEmpty && !Text.startsWith a "-"

/-- The words among arguments, up to a double dash. A flag that wants a value ends them if no argument would
be left behind that value. -/
def words (flags : List Flag) : List Text → List Text
  | [] => []
  | [a] => if isWord a then [a] else []
  | a :: b :: more =>
    if a == "--" then []
    else if takesNext flags a then (if more.isEmpty then [] else words flags more)
    else if isWord a then a :: words flags (b :: more)
    else words flags (b :: more)

/-- The arguments without the first that is a certain word. -/
def dropWord (flags : List Flag) (word : Text) : List Text → List Text
  | [] => []
  | [a] => if a == word then [] else [a]
  | a :: b :: more =>
    if a == "--" then a :: b :: more
    else if takesNext flags a then a :: b :: dropWord flags word more
    else if a == word then b :: more
    else a :: dropWord flags word (b :: more)

/-- The command that arguments lead to from another, and the arguments that are left; the number bounds the
steps. -/
def descend : (fuel : Nat) → Command → List Text → Command × List Text
  | 0, c, args => (c, args)
  | fuel + 1, c, args =>
    match words c.knownFlags args with
    | [] => (c, args)
    | word :: _ =>
      match c.named? word with
      | some next => descend fuel next (dropWord c.knownFlags word args)
      | none => (c, args)

/-- The command that arguments lead to, and the arguments that are left. -/
def find (args : List Text) : Except UsageError (Command × List Text) :=
  match descend (args.length + 1) .program args with
  | (.program, rest) =>
    match words Command.program.knownFlags rest with
    | word :: _ => .error (.unknownCommand word Command.program.path)
    | [] => .ok (.program, rest)
  | found => .ok found

/-- What is to be done. -/
inductive Invocation where
  | build (s : Settings)
  | watch (s : Settings)
  | tell (about : Command)
  /-- Help was asked for on something that is no command. -/
  | unknownTopic (topic : List Text)
  | completion (s : Shell) (withDescriptions : Bool)
  /-- The last argument is to be completed. -/
  | complete (args : List Text) (last : Text) (withDescriptions : Bool)
deriving DecidableEq, Repr

/-- Reads a command line. -/
def invocation (args : List Text) : Except UsageError Invocation := do
  let (c, rest) ← find args
  if c == .complete then
    match rest.getLast? with
    | none => throw .nothingToComplete
    | some last =>
      let called := (words Command.program.knownFlags args).head?
      return .complete rest.dropLast last (called != some completeBriefly)
  let (s, words) ← readFlags c.allFlags {} rest
  if s.help == some true || !c.isRunnable then return .tell c
  if c.takesNoWords then
    if let word :: _ := words then throw (.unknownCommand word c.path)
  match c with
  | .build => return .build s
  | .watch => return .watch s
  | .shell sh => return .completion sh (s.noDescriptions != some true)
  | .help =>
    match find words with
    | .ok (topic, _) => return .tell topic
    | .error _ => return .unknownTopic words
  | c => return .tell c

end Command

end Marginalia
