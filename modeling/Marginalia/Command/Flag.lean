import Marginalia.Config
import Marginalia.Text.Quoted

/-!
Flags of the command line: their names, the values they take, and how they are read among other arguments.
-/

namespace Marginalia

namespace Command

/-- What a flag sets. -/
inductive Purpose where
  | site
  | output
  | failOnError
  | verbose
  | noDescriptions
  | help
deriving DecidableEq, Repr

/-- A flag. A switch can stand without a value and is then on; any other flag needs one. -/
structure Flag where
  purpose : Purpose
  name : Text
  letter : Option UInt8 := none
  isSwitch : Bool := true
  /-- Is a switch on if nothing is said? -/
  isOn : Bool := false
  usage : Text
deriving DecidableEq, Repr

/-- The flags of all commands, by name. -/
def globalFlags : List Flag := [
  { purpose := .failOnError, name := "fail-on-error", isOn := true
    usage := "abort the build on invalid comments (overrides COMMENTS_FAIL_ON_ERROR)" },
  { purpose := .output, name := "output", isSwitch := false, usage := "output directory (overrides OUTPUT_DIR)" },
  { purpose := .site, name := "site", isSwitch := false, usage := "site root (overrides SITE_DIR)" },
  { purpose := .verbose, name := "verbose", letter := some 'v', usage := "debug logging" }]

/-- The flag that asks for help on a command. -/
def helpFlag (name : Text) : Flag :=
  { purpose := .help, name := "help", letter := some 'h', usage := "help for " ++ name }

/-- What the flags of a command line say; what they leave open is nothing. -/
structure Settings where
  site : Option Text := none
  output : Option Text := none
  failOnError : Option Bool := none
  verbose : Option Bool := none
  noDescriptions : Option Bool := none
  help : Option Bool := none
deriving DecidableEq, Repr

/-- Why a command line cannot be read. -/
inductive UsageError where
  | unknownCommand (word path : Text)
  | unknownFlag (name : Text)
  /-- A letter that is no flag, and the letters from it on. -/
  | unknownLetter (letter : UInt8) (letters : Text)
  | missingValue (name : Text)
  | notBoolean (value : Text) (flag : Flag)
  | badSyntax (argument : Text)
  /-- Nothing was given to be completed. -/
  | nothingToComplete
deriving DecidableEq, Repr

/-- A flag as errors name it. -/
def Flag.title (f : Flag) : Text :=
  match f.letter with
  | some c => "-" ++ c :: ", --" ++ f.name
  | none => "--" ++ f.name

/-- A letter in single quotes. -/
def quotedLetter (c : UInt8) : Text :=
  let inner : Text :=
    if c == Text.apostrophe then ['\\', c]
    else if c == '"' then [c]
    else Text.quotedSymbol (.char (Text.charOfCode c.toNat))
  Text.apostrophe :: inner ++ [Text.apostrophe]

/-- The wording of an error. -/
def UsageError.message : UsageError → Text
  | .unknownCommand word path => "unknown command " ++ Text.quoted word ++ " for " ++ Text.quoted path
  | .unknownFlag name => "unknown flag: --" ++ name
  | .unknownLetter c letters => "unknown shorthand flag: " ++ quotedLetter c ++ " in -" ++ letters
  | .missingValue name => "flag needs an argument: --" ++ name
  | .notBoolean value flag =>
    "invalid argument " ++ Text.quoted value ++ " for " ++ Text.quoted flag.title
      ++ " flag: strconv.ParseBool: parsing " ++ Text.quoted value ++ ": invalid syntax"
  | .badSyntax argument => "bad flag syntax: " ++ argument
  | .nothingToComplete => "requires at least 1 arg(s), only received 0"

namespace Settings

/-- Gives a flag a value. -/
def set (s : Settings) (f : Flag) (value : Text) : Except UsageError Settings :=
  let switch (change : Bool → Settings) : Except UsageError Settings :=
    match Config.bool? value with
    | some b => .ok (change b)
    | none => .error (.notBoolean value f)
  match f.purpose with
  | .site => .ok { s with site := some value }
  | .output => .ok { s with output := some value }
  | .failOnError => switch fun b => { s with failOnError := some b }
  | .verbose => switch fun b => { s with verbose := some b }
  | .noDescriptions => switch fun b => { s with noDescriptions := some b }
  | .help => switch fun b => { s with help := some b }

end Settings

/-- Has the flag been given? -/
def Settings.has (s : Settings) (f : Flag) : Bool :=
  match f.purpose with
  | .site => s.site.isSome
  | .output => s.output.isSome
  | .failOnError => s.failOnError.isSome
  | .verbose => s.verbose.isSome
  | .noDescriptions => s.noDescriptions.isSome
  | .help => s.help.isSome

/-- The value of a switch that stands alone. -/
def on : Text := "true"

/-- How the arguments of test runs begin, which are left alone. -/
def testMark : Text := "test."

/-- Reads the letters of one argument. All flags that have a letter are switches. -/
def readLetters (flags : List Flag) (s : Settings) : Text → Except UsageError Settings
  | [] => .ok s
  | c :: more =>
    if Text.startsWith (c :: more) testMark then .ok s else
    match flags.find? (·.letter == some c) with
    | none => .error (.unknownLetter c (c :: more))
    | some f =>
      match more with
      | e :: v :: value => if e == '=' then s.set f (v :: value) else
        match s.set f on with
        | .ok s => readLetters flags s (e :: v :: value)
        | .error e => .error e
      | more =>
        match s.set f on with
        | .ok s => readLetters flags s more
        | .error e => .error e

/-- Reads arguments up to their end or to a double dash: flags are set, all else is collected. -/
def readFlags (flags : List Flag) (s : Settings) : List Text → Except UsageError (Settings × List Text)
  | [] => .ok (s, [])
  | a :: more =>
    let collect : Except UsageError (Settings × List Text) :=
      (readFlags flags s more).map fun (s, rest) => (s, a :: rest)
    match Text.after? a "--", a with
    | some [], _ => .ok (s, more)
    | some (c :: name), _ =>
      if c == '-' || c == '=' then .error (.badSyntax a)
      else
        let (name, value) := Text.span (fun c : UInt8 => c != '=') (c :: name)
        match flags.find? (·.name == name) with
        | none => .error (.unknownFlag name)
        | some f =>
          match value with
          | _ :: value => do readFlags flags (← s.set f value) more
          | [] =>
            if f.isSwitch then do readFlags flags (← s.set f on) more
            else match more with
              | value :: more => do readFlags flags (← s.set f value) more
              | [] => .error (.missingValue name)
    | none, c :: d :: letters =>
      if c == '-' then do readFlags flags (← readLetters flags s (d :: letters)) more
      else collect
    | none, _ => collect

end Command

end Marginalia
