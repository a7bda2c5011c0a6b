import Marginalia.Command.Basic

/-!
Help on a command: what it does, how it is called, the commands below it and its flags.
-/

namespace Marginalia

namespace Command

/-- A flag with its letter and the kind of its value, in front of its usage. -/
def flagHead (f : Flag) : Text :=
  let letter : Text := match f.letter with
    | some c => "  -" ++ [c] ++ ", --"
    | none => "      --"
  letter ++ f.name ++ Text.onlyIf (!f.isSwitch) " string"

/-- A text with blanks behind it up to a width. -/
def padRight (width : Nat) (t : Text) : Text := t ++ List.replicate (width - t.length) ' '.toUInt8

/-- Flags, one on a line, their usages aligned three blanks behind the longest head. -/
def flagTable (flags : List Flag) : Text :=
  let width := (flags.map fun f => (flagHead f).length).foldl max 0
  Text.join "\n" (flags.map fun f => padRight (width + 3) (flagHead f) ++ f.usage ++ Text.onlyIf f.isOn " (default true)")

/-- The width of the column of command names. -/
def nameWidth : Nat := 11

/-- A command in the list of those below another. -/
def commandLine (c : Command) : Text := "\n  " ++ padRight nameWidth c.name ++ " " ++ c.summary

/-- The flags listed as those of the command, by name. -/
def listedFlags (c : Command) : List Flag :=
  let flags := match c with
    | .program => c.allFlags
    | c => helpFlag c.name :: c.ownFlags
  flags.mergeSort fun a b => a.name ≤ b.name

/-- How a command is called. -/
def usage (c : Command) : Text :=
  let nested := !c.below.isEmpty
  "Usage:"
    ++ Text.onlyIf c.isRunnable ("\n  " ++ c.pattern)
    ++ Text.onlyIf nested ("\n  " ++ c.path ++ " [command]\n\nAvailable Commands:" ++ c.below.flatMap commandLine)
    ++ "\n\nFlags:\n" ++ flagTable c.listedFlags
    ++ Text.onlyIf (c != .program) ("\n\nGlobal Flags:\n" ++ flagTable globalFlags)
    ++ Text.onlyIf nested
      ("\n\nUse \"" ++ c.path ++ " [command] --help\" for more information about a command.")
    ++ "\n"

/-- Help on a command. -/
def helpText (c : Command) : Text := c.about ++ "\n\n" ++ c.usage

end Command

end Marginalia
