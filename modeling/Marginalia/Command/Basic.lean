import Marginalia.Command.Flag

/-!
The commands of the program, their order and what is said about them.
-/

namespace Marginalia

/-- The shells whose completion can be asked about. -/
inductive Shell where
  | bash
  | fish
  | powershell
  | zsh
deriving DecidableEq, Repr

inductive Command where
  /-- The program itself. -/
  | program
  | build
  | completion
  | shell (s : Shell)
  | help
  | watch
  /-- Tells a shell how the last of some arguments can go on. -/
  | complete
deriving DecidableEq, Repr

def Shell.name : Shell → Text
  | .bash => "bash"
  | .fish => "fish"
  | .powershell => "powershell"
  | .zsh => "zsh"

namespace Command

def programName : Text := "staticcomments"

def name : Command → Text
  | .program => programName
  | .build => "build"
  | .completion => "completion"
  | .shell s => s.name
  | .help => "help"
  | .watch => "watch"
  | .complete => "__complete"

/-- The words that lead to a command. -/
def path : Command → Text
  | .program => programName
  | .shell s => programName ++ " completion " ++ s.name
  | c => programName ++ " " ++ c.name

/-- The commands below a command, by name. -/
def below : Command → List Command
  | .program => [.build, .completion, .help, .watch]
  | .completion => [.shell .bash, .shell .fish, .shell .powershell, .shell .zsh]
  | _ => []

/-- The second name of the command that completes: it leaves descriptions out. -/
def completeBriefly : Text := "__completeNoDesc"

/-- The command of a name below another, those that are not listed included. -/
def named? (c : Command) (word : Text) : Option Command :=
  if c == .program && (word == complete.name || word == completeBriefly) then some .complete
  else c.below.find? (·.name == word)

/-- Does the command do something, other than to tell about itself? -/
def isRunnable : Command → Bool
  | .program | .completion => false
  | _ => true

/-- Does the command refuse all arguments but flags? -/
def takesNoWords : Command → Bool
  | .program | .help => false
  | _ => true

/-- The flags of a command that its own commands do not share, without the one for help. -/
def ownFlags : Command → List Flag
  | .shell _ =>
    [{ purpose := .noDescriptions, name := "no-descriptions", usage := "disable completion descriptions" }]
  | _ => []

/-- All flags by which arguments are told from flags and their values. -/
def knownFlags (c : Command) : List Flag := c.ownFlags ++ globalFlags

/-- All flags that the command reads. -/
def allFlags (c : Command) : List Flag := helpFlag c.name :: c.knownFlags

/-- What a command does, in a line. -/
def summary : Command → Text
  | .program => "Build a static blog with threaded Staticman comments"
  | .build => "Render the site and its comments into the output directory"
  | .completion => "Generate the autocompletion script for the specified shell"
  | .shell s => "Generate the autocompletion script for " ++ s.name
  | .help => "Help about any command"
  | .watch => "Build, then rebuild whenever posts or comments change"
  | .complete => "Request shell completion choices for the specified command-line"

/-- How completion is set up. -/
def shellAbout : Shell → List String
  | .bash => [
    "Generate the autocompletion script for the bash shell.",
    "",
    "This script depends on the 'bash-completion' package.",
    "If it is not installed already, you can install it via your OS's package manager.",
    "",
    "To load completions in your current shell session:",
    "",
    "\tsource <(staticcomments completion bash)",
    "",
    "To load completions for every new session, execute once:",
    "",
    "#### Linux:",
    "",
    "\tstaticcomments completion bash > /etc/bash_completion.d/staticcomments",
    "",
    "#### macOS:",
    "",
    "\tstaticcomments completion bash > $(brew --prefix)/etc/bash_completion.d/staticcomments",
    "",
    "You will need to start a new shell for this setup to take effect."]
  | .fish => [
    "Generate the autocompletion script for the fish shell.",
    "",
    "To load completions in your current shell session:",
    "",
    "\tstaticcomments completion fish | source",
    "",
    "To load completions for every new session, execute once:",
    "",
    "\tstaticcomments completion fish > ~/.config/fish/completions/staticcomments.fish",
    "",
    "You will need to start a new shell for this setup to take effect."]
  | .powershell => [
    "Generate the autocompletion script for powershell.",
    "",
    "To load completions in your current shell session:",
    "",
    "\tstaticcomments completion powershell | Out-String | Invoke-Expression",
    "",
    "To load completions for every new session, add the output of the above command",
    "to your powershell profile."]
  | .zsh => [
    "Generate the autocompletion script for the zsh shell.",
    "",
    "If shell completion is not already enabled in your environment you will need",
    "to enable it.  You can execute the following once:",
    "",
    "\techo \"autoload -U compinit; compinit\" >> ~/.zshrc",
    "",
    "To load completions in your current shell session:",
    "",
    "\tsource <(staticcomments completion zsh)",
    "",
    "To load completions for every new session, execute once:",
    "",
    "#### Linux:",
    "",
    "\tstaticcomments completion zsh > \"$\x7bfpath[1]\x7d/_staticcomments\"",
    "",
    "#### macOS:",
    "",
    "\tstaticcomments completion zsh > $(brew --prefix)/share/zsh/site-functions/_staticcomments",
    "",
    "You will need to start a new shell for this setup to take effect."]

/-- What a command does, at length. -/
def about : Command → Text
  | .shell s => Text.join "\n" ((shellAbout s).map Text.ofString)
  | .help =>
    "Help provides help for any command in the application.\n"
      ++ "Simply type staticcomments help [path to command] for full details."
  | .completion =>
    "Generate the autocompletion script for staticcomments for the specified shell.\n"
      ++ "See each sub-command's help for details on how to use the generated script."
  | c => c.summary

/-- The pattern of a command line. -/
def pattern : Command → Text
  | .help => (help.path ++ " [command] [flags]")
  | .shell s => (shell s).path
  | c => c.path ++ " [flags]"

end Command

end Marginalia
