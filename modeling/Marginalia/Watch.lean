import Marginalia.File.Path

/-!
Watching the source of a site: which changes call for a new build.
-/

namespace Marginalia

namespace Watch

/-- The kinds of change that one event reports together. -/
structure Change where
  created : Bool := false
  written : Bool := false
  removed : Bool := false
  renamed : Bool := false
  modeChanged : Bool := false
  /-- Any further kind. -/
  other : Bool := false
deriving DecidableEq, Repr, Inhabited

/-- An event of the file system. -/
structure Event where
  path : Text
  change : Change
deriving DecidableEq, Repr

/-- Is nothing but the mode of the file changed? -/
def Change.isModeOnly (c : Change) : Bool :=
  c.modeChanged && !c.created && !c.written && !c.removed && !c.renamed && !c.other

/-- Is this the name of a hidden file or of an editor's backup? -/
def isIgnoredName (name : Text) : Bool := Text.startsWith name "." || Text.endsWith name "~"

/-- Does the event call for a new build? -/
def relevant (e : Event) : Bool := !e.change.isModeOnly && !isIgnoredName (Path.base e.path)

end Watch

end Marginalia
