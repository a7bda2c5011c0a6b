import Marginalia.Comment.Source
import Marginalia.File.Pattern

/-!
The directory with the comments of a post. Each file is one comment, and they are read in the order of their
names.
-/

namespace Marginalia

/-- Why the comments of a directory cannot be read. -/
inductive LoadError where
  | file (e : File.Error)
  | notDirectory (path : Text)
  /-- The path of the directory is not well formed when taken for a pattern. -/
  | badPattern
  | comment (path : Text) (f : CommentFault)
deriving DecidableEq, Repr

/-- The wording of an error. -/
def LoadError.message : LoadError → Text
  | .file e => e.message
  | .notDirectory path => path ++ ": not a directory"
  | .badPattern => "syntax error in pattern"
  | .comment path f => path ++ ": " ++ f.message

namespace Comment

variable {m : Type → Type} [Monad m]

/-- Reads the comment in a file, whose message is rendered by `render`. -/
def loadBy (render : Text → m Text) (t : File.Tree) (path : Text) : ExceptT LoadError m Comment :=
  match t.readFile path with
  | .ok source => (parseBy render source).adapt (.comment path)
  | .error e => if e.cause == .isDirectory then throw (.comment path .unreadable) else throw (.file e)

/-- The names of comment files. -/
def filePatterns : List Text := ["*.yml", "*.yaml"]

/-- The comments of a directory, with their messages rendered by `render`; nothing if there is no such directory. -/
def loadDirectoryBy (render : Text → m Text) (t : File.Tree) (dir : Text) :
    ExceptT LoadError m (Option (List Comment)) :=
  match t.stat dir with
  | .error e => if e.cause == .notExist then return none else throw (.file e)
  | .ok .dir =>
    match filePatterns.mapM fun pattern => t.glob? (Path.join [dir, pattern]) with
    | none => throw .badPattern
    | some found => do
      let paths := found.flatten.mergeSort fun a b => Text.order a b != .gt
      return some (← paths.mapM (loadBy render t))
  | .ok _ => throw (.notDirectory dir)

/-- Reads the comment in a file. -/
def load (t : File.Tree) (path : Text) : Except LoadError Comment := Id.run (loadBy (m := Id) renderMessage t path).run

/-- The comments of a directory; nothing if there is no such directory. -/
def loadDirectory (t : File.Tree) (dir : Text) : Except LoadError (Option (List Comment)) :=
  Id.run (loadDirectoryBy (m := Id) renderMessage t dir).run

end Comment

end Marginalia
