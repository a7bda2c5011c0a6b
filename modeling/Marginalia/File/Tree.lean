import Marginalia.File.Path

/-!
A tree of files: regular files, directories and symbolic links below one top, and a working directory in it. A path
is looked up name by name, from the top if it is absolute and from the working directory if not; links are followed on
the way, and what is above the top is the top.
-/

namespace Marginalia

namespace File

/-- What stands at a place of a tree. -/
inductive Node where
  | file (content : Text)
  | link (target : Text)
  | dir
deriving DecidableEq, Repr, Inhabited

/-- A place in a tree: the names that lead to it from the top. -/
abbrev Place := List Text

/-- A tree of files. The top is a directory and is not listed. -/
structure Tree where
  entries : List (Place × Node) := []
  /-- The directory from which relative paths are looked up. It is known by its own names, not by those of links. -/
  workDir : Place := []
  workDir_names : ∀ n ∈ workDir, Path.IsName n := by exact Path.isName_of_mem_nil
deriving Repr

instance : Inhabited Tree := ⟨{}⟩

/-- Why a path does not lead to what was wanted. -/
inductive Cause where
  | notExist
  | notDirectory
  | isDirectory
  | exists
  | nameTooLong
  | tooManyLinks
  | invalid
deriving DecidableEq, Repr

/-- The wording of a cause. -/
def Cause.message : Cause → Text
  | .notExist => "no such file or directory"
  | .notDirectory => "not a directory"
  | .isDirectory => "is a directory"
  | .exists => "file exists"
  | .nameTooLong => "file name too long"
  | .tooManyLinks => "too many levels of symbolic links"
  | .invalid => "invalid argument"

/-- What was tried on which path, and why it failed. -/
structure Error where
  action : Text
  path : Text
  cause : Cause
deriving DecidableEq, Repr

/-- The wording of an error. -/
def Error.message (e : Error) : Text := e.action ++ " " ++ e.path ++ ": " ++ e.cause.message

namespace Tree

/-! ### Places -/

/-- What stands at a place. -/
def get? (t : Tree) (p : Place) : Option Node := if p.isEmpty then some .dir else t.entries.lookup p

/-- The tree with a node at a place. -/
def put (t : Tree) (p : Place) (n : Node) : Tree :=
  { t with
    entries :=
      if (t.entries.lookup p).isSome then t.entries.map fun (q, m) => if q == p then (q, n) else (q, m)
      else t.entries ++ [(p, n)] }

/-- The tree without a place and all below it. -/
def erase (t : Tree) (p : Place) : Tree := { t with entries := t.entries.filter fun (q, _) => !p.isPrefixOf q }

/-- The name by which a place stands in a directory, if it stands there. -/
def nameIn? (dir p : Place) : Option Text :=
  match p.getLast? with
  | some name => if p.dropLast == dir then some name else none
  | none => none

/-- The names in a directory, in the order of their octets. -/
def names (t : Tree) (dir : Place) : List Text :=
  (t.entries.filterMap fun (p, _) => nameIn? dir p).mergeSort fun a b => Text.order a b != .gt

/-! ### Paths -/

/-- The longest name that a place can have. -/
def maxName : Nat := 255

/-- The longest path that can be looked up. -/
def maxPath : Nat := 4095

/-- How many links are followed for one path. -/
def maxLinks : Nat := 40

/-- The names that lead from the top to where the names of a path lead from a place: double dots in front go up from
the place, and from the first other name on the names stay as they are. -/
def climb : (here : Place) → List Text → List Text
  | here, [] => here
  | here, name :: more =>
    if name.isEmpty || name == "." then climb here more
    else if name == ".." then climb here.dropLast more
    else here ++ name :: more

/-- The place from which a path is looked up. -/
def start (t : Tree) (path : Text) : Place := if Path.isAbsolute path then [] else t.workDir

/-- The names along which a path is looked up from the top. -/
def route (t : Tree) (path : Text) : List Text := climb (t.start path) (Text.splitOn '/' path)

/-- The place that a path spells, each double dot taken against the name before it. Without links it is where the path
leads, if it leads anywhere. -/
def place (t : Tree) (path : Text) : Place := ((t.route path).foldl (Path.push true) []).reverse

/-- Goes from a place along the names of a path. A missing place is given as such if it is the last one. Where a
link stands in a directory, `jump` goes on to its target and the names behind it; a link that comes last is followed
only if `follow` says so. -/
def walkBy (t : Tree) (follow : Bool) (jump : Place → (target : Text) → List Text → Except Cause Place) :
    Place → List Text → Except Cause Place
  | here, [] => .ok here
  | here, name :: more =>
    match t.get? here with
    | some .dir =>
      if name.isEmpty || name == "." then walkBy t follow jump here more
      else if name == ".." then walkBy t follow jump here.dropLast more
      else if maxName < name.length then .error .nameTooLong
      else
        let next := here ++ [name]
        match t.get? next with
        | none => if more.isEmpty then .ok next else .error .notExist
        | some (.link target) => if more.isEmpty && !follow then .ok next else jump here target more
        | some _ => walkBy t follow jump next more
    | _ => .error .notDirectory

/-- Goes from a place along the names of a path, through so many links at most. -/
def walk (t : Tree) (follow : Bool) : (links : Nat) → Place → List Text → Except Cause Place
  | 0 => walkBy t follow fun _ _ _ => .error .tooManyLinks
  | links + 1 => walkBy t follow fun here target more =>
    walk t follow links (if Path.isAbsolute target then [] else here) (Text.splitOn '/' target ++ more)

/-- The place that a path leads to; there may be nothing at it. -/
def locate (t : Tree) (follow : Bool) (path : Text) : Except Cause Place :=
  if path.contains 0 then .error .invalid
  else if path.isEmpty then .error .notExist
  else if maxPath < path.length then .error .nameTooLong
  else t.walk follow maxLinks [] (t.route path)

/-- What a path leads to. -/
def find (t : Tree) (follow : Bool) (path : Text) : Except Cause (Place × Node) :=
  match t.locate follow path with
  | .error c => .error c
  | .ok p =>
    match t.get? p with
    | some n => .ok (p, n)
    | none => .error .notExist

/-! ### Reading -/

/-- What stands at a path, after all links. -/
def stat (t : Tree) (path : Text) : Except Error Node :=
  match t.find true path with
  | .ok (_, n) => .ok n
  | .error c => .error ⟨"stat", path, c⟩

/-- What stands at a path, be it a link. -/
def lstat (t : Tree) (path : Text) : Except Error Node :=
  match t.find false path with
  | .ok (_, n) => .ok n
  | .error c => .error ⟨"lstat", path, c⟩

/-- The content of a file; a directory can be opened but not read. -/
def readFile (t : Tree) (path : Text) : Except Error Text :=
  match t.find true path with
  | .error c => .error ⟨"open", path, c⟩
  | .ok (_, .file content) => .ok content
  | .ok _ => .error ⟨"read", path, .isDirectory⟩

/-- The names in a directory; none if the path leads to no directory. -/
def namesAt (t : Tree) (path : Text) : List Text :=
  match t.find true path with
  | .ok (p, .dir) => t.names p
  | _ => []

/-- Is there a directory at the path? -/
def isDir (t : Tree) (path : Text) : Bool :=
  match t.find true path with
  | .ok (_, .dir) => true
  | _ => false

/-! ### Writing -/

/-- Makes a directory in one that exists. -/
def mkdir (t : Tree) (path : Text) : Except Error Tree :=
  match t.locate false path with
  | .error c => .error ⟨"mkdir", path, c⟩
  | .ok p =>
    match t.get? p with
    | some _ => .error ⟨"mkdir", path, .exists⟩
    | none => .ok (t.put p .dir)

/-- The directories that lead to a path and the path itself, longest first. The top, the working directory and those above
it are left out, since they exist. -/
def ancestors (path : Text) : List Text :=
  let parts := Text.splitOn '/' path
  let above := (parts.takeWhile fun name : Text => name.isEmpty || name == "." || name == "..").length
  (List.range (parts.length - above)).map fun k => Text.join "/" (parts.take (parts.length - k))

/-- Makes the directories of a list, each before those in front of it. Those from the first that exists on are
left alone. -/
def mkdirs (t : Tree) : List Text → Except Error Tree
  | [] => .ok t
  | path :: more =>
    match t.stat path with
    | .ok .dir => .ok t
    | .ok _ => .error ⟨"mkdir", path, .notDirectory⟩
    | .error _ =>
      match mkdirs t more with
      | .ok t => t.mkdir path
      | .error e => .error e

/-- What is left of making the directories of a list: if one of them cannot be made, those before it stay. -/
def leftByMkdirs (t : Tree) : List Text → Tree
  | [] => t
  | path :: more =>
    match t.stat path, t.mkdirs more with
    | .ok _, _ => t
    | .error _, .ok u => (u.mkdir path).toOption.getD u
    | .error _, .error _ => leftByMkdirs t more

/-- Makes a directory and those that lead to it. -/
def mkdirAll (t : Tree) (path : Text) : Except Error Tree := t.mkdirs (ancestors path)

/-- Writes a file in a directory that exists. A link is followed, and a file that is there is replaced. -/
def writeFile (t : Tree) (path content : Text) : Except Error Tree :=
  match t.locate true path with
  | .error c => .error ⟨"open", path, c⟩
  | .ok p =>
    match t.get? p with
    | some .dir => .error ⟨"open", path, .isDirectory⟩
    | _ => .ok (t.put p (.file content))

/-- Writes a file and makes the directories that lead to it. -/
def save (t : Tree) (path content : Text) : Except Error Tree :=
  match t.mkdirAll (Path.parent path) with
  | .ok t => t.writeFile path content
  | .error e => .error e

/-- What is left of saving a file that cannot be written: the directories that were made for it. -/
def leftBySave (t : Tree) (path : Text) : Tree := t.leftByMkdirs (ancestors (Path.parent path))

/-- Removes what stands at a path, with all below it; links are not followed. -/
def removeAll (t : Tree) (path : Text) : Tree :=
  match t.locate false path with
  | .ok p => t.erase p
  | .error _ => t

/-- The tree with what stands at a place, and all below it, moved to another place, where it replaces what is
there. -/
def move (t : Tree) (source target : Place) : Tree :=
  { t with
    entries := (t.erase target).entries.map fun (p, n) =>
      if source.isPrefixOf p then (target ++ p.drop source.length, n) else (p, n) }

/-! ### Walking -/

/-- How deep the tree is. -/
def depth (t : Tree) : Nat := t.entries.foldl (fun n (p, _) => max n p.length) 0

/-- The file at a path, with its content, as a list. -/
def fileAt? (t : Tree) (path : Text) : Option (List (Text × Text)) :=
  (t.readFile path).toOption.map fun content => [(path, content)]

/-- The files below a place, each with its path and content, directory by directory; the number bounds the depth. Links
are not walked into but read, and nothing is given if something cannot be read. -/
def filesBelow? (t : Tree) : (depth : Nat) → Place → (path : Text) → Option (List (Text × Text))
  | 0, _, _ => some []
  | depth + 1, dir, path =>
    let found := (t.names dir).mapM fun name =>
      let path := Path.join [path, name]
      match t.get? (dir ++ [name]) with
      | some .dir => filesBelow? t depth (dir ++ [name]) path
      | _ => t.fileAt? path
    found.map List.flatten

/-- The files at a path and below it, if there is anything and all of it can be read. -/
def files? (t : Tree) (path : Text) : Option (List (Text × Text)) :=
  match t.find false path with
  | .ok (place, .dir) => t.filesBelow? (t.depth + 1) place path
  | .ok _ => t.fileAt? path
  | .error _ => none

end Tree

end File

end Marginalia
