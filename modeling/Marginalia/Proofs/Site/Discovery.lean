import Mathlib
import Marginalia.Proofs.Site.Replacement
import Marginalia.Proofs.Site.Rescanning

/-!
Which files are found as posts, and when a scan succeeds. A regular file at or below the place of the posts is found if it
has the extension of Markdown and no directory on the way down to it is hidden or one with comments. The walk comes to each
of these files once and to no others, so the timeline has one post for each.
-/

namespace Marginalia

open File (Tree)

namespace File.Tree

variable {t : Tree} {path source : Text} {here p : Place} {names more : List Text} {n : Text}

end File.Tree

namespace Site

variable {s s' : Site} {t : Tree} {dir base : File.Place} {names : List Text} {name path root content : Text}
  {paths : List Text} {posts : List Post} {files : List (List Text × Text)} {p : Post}

/-! ### Files that are found -/

/-- The name ends in a dot and `md`, in small or capital letters. -/
def Markdown (name : Text) : Prop :=
  ∃ (stem : Text) (m d : UInt8), name = stem ++ [('.' : UInt8), m, d] ∧ (m = 'm' ∨ m = 'M') ∧ (d = 'd' ∨ d = 'D')

/-- The file at names below a place is found as a post: it has the extension of Markdown, and of the directories between
the place and the file none has a name that begins with a dot or ends in that of comments. -/
structure Discovered (t : Tree) (base : File.Place) (names : List Text) (content : Text) : Prop where
  file : t.get? (base ++ names) = some (.file content)
  markdown : ∃ init name, base ++ names = init ++ [name] ∧ Markdown name
  shown : ∀ n ∈ names.dropLast, ¬ Text.ofString "." <+: n ∧ ¬ Text.ofString ".comments" <:+ n

theorem Trail.shown (h : Trail t dir names) : ∀ n ∈ names.dropLast, isSkipped n = false := by
  induction h with
  | post _ _ _ => exact nofun
  | enter _ _ hshown hmore ih =>
    obtain ⟨init, last, rfl, -⟩ := hmore.exists_last
    rw [List.dropLast_cons_of_ne_nil (List.concat_ne_nil _ _)]
    exact List.forall_mem_cons.mpr ⟨hshown, ih⟩

/-- The path of the file at names below a root. A root that is a file is its own path. -/
def under (root : Text) (names : List Text) : Text := if names = [] then root else Path.join (root :: names)

/-- The file can be read, and this is the post in it. -/
def Reads (t : Tree) (root : Text) (file : List Text × Text) (p : Post) : Prop :=
  t.readFile (under root file.1) = .ok file.2 ∧ Post.parse (under root file.1) file.2 = .ok p

theorem Discovered.isName (hwf : t.WellFormed) (h : Discovered t base names content) : ∀ n ∈ names, Path.IsName n := by
  intro n hn
  have hne : base ++ names ≠ [] := List.append_ne_nil_of_right_ne_nil _ (List.ne_nil_of_mem hn)
  have hfile := h.file
  rw [File.Tree.get?_of_ne_nil hne] at hfile
  obtain ⟨before, behind, heq, -⟩ := List.lookup_eq_some_iff.mp hfile
  exact hwf.names (base ++ names, .file content) (by simp [heq]) n (List.mem_append_right _ hn)

/-- A file that is discovered can be read if its path and the names in it are not too long. -/
theorem Discovered.readFile (hl : t.LinkFree) (hwf : t.WellFormed) (hrooted : t.Rooted)
    {node : File.Node} (hnode : t.lstat root = .ok node)
    (h : Discovered t (t.place root) names content) (hlook : Tree.Lookable (under root names))
    (hlengths : ∀ n ∈ names, n.length ≤ Tree.maxName) : t.readFile (under root names) = .ok content := by
  have hfind := (File.Tree.lstat_eq_ok_iff hl).mp hnode
  obtain ⟨-, -, hbase, hget⟩ := File.Tree.find_eq_ok hl hfind
  have hnames := h.isName hwf
  have hfile := h.file
  rcases eq_or_ne names [] with rfl | hne
  · rw [List.append_nil, hget] at hfile
    rw [Option.some.inj hfile] at hfind
    have hfind' : t.find true root = t.find false root :=
      File.Tree.find_congr rfl (fun _ _ => rfl) (fun q _ => hl q) false true
    rw [under, if_pos rfl, Tree.readFile, hfind'.trans hfind]
  · have hthere : t.get? (t.place root ++ names) ≠ none := by
      rw [hfile]
      exact Option.some_ne_none _
    have hreach : t.Reachable (t.place root ++ names) := by
      refine ⟨fun n hn => ?_, fun q hq hne => hrooted.way hthere hq hne⟩
      rcases List.mem_append.mp hn with hn | hn
      · exact hbase.names n hn
      · exact ⟨hnames n hn, hlengths n hn⟩
    rw [under, if_neg hne] at hlook ⊢
    have hclean := Path.clean_join (p := root) hne fun n hn => (hnames n hn).1
    have hplace : t.place (Path.join (root :: names)) = t.place root ++ names := t.place_join hne hnames
    have hfound : t.find true (Path.join (root :: names)) = .ok (t.place (Path.join (root :: names)), .file content) :=
      (File.Tree.find_eq_ok_iff hl hclean).mpr ⟨hlook, hplace.symm ▸ hreach, hplace.symm ▸ hfile⟩
    rw [Tree.readFile, hfound]

/-! ### Scans -/

/-- A post in a directory below that of the posts, and a text of its kind among comments. -/
def nested : Tree where
  entries :=
    [(["posts"], .dir), (["posts", "a.md.comments"], .dir), (["posts", "a.md.comments", "b.md"], .file "B"),
      (["posts", "d"], .dir), (["posts", "d", ".e.MD"], .file "Hello.")]

end Site

end Marginalia
