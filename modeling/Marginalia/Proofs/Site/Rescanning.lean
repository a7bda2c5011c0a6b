import Mathlib
import Marginalia.Proofs.File.Growth
import Marginalia.Proofs.Site.Degradation

/-!
Finding posts again in a tree that has grown. If what is new are directories and files that are no posts, and nothing is
new among comments, then the same posts are found, and they have the same comments. The new places may stand among the
posts, and their names may fit the paths of posts taken for patterns.
-/

namespace Marginalia

open File (Tree Ends Grown)

namespace Comment

variable {t t' : Tree} {dir : Text}

/-- The endings by which comments are found: that of their directory, and those of their files. -/
def endings : List Text := [Post.commentsSuffix, ".yml", ".yaml"]

/-- Each pattern for files ends in one of the endings, with no signs of patterns there. -/
theorem filePatterns_end : ∀ pattern ∈ filePatterns, Path.IsName pattern ∧ ∃ ending ∈ endings,
    Text.endsWith pattern ending = true ∧ File.Pattern.PlainEnding ending := by
  have hyml : File.Pattern.PlainEnding ".yml" := ⟨by decide, by decide⟩
  have hyaml : File.Pattern.PlainEnding ".yaml" := ⟨by decide, by decide⟩
  simp only [filePatterns, List.forall_mem_cons, List.not_mem_nil, false_implies, implies_true, and_true]
  exact ⟨⟨by decide, ".yml", by decide, by decide, hyml⟩, ⟨by decide, ".yaml", by decide, by decide, hyaml⟩⟩

/-- A file that is found for one of the patterns. -/
theorem exists_pattern_of_mem {found : List (List Text)} {path : Text}
    (hfound : filePatterns.mapM (fun pattern => t.glob? (Path.join [dir, pattern])) = some found)
    (hpath : path ∈ found.flatten) :
    ∃ pattern ∈ filePatterns, ∃ paths, t.glob? (Path.join [dir, pattern]) = some paths ∧ path ∈ paths := by
  simp only [filePatterns, List.mapM_cons, List.mapM_nil, Option.bind_eq_bind, Option.bind_eq_some_iff, Option.pure_def,
    Option.some.injEq] at hfound
  obtain ⟨first, hfirst, _, ⟨second, hsecond, _, rfl, rfl⟩, rfl⟩ := hfound
  obtain ⟨paths, hpaths, hmem⟩ := List.mem_flatten.mp hpath
  rcases List.mem_cons.mp hpaths with rfl | hpaths
  · exact ⟨_, List.mem_cons_self, paths, hfirst, hmem⟩
  · obtain rfl := List.mem_singleton.mp hpaths
    exact ⟨_, List.mem_cons_of_mem _ (List.mem_singleton_self _), paths, hsecond, hmem⟩

/-- The comments in a directory are those that were there before, if the way to it has not changed. -/
theorem loadDirectory_grown (h : Grown endings t t') (hway : ∀ q ∈ t.comesBy dir, t'.get? q = t.get? q) :
    loadDirectory t' dir = loadDirectory t dir := by
  have hjoin : ∀ {pattern : Text}, Path.IsName pattern → Path.clean (Path.join [dir, pattern]) = Path.join [dir, pattern] ∧
      Path.components (Path.join [dir, pattern]) = Path.components dir ++ [pattern] := fun hname =>
    ⟨Path.clean_join (List.cons_ne_nil _ _) (List.forall_mem_singleton.mpr hname.1),
      Path.components_join (List.cons_ne_nil _ _) (List.forall_mem_singleton.mpr hname)⟩
  have hglob : ∀ pattern ∈ filePatterns, t'.glob? (Path.join [dir, pattern]) = t.glob? (Path.join [dir, pattern]) := by
    intro pattern hpattern
    obtain ⟨hname, ending, hending, hends, hplain⟩ := filePatterns_end pattern hpattern
    exact h.glob?_eq hplain hending (hjoin hname).1 (hjoin hname).2 hname hends
  have hstat : t'.stat dir = t.stat dir := by
    rw [File.Tree.stat, File.Tree.stat, File.Tree.find_congr h.workDir hway (fun q _ => h.linkFree q) true true]
  have hall : filePatterns.mapM (fun pattern => t'.glob? (Path.join [dir, pattern])) =
      filePatterns.mapM fun pattern => t.glob? (Path.join [dir, pattern]) := by
    simp only [filePatterns, List.mapM_cons, List.mapM_nil, hglob _ (List.mem_cons_self ..),
      hglob _ (List.mem_cons_of_mem _ (List.mem_singleton_self _))]
  rw [loadDirectory_def, loadDirectory_def, hstat, hall]
  split
  · rfl
  · split
    · rfl
    rename_i found hfound
    refine congrArg _ (mapM_congr fun path hpath => ?_)
    -- Every file that is read was there before, and has one of the endings.
    obtain ⟨pattern, hpattern, paths, hpaths, hpath⟩ := exists_pattern_of_mem hfound (List.mem_mergeSort.mp hpath)
    obtain ⟨hname, ending, hending, hends, hplain⟩ := filePatterns_end pattern hpattern
    obtain ⟨hclean, hthere, front, last, hplace, hlast⟩ :=
      Grown.match_paths? hplain h.linkFree h.wellFormed (hjoin hname).1 (hjoin hname).2 hname hpaths path hpath
    exact load_congr h.linkFree h.workDir (h.same_on_way hclean hthere hplace ⟨ending, hending, hlast hends⟩)
  · rfl

end Comment

namespace Site

variable {t t' : Tree} {root path : Text} {paths : List Text} {found : List Post}

/-- The tree has grown by directories and files that are neither posts nor comments. -/
structure Enlarged (t t' : Tree) : Prop where
  grown : Grown Comment.endings t t'
  changed : ∀ q, t'.get? q ≠ t.get? q → t.get? q = none ∧ t'.get? q = some .dir ∨
    ∃ init n content, q = init ++ [n] ∧ isPostPath n = false ∧ t'.get? q = some (.file content)

theorem postPaths_of_absent (hrooted : t.Rooted) {dir : File.Place} (h : t.get? dir ≠ some .dir) (depth : Nat) (path : Text) :
    postPaths t depth dir path = [] := by
  cases depth with
  | zero => rfl
  | succ depth => rw [postPaths_succ, hrooted.names_eq_nil h, List.flatMap_nil]

theorem exists_paths_of_timelineOf (h : timelineOf t root = .ok found) : ∃ paths, findPosts t root = .ok paths := by
  cases hpaths : findPosts t root with
  | error e =>
    rw [timelineOf, readPosts, hpaths] at h
    cases h
  | ok paths => exact ⟨paths, rfl⟩

/-- All posts that make up a timeline have been read. -/
theorem exists_reads_of_timelineOf (hl : t.LinkFree) (h : timelineOf t root = .ok found) :
    ∃ paths, findPosts t root = .ok paths ∧
      ∀ path ∈ paths, ∃ content, t.find true path = .ok (t.place path, .file content) := by
  obtain ⟨paths, hpaths⟩ := exists_paths_of_timelineOf h
  obtain ⟨posts, hread, -⟩ := timelineOf_eq_ok h
  rw [readPosts, hpaths] at hread
  refine ⟨paths, hpaths, fun path hpath => ?_⟩
  obtain ⟨p, -, hp⟩ := exists_of_mem_right (List.Forall₂.flip (mapM_eq_ok_iff.mp hread)) hpath
  unfold readPost at hp
  split at hp
  · cases hp
  rename_i source hsource
  unfold File.Tree.readFile at hsource
  split at hsource
  · cases hsource
  · rename_i place content hfind
    obtain ⟨-, rfl, -⟩ := File.Tree.find_eq_ok hl hfind
    exact ⟨content, hfind⟩
  · cases hsource

namespace Enlarged

/-- What has changed below a directory is a new directory, or a file that is not a post. -/
theorem changed_below (h : Enlarged t t') {place : File.Place} {name : Text}
    (hchanged : t'.get? (place ++ [name]) ≠ t.get? (place ++ [name])) :
    t.get? (place ++ [name]) = none ∧ t'.get? (place ++ [name]) = some .dir ∨
      isPostPath name = false ∧ ∃ content, t'.get? (place ++ [name]) = some (.file content) := by
  obtain hdir | ⟨init, n, content, heq, hpost, hfile⟩ := h.changed _ hchanged
  · exact Or.inl hdir
  · obtain ⟨-, hlast⟩ := List.append_inj' heq rfl
    obtain rfl := List.singleton_inj.mp hlast
    exact Or.inr ⟨hpost, content, hfile⟩

/-- Nothing that was there before has become a directory. -/
theorem dir_of_dir (h : Enlarged t t') {q : File.Place} (hthere : t.get? q ≠ none) (hdir : t'.get? q = some .dir) :
    t.get? q = some .dir := by
  by_cases hsame : t'.get? q = t.get? q
  · rw [← hsame, hdir]
  · obtain ⟨hnone, -⟩ | ⟨_, _, _, -, -, hfile⟩ := h.changed q hsame
    · exact absurd hnone hthere
    · rw [hdir] at hfile
      cases hfile

/-- A name that was there before leads to the same posts, if the directories below it do. -/
theorem postsUnder_old (h : Enlarged t t') {place : File.Place} {depth : Nat} {name : Text}
    (hdepth : ∀ place path, postPaths t' depth place path = postPaths t depth place path)
    (hname : Path.IsName name) (hthere : (t.get? (place ++ [name])).isSome = true) :
    postsUnder t' depth place path name = postsUnder t depth place path name := by
  by_cases hsame : t'.get? (place ++ [name]) = t.get? (place ++ [name])
  · rw [postsUnder, postsUnder, hsame, hdepth]
  obtain ⟨hnone, -⟩ | ⟨hpost, content, hfile⟩ := h.changed_below hsame
  · rw [hnone] at hthere
    cases hthere
  obtain ⟨node, hnode⟩ := Option.isSome_iff_exists.mp hthere
  rw [postsUnder, postsUnder, hfile, hnode, isPostPath_join hname, hpost]
  cases node with
  | dir =>
    rw [h.grown.dirs _ hnode] at hfile
    cases hfile
  | file content' => rfl
  | link target => rfl

/-- A name that is new leads to no post, if the directories below it lead where they led. -/
theorem postsUnder_new (h : Enlarged t t') {place : File.Place} {depth : Nat} {name : Text}
    (hdepth : ∀ place path, postPaths t' depth place path = postPaths t depth place path)
    (hname : name ∈ t'.names place) (habsent : t.get? (place ++ [name]) = none) :
    postsUnder t' depth place path name = [] := by
  have hproper := h.grown.wellFormed'.isName_of_mem_names hname
  have hchanged : t'.get? (place ++ [name]) ≠ t.get? (place ++ [name]) := by
    rw [habsent]
    exact Option.isSome_iff_ne_none.mp (File.Tree.mem_names.mp hname)
  obtain ⟨-, hdir⟩ | ⟨hpost, content, hfile⟩ := h.changed_below hchanged
  · have hnodir : t.get? (place ++ [name]) ≠ some .dir := by
      rw [habsent]
      exact nofun
    rw [postsUnder, hdir, hdepth, postPaths_of_absent h.grown.rooted hnodir]
    simp only [ite_self]
  · rw [postsUnder, hfile, isPostPath_join hproper, hpost]
    rfl

theorem postPaths_eq (h : Enlarged t t') (depth : Nat) (place : File.Place) (path : Text) :
    postPaths t' depth place path = postPaths t depth place path := by
  induction depth generalizing place path with
  | zero => rfl
  | succ depth ih =>
    have hnew : ∀ name ∈ t'.names place, (t.get? (place ++ [name])).isSome = false →
        postsUnder t' depth place path name = [] :=
      fun name hname habsent => h.postsUnder_new ih hname (by simpa using habsent)
    rw [postPaths_succ, postPaths_succ, h.grown.names_eq place, ← flatMap_filter hnew]
    refine List.flatMap_congr fun name hname => ?_
    obtain ⟨hname, hthere⟩ := List.mem_filter.mp hname
    exact h.postsUnder_old ih (h.grown.wellFormed'.isName_of_mem_names hname) hthere

theorem findPosts_eq (h : Enlarged t t') (hfound : findPosts t root = .ok paths) : findPosts t' root = .ok paths := by
  obtain ⟨hfind, rfl, -⟩ | ⟨dir, n, content, -, hfind, rfl, -⟩ :=
    findPosts_eq_ok h.grown.linkFree h.grown.wellFormed hfound
  · obtain ⟨node', hfind', hget'⟩ := h.grown.find_still hfind
    obtain ⟨-, -, -, hget⟩ := File.Tree.find_eq_ok h.grown.linkFree hfind
    obtain rfl := Option.some.inj (hget'.symm.trans (h.grown.dirs _ hget))
    have hdepth : postPaths t (t.depth + 1) (t.place root) root =
        postPaths t (max t.depth t'.depth + 1) (t.place root) root := postPaths_enough (by omega) (by omega) root
    have hdepth' : postPaths t' (t'.depth + 1) (t.place root) root =
        postPaths t' (max t.depth t'.depth + 1) (t.place root) root := postPaths_enough (by omega) (by omega) root
    rw [findPosts, hfind']
    refine congrArg Except.ok ?_
    rw [hdepth, hdepth', h.postPaths_eq]
  · obtain ⟨node', hfind', hget'⟩ := h.grown.find_still hfind
    obtain ⟨-, -, -, hget⟩ := File.Tree.find_eq_ok h.grown.linkFree hfind
    rw [findPosts, hfind']
    cases node' with
    | dir =>
      have hdir := h.dir_of_dir (by rw [hget]; exact Option.some_ne_none _) hget'
      rw [hget] at hdir
      cases hdir
    | file content => rfl
    | link target => rfl

/-- A post that is found is at a place that has not changed. -/
theorem post_kept (h : Enlarged t t') {dir : File.Place} {names : List Text} (hpost : PostAt t dir path names) :
    t'.get? (t.place path) = t.get? (t.place path) := by
  obtain ⟨content, hfile⟩ := hpost.trail.file
  rw [hpost.place]
  by_contra hchanged
  obtain ⟨hnone, -⟩ | ⟨init, n, content', heq, hnot, -⟩ := h.changed _ hchanged
  · rw [hfile] at hnone
    cases hnone
  · obtain ⟨front, last, rfl, -, hlast⟩ := hpost.trail.exists_last
    rw [← List.append_assoc] at heq
    obtain ⟨-, hname⟩ := List.append_inj' heq rfl
    rw [List.singleton_inj.mp hname, hnot] at hlast
    cases hlast

theorem readPost_eq (h : Enlarged t t') {dir : File.Place} {names : List Text} (hpost : PostAt t dir path names)
    {content : Text} (hread : t.find true path = .ok (t.place path, .file content)) : readPost t' path = readPost t path := by
  obtain ⟨node', hfind', hget'⟩ := h.grown.find_still hread
  obtain ⟨-, -, -, hget⟩ := File.Tree.find_eq_ok h.grown.linkFree hread
  obtain rfl := Option.some.inj (hget'.symm.trans ((h.post_kept hpost).trans hget))
  rw [readPost, readPost, File.Tree.readFile, File.Tree.readFile, hfind', hread]

theorem timelineOf_eq (h : Enlarged t t') (hfound : timelineOf t root = .ok found) : timelineOf t' root = .ok found := by
  obtain ⟨paths, hpaths, hreads⟩ := exists_reads_of_timelineOf h.grown.linkFree hfound
  obtain ⟨dir, hposts⟩ := exists_postsAt h.grown.linkFree h.grown.wellFormed hpaths
  have hread : readPosts t' root = readPosts t root := by
    rw [readPosts, readPosts, h.findPosts_eq hpaths, hpaths]
    refine mapM_congr fun path hpath => ?_
    obtain ⟨names, hpost⟩ := hposts.post path hpath
    obtain ⟨content, hcontent⟩ := hreads path hpath
    exact h.readPost_eq hpost hcontent
  rw [timelineOf, hread, ← timelineOf]
  exact hfound

/-- The posts that are found have the comments that they had. -/
theorem loadComments_eq (h : Enlarged t t') (hfound : timelineOf t root = .ok found) {p : Post} (hp : p ∈ found) :
    p.loadComments t' = p.loadComments t := by
  obtain ⟨paths, hpaths, hreads⟩ := exists_reads_of_timelineOf h.grown.linkFree hfound
  obtain ⟨dir, hposts⟩ := exists_postsAt h.grown.linkFree h.grown.wellFormed hpaths
  have hmem := sourcePath_mem hpaths hfound hp
  obtain ⟨names, hpost⟩ := hposts.post p.sourcePath hmem
  obtain ⟨content, hcontent⟩ := hreads p.sourcePath hmem
  obtain ⟨init, last, rfl, hlast, hplace, hcomes⟩ := hpost.comments
  have hway : ∀ q ∈ t.comesBy (commentsBeside p.sourcePath), t'.get? q = t.get? q := by
    intro q hq
    rw [hcomes] at hq
    rcases List.mem_append.mp hq with hq | hq
    · have hdir := File.Tree.dirs_of_find h.grown.linkFree hcontent q hq
      rw [h.grown.dirs q hdir, hdir]
    · rw [List.mem_singleton.mp hq, hplace, ← List.append_assoc]
      exact h.grown.marked _ _ ⟨Post.commentsSuffix, List.mem_cons_self, by simp [Text.endsWith]⟩
  rw [loadComments_eq_commentsAt, loadComments_eq_commentsAt, commentsAt, commentsAt,
    Comment.loadDirectory_grown h.grown hway]

end Enlarged

end Site

end Marginalia
