import Mathlib
import Marginalia.Proofs.File.Erasure
import Marginalia.Site.Publish

/-!
Where posts are found. The way to a post leads through directories that are not left out, and its comments stand beside it
under a name by which a directory is left out and which no post has. So the comments of a post are neither on the way to
any post nor below one, nor around the comments of another post, and removing them changes nothing of what is found.
-/

namespace Marginalia

open File (Tree)

namespace Path

/-! ### The last component of a path -/

theorem extension_of_endsIn {path n : Text} (h : EndsIn path n) (hn : separator ∉ n) : extension path = extension n := by
  obtain ⟨names, hsplit, -⟩ := splitOn_of_endsIn h hn
  rw [extension, extension, hsplit, List.getLast?_concat, Text.splitOn_of_not_mem hn]
  rfl

theorem endsIn_getLast (path : Text) : ∃ n, separator ∉ n ∧ EndsIn path n := by
  by_cases hsep : separator ∈ path
  · obtain ⟨after, before, heq, hafter⟩ := List.eq_append_cons_of_mem (List.mem_reverse.mpr hsep)
    refine ⟨after.reverse, by simpa using hafter, Or.inr ⟨before.reverse, ?_⟩⟩
    rw [← List.reverse_reverse path, heq]
    simp
  · exact ⟨path, hsep, Or.inl rfl⟩

/-- Names joined to a path one after another. -/
theorem join_join {p n : Text} {names : List Text} (hp : p ≠ []) (hn : IsName n) (hnames : ∀ m ∈ names, IsName m) :
    join (join [p, n] :: names) = join (p :: n :: names) := by
  have hone : ∀ m ∈ [n], IsName m := List.forall_mem_singleton.mpr hn
  have hall : ∀ m ∈ n :: names, IsName m := List.forall_mem_cons.mpr ⟨hn, hnames⟩
  have hclean := clean_join (p := p) (List.cons_ne_nil n []) fun m hm => (hone m hm).1
  have hne : join [p, n] ≠ [] := hclean ▸ clean_ne_nil _
  rcases eq_or_ne names [] with rfl | hmore
  · have hfilter : [join [p, n]].filter (!·.isEmpty) = [join [p, n]] := by simp [hne]
    rw [join, hfilter]
    exact (congrArg clean (Text.join_singleton _ _)).trans hclean
  refine eq_of_components (clean_join hmore fun m hm => (hnames m hm).1)
    (clean_join (List.cons_ne_nil n names) fun m hm => (hall m hm).1) ?_ ?_
  · rw [isAbsolute_join hne hmore fun m hm => (hnames m hm).1,
      isAbsolute_join hp (List.cons_ne_nil n []) fun m hm => (hone m hm).1,
      isAbsolute_join hp (List.cons_ne_nil n names) fun m hm => (hall m hm).1]
  · rw [components_join hmore hnames, components_join (List.cons_ne_nil n []) hone,
      components_join (List.cons_ne_nil n names) hall, List.append_assoc, List.singleton_append]

end Path

namespace Site

variable {t t' : Tree} {dir root place : File.Place} {names init : List Text} {name last path : Text} {paths : List Text}

/-! ### Names of comments -/

theorem isName_commentsName (h : Path.IsName name) : Path.IsName (name ++ Post.commentsSuffix) := by
  have hlength : (name ++ Post.commentsSuffix).length = name.length + 9 := List.length_append
  refine ⟨List.append_ne_nil_of_left_ne_nil h.1 _, ?_, ?_, ?_⟩
  · intro heq
    rw [heq] at hlength
    simp [show (Text.ofString ".").length = 1 by decide] at hlength
  · intro heq
    rw [heq] at hlength
    simp [show (Text.ofString "..").length = 2 by decide] at hlength
  · exact fun hsep => (List.mem_append.mp hsep).elim h.2.2.2 (by decide)

theorem isSkipped_commentsName (name : Text) : isSkipped (name ++ Post.commentsSuffix) = true := by
  simp [isSkipped, Text.endsWith]

theorem not_isPostPath_commentsName (h : Path.separator ∉ name) : isPostPath (name ++ Post.commentsSuffix) = false := by
  have hsep : Path.separator ∉ name ++ Post.commentsSuffix := fun hsep =>
    (List.mem_append.mp hsep).elim h (by decide)
  have hsuffix : name ++ Post.commentsSuffix = name ++ ('.' : UInt8) :: Text.ofString "comments" := rfl
  have hextension : Path.extension (name ++ Post.commentsSuffix) = ('.' : UInt8) :: Text.ofString "comments" := by
    rw [Path.extension, Text.splitOn_of_not_mem hsep, List.getLast?_singleton, Option.getD_some, hsuffix,
      show Text.ofString "." = [('.' : UInt8)] by decide, Text.cutLast?_append _ (by decide)]
  rw [isPostPath, hextension]
  decide

theorem isPostPath_of_endsIn {n : Text} (h : Path.EndsIn path n) (hn : Path.separator ∉ n) :
    isPostPath path = isPostPath n := by
  rw [isPostPath, isPostPath, Path.extension_of_endsIn h hn]

/-- The path of a post ends in a proper name. -/
theorem endsIn_of_isPostPath (h : isPostPath path = true) : ∃ n, Path.IsName n ∧ Path.EndsIn path n := by
  obtain ⟨n, hsep, hends⟩ := Path.endsIn_getLast path
  rw [isPostPath_of_endsIn hends hsep] at h
  refine ⟨n, ⟨?_, ?_, ?_, hsep⟩, hends⟩
  all_goals
    rintro rfl
    exact absurd h (by decide)

theorem isPostPath_join {dir : Text} (hn : Path.IsName name) : isPostPath (Path.join [dir, name]) = isPostPath name := by
  have hcomponents := Path.components_join (p := dir) (List.cons_ne_nil name []) (List.forall_mem_singleton.mpr hn)
  have hclean := Path.clean_join (p := dir) (List.cons_ne_nil name []) (List.forall_mem_singleton.mpr hn.1)
  exact isPostPath_of_endsIn (Path.endsIn_of_clean hclean hcomponents) hn.2.2.2

/-! ### Trails -/

/-- Names that lead from a directory to a post, through directories that are not left out. -/
inductive Trail (t : Tree) : File.Place → List Text → Prop where
  | post {dir : File.Place} {name content : Text} : Path.IsName name → t.get? (dir ++ [name]) = some (.file content) →
      isPostPath name = true → Trail t dir [name]
  | enter {dir : File.Place} {name : Text} {more : List Text} : Path.IsName name → t.get? (dir ++ [name]) = some .dir →
      isSkipped name = false → Trail t (dir ++ [name]) more → Trail t dir (name :: more)

namespace Trail

theorem file (h : Trail t dir names) : ∃ content, t.get? (dir ++ names) = some (.file content) := by
  induction h with
  | post _ hfile _ => exact ⟨_, hfile⟩
  | enter _ _ _ _ ih =>
    obtain ⟨content, hfile⟩ := ih
    exact ⟨content, by rwa [List.append_assoc] at hfile⟩

theorem isName (h : Trail t dir names) : ∀ n ∈ names, Path.IsName n := by
  induction h with
  | post hname _ _ => exact List.forall_mem_singleton.mpr hname
  | enter hname _ _ _ ih => exact List.forall_mem_cons.mpr ⟨hname, ih⟩

theorem exists_last (h : Trail t dir names) :
    ∃ init last, names = init ++ [last] ∧ Path.IsName last ∧ isPostPath last = true := by
  induction h with
  | post hname _ hpost => exact ⟨[], _, rfl, hname, hpost⟩
  | enter _ _ _ _ ih =>
    obtain ⟨init, last, rfl, hlast⟩ := ih
    exact ⟨_ :: init, last, rfl, hlast⟩

/-- On the way to a post there are directories that are not left out. -/
theorem way (h : Trail t dir names) {q : List Text} (hbegins : q ++ [name] <+: names) (hne : q ++ [name] ≠ names) :
    t.get? (dir ++ (q ++ [name])) = some .dir ∧ isSkipped name = false := by
  induction h generalizing q with
  | @post dir first content _ _ _ =>
    cases q with
    | nil =>
      obtain ⟨rfl, -⟩ := List.cons_prefix_cons.mp hbegins
      exact absurd rfl hne
    | cons m q =>
      have hlength := hbegins.length_le
      simp at hlength
  | @enter dir first more _ hdir hskipped _ ih =>
    cases q with
    | nil =>
      obtain ⟨rfl, -⟩ := List.cons_prefix_cons.mp hbegins
      exact ⟨hdir, hskipped⟩
    | cons m q =>
      obtain ⟨rfl, hmore⟩ := List.cons_prefix_cons.mp hbegins
      have hrest := ih hmore fun heq => hne (by rw [List.cons_append, heq])
      rwa [List.append_assoc, List.singleton_append] at hrest

/-- No way to a post leads through comments, and no post stands in their place. -/
theorem not_through (h : Trail t dir names) (hsep : Path.separator ∉ name) (q : List Text) :
    ¬ q ++ [name ++ Post.commentsSuffix] <+: names := by
  intro hbegins
  by_cases heq : q ++ [name ++ Post.commentsSuffix] = names
  · obtain ⟨init, last, hlast, -, hpost⟩ := h.exists_last
    obtain ⟨-, hname⟩ := List.append_inj' (heq.trans hlast) rfl
    rw [← List.singleton_inj.mp hname, not_isPostPath_commentsName hsep] at hpost
    cases hpost
  · obtain ⟨-, hskipped⟩ := h.way hbegins heq
    rw [isSkipped_commentsName] at hskipped
    cases hskipped

theorem around_append {a b : List Text} : Tree.Around (dir ++ a) (dir ++ b) ↔ Tree.Around a b := by
  rw [Tree.Around, Tree.Around, List.prefix_append_right_inj, List.prefix_append_right_inj]

/-- Comments are not around a post. -/
theorem comments_not_around (h : Trail t dir names) (h' : Trail t dir (init ++ [last])) (hlast : Path.separator ∉ last) :
    ¬ Tree.Around (dir ++ names) (dir ++ (init ++ [last ++ Post.commentsSuffix])) := by
  rw [around_append]
  rintro (hbegins | hbegins)
  · exact h.not_through hlast init hbegins
  rcases List.prefix_concat_iff.mp hbegins with heq | hinit
  · exact h.not_through hlast init (heq ▸ List.prefix_refl _)
  -- A post on the way to another post would be a directory.
  obtain ⟨q, n, rfl, -⟩ := h.exists_last
  have hne : q ++ [n] ≠ init ++ [last] := fun heq => by
    have hlength := hinit.length_le
    rw [heq] at hlength
    simp at hlength
  obtain ⟨content, hfile⟩ := h.file
  have hdir := (h'.way (hinit.trans (List.prefix_append _ _)) hne).1
  rw [hfile] at hdir
  cases hdir

/-- Comments of two posts are not around each other. -/
theorem comments_apart {init' : List Text} {last' : Text} (h : Trail t dir (init ++ [last]))
    (h' : Trail t dir (init' ++ [last'])) (hlast : Path.separator ∉ last) (hlast' : Path.separator ∉ last')
    (hne : init ++ [last] ≠ init' ++ [last']) :
    ¬ Tree.Around (dir ++ (init ++ [last ++ Post.commentsSuffix])) (dir ++ (init' ++ [last' ++ Post.commentsSuffix])) := by
  have hneq : init ++ [last ++ Post.commentsSuffix] ≠ init' ++ [last' ++ Post.commentsSuffix] := fun heq => by
    obtain ⟨rfl, hname⟩ := List.append_inj' heq rfl
    obtain rfl := List.append_cancel_right (List.singleton_inj.mp hname)
    exact hne rfl
  rw [around_append]
  rintro (hbegins | hbegins)
  · rcases List.prefix_concat_iff.mp hbegins with heq | hinit
    · exact hneq heq.symm
    · exact h.not_through hlast' init' (hinit.trans (List.prefix_append _ _))
  · rcases List.prefix_concat_iff.mp hbegins with heq | hinit
    · exact hneq heq
    · exact h'.not_through hlast init (hinit.trans (List.prefix_append _ _))

end Trail

/-! ### Posts that are found -/

/-- A post is found at a path: its place is that of names that lead to a post. -/
structure PostAt (t : Tree) (dir : File.Place) (path : Text) (names : List Text) : Prop where
  trail : Trail t dir names
  place : t.place path = dir ++ names
  post : isPostPath path = true

theorem PostAt.exists_last (h : PostAt t dir path names) :
    ∃ init last, names = init ++ [last] ∧ Path.IsName last ∧ Path.EndsIn path last := by
  obtain ⟨init, last, rfl, hlast, -⟩ := h.trail.exists_last
  obtain ⟨n, hn, hends⟩ := endsIn_of_isPostPath h.post
  obtain ⟨before, -, hplace, -⟩ := t.comesBy_of_endsIn hends hn
  obtain ⟨-, hsame⟩ := List.append_inj' (hplace.symm.trans (h.place.trans (List.append_assoc ..).symm)) rfl
  exact ⟨init, last, rfl, hlast, List.singleton_inj.mp hsame ▸ hends⟩

theorem postAt_of_mem_postPaths (hl : t.LinkFree) (hwf : t.WellFormed) {depth : Nat} {found : Text} (hpath : path ≠ [])
    (hmem : found ∈ postPaths t depth dir path) (hdir : t.place path = dir) :
    ∃ names, names ≠ [] ∧ found = Path.join (path :: names) ∧ PostAt t dir found names := by
  induction depth generalizing dir path with
  | zero => cases hmem
  | succ depth ih =>
    obtain ⟨name, hname, hfound⟩ := List.mem_flatMap.mp hmem
    have hn := hwf.isName_of_mem_names hname
    have hplace : t.place (Path.join [path, name]) = dir ++ [name] := by
      rw [File.Tree.place_join (List.cons_ne_nil _ _) (List.forall_mem_singleton.mpr hn), hdir]
    obtain ⟨node, hnode⟩ := Option.isSome_iff_exists.mp (File.Tree.mem_names.mp hname)
    simp only [hnode] at hfound
    cases node with
    | link target => exact absurd hnode (hl _ target)
    | dir =>
      simp only at hfound
      split at hfound
      · cases hfound
      rename_i hskipped
      have hjoin : Path.join [path, name] ≠ [] :=
        Path.clean_join (p := path) (List.cons_ne_nil name []) (List.forall_mem_singleton.mpr hn.1) ▸ Path.clean_ne_nil _
      obtain ⟨names, -, rfl, hpost⟩ := ih hjoin hfound hplace
      refine ⟨name :: names, List.cons_ne_nil _ _, Path.join_join hpath hn hpost.trail.isName,
        .enter hn hnode (Bool.eq_false_of_not_eq_true hskipped) hpost.trail, ?_, hpost.post⟩
      rw [hpost.place, List.append_assoc, List.singleton_append]
    | file content =>
      simp only at hfound
      split at hfound
      swap
      · cases hfound
      rename_i hpost
      obtain rfl := List.mem_singleton.mp hfound
      exact ⟨[name], List.cons_ne_nil _ _, rfl, .post hn hnode (isPostPath_join hn ▸ hpost), hplace, hpost⟩

/-- Posts are found below a directory, or the root itself is the only one. -/
theorem findPosts_eq_ok (hl : t.LinkFree) (hwf : t.WellFormed) {root : Text} (h : findPosts t root = .ok paths) :
    t.find false root = .ok (t.place root, .dir) ∧ paths = postPaths t (t.depth + 1) (t.place root) root ∧
      (∀ path ∈ paths, ∃ names, names ≠ [] ∧ path = Path.join (root :: names) ∧ PostAt t (t.place root) path names) ∨
    ∃ dir n content, t.place root = dir ++ [n] ∧ t.find false root = .ok (t.place root, .file content) ∧
      (paths = if isPostPath root then [root] else []) ∧ ∀ path ∈ paths, path = root ∧ PostAt t dir path [n] := by
  unfold findPosts at h
  split at h
  · cases h
  · rename_i place hfind
    obtain ⟨hlook, rfl, -⟩ := File.Tree.find_eq_ok hl hfind
    obtain rfl := Except.ok.inj h
    exact Or.inl ⟨hfind, rfl, fun path hpath => postAt_of_mem_postPaths hl hwf hlook.ne_nil hpath rfl⟩
  · rename_i r hdir hfind
    obtain ⟨place, node⟩ := r
    obtain ⟨-, rfl, hreach, hget⟩ := File.Tree.find_eq_ok hl hfind
    obtain rfl := Except.ok.inj h
    cases node with
    | link target => exact absurd hget (hl _ target)
    | dir => exact absurd rfl (hdir (t.place root))
    | file content =>
      -- The one post stands in the directory in which the path ends.
      obtain hnil | ⟨init, n, hlast⟩ := List.eq_nil_or_concat (t.place root)
      · rw [hnil] at hget
        cases hget
      rw [List.concat_eq_append] at hlast
      refine Or.inr ⟨init, n, content, hlast, hfind, rfl, fun path hpath => ?_⟩
      split at hpath
      swap
      · cases hpath
      rename_i hpost
      obtain rfl := List.mem_singleton.mp hpath
      obtain ⟨m, hm, hends⟩ := endsIn_of_isPostPath hpost
      obtain ⟨before, -, hplace, -⟩ := t.comesBy_of_endsIn hends hm
      obtain ⟨-, hsame⟩ := List.append_inj' (hplace.symm.trans hlast) rfl
      obtain rfl := List.singleton_inj.mp hsame
      exact ⟨rfl, .post hm (hlast ▸ hget) (isPostPath_of_endsIn hends hm.2.2.2 ▸ hpost), hlast, hpost⟩

/-! ### Removing comments -/

/-- The paths of the posts at a name in a directory or below it. -/
def postsUnder (t : Tree) (depth : Nat) (dir : File.Place) (path name : Text) : List Text :=
  match t.get? (dir ++ [name]) with
  | some .dir => if isSkipped name then [] else postPaths t depth (dir ++ [name]) (Path.join [path, name])
  | _ => if isPostPath (Path.join [path, name]) then [Path.join [path, name]] else []

theorem postPaths_succ (t : Tree) (depth : Nat) (dir : File.Place) (path : Text) :
    postPaths t (depth + 1) dir path = (t.names dir).flatMap (postsUnder t depth dir path) := rfl

theorem postPaths_enough {n m : Nat} (hn : t.depth < n + dir.length) (hm : t.depth < m + dir.length) (path : Text) :
    postPaths t n dir path = postPaths t m dir path := by
  -- Where the depth is used up there are no names any more.
  induction n generalizing m dir path with
  | zero =>
    cases m with
    | zero => rfl
    | succ m => rw [postPaths, postPaths_succ, File.Tree.names_eq_nil (by omega), List.flatMap_nil]
  | succ n ih =>
    cases m with
    | zero => rw [postPaths, postPaths_succ, File.Tree.names_eq_nil (by omega), List.flatMap_nil]
    | succ m =>
      rw [postPaths_succ, postPaths_succ]
      refine List.flatMap_congr fun name _ => ?_
      have hlength : (dir ++ [name]).length = dir.length + 1 := List.length_append
      rw [postsUnder, postsUnder, ih (m := m) (by omega) (by omega)]

theorem flatMap_filter {α β : Type} {f : α → List β} {keep : α → Bool} {l : List α}
    (h : ∀ a ∈ l, keep a = false → f a = []) : (l.filter keep).flatMap f = l.flatMap f := by
  induction l with
  | nil => rfl
  | cons a l ih =>
    have hl := ih fun b hb => h b (List.mem_cons_of_mem a hb)
    cases hkeep : keep a with
    | true => rw [List.filter_cons_of_pos hkeep, List.flatMap_cons, List.flatMap_cons, hl]
    | false =>
      rw [List.filter_cons_of_neg (by simp [hkeep]), List.flatMap_cons, h a List.mem_cons_self hkeep, hl, List.nil_append]

/-- By the name of comments nothing is found. -/
theorem postsUnder_commentsName (h : Path.IsName name) (n : Nat) (path : Text) :
    postsUnder t n dir path (name ++ Post.commentsSuffix) = [] := by
  have hn := isName_commentsName h
  have hpost : isPostPath (Path.join [path, name ++ Post.commentsSuffix]) = false :=
    (isPostPath_join hn).trans (not_isPostPath_commentsName h.2.2.2)
  rw [postsUnder, isSkipped_commentsName, hpost]
  split <;> rfl

theorem postPaths_erase (hwf : t.WellFormed) (hlast : Path.IsName last) {place : File.Place}
    (hplace : place = init ++ [last ++ Post.commentsSuffix]) (hdir : ¬ place <+: dir) (n : Nat) (path : Text) :
    postPaths (t.erase place) n dir path = postPaths t n dir path := by
  have hne : place ≠ [] := hplace ▸ List.concat_ne_nil _ _
  induction n generalizing dir path with
  | zero => rfl
  | succ n ih =>
    have hkept : ∀ name, ¬ place <+: dir ++ [name] → postsUnder (t.erase place) n dir path name = postsUnder t n dir path name := by
      intro name hname
      rw [postsUnder, postsUnder, File.Tree.get?_erase hne, if_neg hname, ih hname]
    have hgone : ∀ name, place <+: dir ++ [name] → postsUnder t n dir path name = [] := by
      intro name hname
      obtain heq := (List.prefix_concat_iff.mp hname).resolve_right hdir
      obtain ⟨-, hcomments⟩ := List.append_inj' (hplace.symm.trans heq) rfl
      rw [← List.singleton_inj.mp hcomments]
      exact postsUnder_commentsName hlast n path
    rw [postPaths_succ, postPaths_succ, File.Tree.names_erase hwf hne, ← flatMap_filter (f := postsUnder t n dir path)]
    · refine List.flatMap_congr fun name hname => hkept name ?_
      have hleft := (List.mem_filter.mp hname).2
      rwa [Bool.not_eq_true', Bool.eq_false_iff, ne_eq, List.isPrefixOf_iff_prefix] at hleft
    · intro name _ hname
      rw [Bool.not_eq_false', List.isPrefixOf_iff_prefix] at hname
      exact hgone name hname

/-- Without the comments of a post the same posts are found, unless the way to them leads through these comments. -/
theorem findPosts_erase (hl : t.LinkFree) (hwf : t.WellFormed) {root : Text} {place : File.Place} (hlast : Path.IsName last)
    (hplace : place = init ++ [last ++ Post.commentsSuffix]) (hway : ∀ q ∈ t.comesBy root, ¬ place <+: q) :
    findPosts (t.erase place) root = findPosts t root := by
  have hne : place ≠ [] := hplace ▸ List.concat_ne_nil _ _
  have hsame : ∀ q ∈ t.comesBy root, (t.erase place).get? q = t.get? q := fun q hq => by
    rw [File.Tree.get?_erase hne, if_neg (hway q hq)]
  rw [findPosts, findPosts, File.Tree.find_congr (File.Tree.erase_workDir t place) hsame (fun q _ => hl q) false false]
  split
  · rfl
  · rename_i dir hfind
    obtain ⟨-, rfl, -, -⟩ := File.Tree.find_eq_ok hl hfind
    have hdepth := File.Tree.depth_erase_le t place
    rw [postPaths_enough (m := t.depth + 1) (by omega) (by omega),
      postPaths_erase hwf hlast hplace (hway _ (t.place_mem_comesBy root))]
  · rfl

end Site

end Marginalia
