import Mathlib
import Marginalia.Proofs.Comment.Directory
import Marginalia.Proofs.Site.Finding
import Marginalia.Proofs.Site.Lifecycle
import Marginalia.Proofs.Site.Tandem
import Marginalia.Proofs.Site.Timeline

/-!
Broken comments are like no comments. If they do not stop the building, removing them beforehand changes neither its
result nor what it writes: the same posts are found, the comments of all others are loaded as before, and those of the
posts concerned are shown as none. This takes a tree without links, as a post that is a link to its comments is gone
with them, an output directory that stands neither among the posts nor among their comments, and a path of the posts that
does not lead through these comments and out of them again.
-/

namespace Marginalia

open File (Tree)

/-! ### Comments in trees that agree -/

theorem mapM_congr {α β ε : Type} {f g : α → Except ε β} {xs : List α} (h : ∀ x ∈ xs, g x = f x) :
    xs.mapM g = xs.mapM f := by
  induction xs with
  | nil => rfl
  | cons x xs ih =>
    rw [List.mapM_cons, List.mapM_cons, h x List.mem_cons_self, ih fun y hy => h y (List.mem_cons_of_mem x hy)]

namespace Comment

variable {t t' : Tree} {dir : Text}

theorem load_congr {path : Text} (hl : t.LinkFree) (hdir : t'.workDir = t.workDir)
    (hway : ∀ q ∈ t.comesBy path, t'.get? q = t.get? q) : load t' path = load t path := by
  rw [load_def, load_def, File.Tree.readFile, File.Tree.readFile, File.Tree.find_congr hdir hway (fun q _ => hl q) true true]

/-- What a directory without signs of patterns holds is read by its names. -/
theorem loadDirectory_eq {place : File.Place} (hl : t.LinkFree) (hwf : t.WellFormed)
    (hdir : t.find true dir = .ok (place, .dir)) (hplain : File.Pattern.hasSigns (Path.clean dir) = false) :
    loadDirectory t dir =
      ((((t.names place).filter isFileName).map (Path.lead dir ++ ·)).mapM (load t)).map some := by
  have hstat : t.stat dir = .ok .dir := by rw [File.Tree.stat, hdir]
  rw [loadDirectory_def, hstat, mapM_glob? hl hwf hdir hplain]
  simp only [List.flatten_cons, List.flatten_nil, List.append_nil, mergeSort_paths hwf]

/-- A directory is loaded alike in trees that are the same on the way to it and below it. -/
theorem loadDirectory_agree (hl : t.LinkFree) (hwf : t.WellFormed) (hl' : t'.LinkFree) (hwf' : t'.WellFormed)
    (hway : ∀ q ∈ t.comesBy dir, t'.get? q = t.get? q) (h : Tree.AgreeAt (t.place dir) t t')
    (hplain : File.Pattern.hasSigns dir = false) : loadDirectory t' dir = loadDirectory t dir := by
  have hfind := File.Tree.find_congr h.workDir hway (fun q _ => hl q) true true
  have hstat : t'.stat dir = t.stat dir := by rw [File.Tree.stat, File.Tree.stat, hfind]
  cases hnode : t.find true dir with
  | error c =>
    have hmissing : t.stat dir = .error ⟨"stat", dir, c⟩ := by rw [File.Tree.stat, hnode]
    rw [loadDirectory_def, loadDirectory_def, hstat, hmissing]
  | ok r =>
    obtain ⟨place, node⟩ := r
    have hnode' : t.stat dir = .ok node := by rw [File.Tree.stat, hnode]
    obtain ⟨-, rfl, -, -⟩ := File.Tree.find_eq_ok hl hnode
    cases node with
    | file content => rw [loadDirectory_def, loadDirectory_def, hstat, hnode']
    | link target => rw [loadDirectory_def, loadDirectory_def, hstat, hnode']
    | dir =>
      have hnames : t'.names (t.place dir) = t.names (t.place dir) :=
        File.Tree.names_agree hwf hwf' fun name => h.same _ (Or.inr (List.prefix_append _ _))
      have hclean := File.Pattern.hasSigns_clean hplain
      rw [loadDirectory_eq hl' hwf' (hfind.trans hnode) hclean, loadDirectory_eq hl hwf hnode hclean, hnames]
      refine congrArg _ (mapM_congr fun path hpath => load_congr hl h.workDir fun q hq => h.same q ?_)
      obtain ⟨name, hname, rfl⟩ := List.mem_map.mp hpath
      have hn := hwf.isName_of_mem_names (List.mem_of_mem_filter hname)
      have hone : ∀ m ∈ [name], Path.IsName m := List.forall_mem_singleton.mpr hn
      rw [← Path.join_name hn] at hq
      have hway := File.Tree.prefix_of_mem_comesBy
        (Path.clean_join (List.cons_ne_nil name []) fun m hm => (hone m hm).1) hq
      rw [File.Tree.place_join (List.cons_ne_nil name []) hone] at hway
      exact Tree.Around.before (Or.inr (List.prefix_append _ _)) hway

end Comment

namespace Site

variable {t t' : Tree} {base : File.Place} {root path : Text} {paths gone : List Text} {config : Config}

/-! ### Removing broken comments -/

/-- The directory with the comments of the post at a path. -/
def commentsBeside (path : Text) : Text := path ++ Post.commentsSuffix

/-- The comments of the post at a path, in order. -/
def commentsAt (t : Tree) (path : Text) : Except CommentsError (List ThreadedComment) :=
  match Comment.loadDirectory t (commentsBeside path) with
  | .error e => .error (.load e)
  | .ok found =>
    match thread (found.getD []) with
    | .error e => .error (.thread e)
    | .ok cs => .ok cs

theorem loadComments_eq_commentsAt (t : Tree) (p : Post) : p.loadComments t = commentsAt t p.sourcePath :=
  Post.loadComments_def t p

/-- The comments that are shown: none if they are broken. -/
def shownAt (t : Tree) (path : Text) : List ThreadedComment := (commentsAt t path).toOption.getD []

/-- Are the comments of the post at a path broken? -/
def isBroken (t : Tree) (path : Text) : Bool := (commentsAt t path).toOption.isNone

/-- The paths of the posts with broken comments. -/
def brokenPosts (t : Tree) (root : Text) : List Text :=
  match findPosts t root with
  | .ok paths => paths.filter (isBroken t)
  | .error _ => []

/-- The tree without whatever stands where broken comments are looked for. -/
def withoutBroken (t : Tree) (root : Text) : Tree :=
  (brokenPosts t root).foldl (fun t path => t.removeAll (commentsBeside path)) t

/-- The same posts are found in both trees and read alike, with the same comments but for some posts that have none to
show in the second tree, and the trees agree around a place. -/
structure Unaffected (root : Text) (paths : List Text) (base : File.Place) (gone : List Text) (t t' : Tree) : Prop where
  linkFree : t'.LinkFree
  wellFormed : t'.WellFormed
  found : findPosts t' root = .ok paths
  reads : ∀ path ∈ paths, t'.readFile path = t.readFile path
  kept : ∀ path ∈ paths, path ∉ gone → commentsAt t' path = commentsAt t path
  subset : gone ⊆ paths
  bare : ∀ path ∈ gone, shownAt t' path = []
  agree : Tree.AgreeAt base t t'

theorem shownAt_of_missing (h : ∀ p n, t.find true (commentsBeside path) ≠ .ok (p, n)) : shownAt t path = [] := by
  cases hfind : t.find true (commentsBeside path) with
  | ok r => exact absurd hfind (h r.1 r.2)
  | error c =>
    have hstat : t.stat (commentsBeside path) = .error ⟨"stat", commentsBeside path, c⟩ := by
      rw [File.Tree.stat, hfind]
    rw [shownAt, commentsAt, Comment.loadDirectory_def, hstat]
    simp only
    split
    · rename_i e hload
      split at hload
      · cases hload
      · rfl
    · rename_i found hload
      split at hload
      · obtain rfl := Except.ok.inj hload
        rfl
      · cases hload

/-- The comments of a post stand beside it, and the way to them is that to the post. -/
theorem PostAt.comments {dir : File.Place} {names : List Text} (h : PostAt t dir path names) :
    ∃ init last, names = init ++ [last] ∧ Path.IsName last ∧
      t.place (commentsBeside path) = dir ++ (init ++ [last ++ Post.commentsSuffix]) ∧
      t.comesBy (commentsBeside path) = (t.comesBy path).dropLast ++ [t.place (commentsBeside path)] := by
  obtain ⟨init, last, rfl, hlast, hends⟩ := h.exists_last
  obtain ⟨front, before, hplace, hway, hbeside⟩ := t.comesBy_of_endsIn hends hlast
  obtain ⟨hplace', hway'⟩ := hbeside Post.commentsSuffix (isName_commentsName hlast)
  have hfront : front = dir ++ init :=
    (List.append_inj' (hplace.symm.trans (h.place.trans (List.append_assoc ..).symm)) rfl).1
  refine ⟨init, last, rfl, hlast, ?_, ?_⟩
  · rw [commentsBeside, hplace', hfront, List.append_assoc]
  · rw [commentsBeside, hplace', hway', hway, List.dropLast_concat]

/-- The posts that are found at paths: all of them are at or below the root, each path is clean unless it is the root and
the only one, and no two lead to one place. -/
structure PostsAt (t : Tree) (root : Text) (paths : List Text) (dir : File.Place) : Prop where
  post : ∀ path ∈ paths, ∃ names, PostAt t dir path names
  below : ∀ path ∈ paths, t.place root <+: t.place path
  clean : ∀ path ∈ paths, Path.clean path = path ∨ path = root ∧ ∀ other ∈ paths, other = root
  distinct : ∀ path ∈ paths, ∀ other ∈ paths, t.place path = t.place other → path = other

theorem exists_postsAt (hl : t.LinkFree) (hwf : t.WellFormed) (h : findPosts t root = .ok paths) :
    ∃ dir, PostsAt t root paths dir := by
  obtain ⟨-, -, hposts⟩ | ⟨dir, n, -, -, -, -, hposts⟩ := findPosts_eq_ok hl hwf h
  · refine ⟨t.place root, fun path hpath => ?_, fun path hpath => ?_, fun path hpath => ?_,
      fun path hpath other hother hplace => ?_⟩
    · obtain ⟨names, -, -, hpost⟩ := hposts path hpath
      exact ⟨names, hpost⟩
    · obtain ⟨names, -, -, hpost⟩ := hposts path hpath
      exact hpost.place ▸ List.prefix_append _ _
    · obtain ⟨names, hne, rfl, hpost⟩ := hposts path hpath
      exact Or.inl (Path.clean_join hne fun n hn => (hpost.trail.isName n hn).1)
    · obtain ⟨names, -, heq, hpost⟩ := hposts path hpath
      obtain ⟨names', -, heq', hpost'⟩ := hposts other hother
      rw [hpost.place, hpost'.place] at hplace
      rw [heq, heq', List.append_cancel_left hplace]
  · refine ⟨dir, fun path hpath => ⟨[n], (hposts path hpath).2⟩, fun path hpath => ?_, fun path hpath => ?_,
      fun path hpath other hother _ => (hposts path hpath).1.trans (hposts other hother).1.symm⟩
    · exact (hposts path hpath).1 ▸ List.prefix_refl _
    · exact Or.inr ⟨(hposts path hpath).1, fun other hother => (hposts other hother).1⟩

/-- What is left of a tree when the comments of a post are gone: all but their place, and no comments to show. -/
structure Uncommented (path : Text) (place : File.Place) (t t' : Tree) : Prop where
  workDir : t'.workDir = t.workDir
  linkFree : t'.LinkFree
  wellFormed : t'.WellFormed
  same : ∀ q, ¬ place <+: q → t'.get? q = t.get? q
  found : ∀ root, (∀ q ∈ t.comesBy root, ¬ place <+: q) → findPosts t' root = findPosts t root
  bare : shownAt t' path = []

theorem uncommented_removeAll {place : File.Place} {init : List Text} {last : Text} (hl : t.LinkFree)
    (hwf : t.WellFormed) (hplace : t.place (commentsBeside path) = place) (hlast : Path.IsName last)
    (hname : place = init ++ [last ++ Post.commentsSuffix]) :
    Uncommented path place t (t.removeAll (commentsBeside path)) := by
  have hne : place ≠ [] := hname ▸ List.concat_ne_nil _ _
  obtain heq | ⟨heq, c, hlocate⟩ := File.Tree.removeAll_cases hl (commentsBeside path)
  · rw [heq, hplace]
    refine ⟨rfl, hl.erase hne, hwf.erase place, fun q hq => by rw [File.Tree.get?_erase hne, if_neg hq],
      fun root => findPosts_erase hl hwf hlast hname, shownAt_of_missing fun p n hfind => ?_⟩
    obtain ⟨-, rfl, -, hget⟩ := File.Tree.find_eq_ok (hl.erase hne) hfind
    have hspelled : (t.erase place).place (commentsBeside path) = place :=
      (File.Tree.place_congr (File.Tree.erase_workDir t place) _).trans hplace
    rw [File.Tree.get?_erase hne, hspelled, if_pos (List.prefix_refl _)] at hget
    cases hget
  · -- There is no way to the comments, so that there were none.
    rw [heq]
    refine ⟨rfl, hl, hwf, fun _ _ => rfl, fun _ _ => rfl, shownAt_of_missing fun p n hfind => ?_⟩
    rw [File.Tree.find, File.Tree.locate_follow hl _ false true, hlocate] at hfind
    cases hfind

theorem commentsAt_agree (hl : t.LinkFree) (hwf : t.WellFormed) (hl' : t'.LinkFree) (hwf' : t'.WellFormed)
    (hway : ∀ q ∈ t.comesBy (commentsBeside path), t'.get? q = t.get? q)
    (h : Tree.AgreeAt (t.place (commentsBeside path)) t t') (hplain : File.Pattern.hasSigns path = false) :
    commentsAt t' path = commentsAt t path := by
  have hsigns : File.Pattern.hasSigns (commentsBeside path) = false := by
    rw [commentsBeside, File.Pattern.hasSigns_append, hplain]
    decide
  rw [commentsAt, commentsAt, Comment.loadDirectory_agree hl hwf hl' hwf' hway h hsigns]

theorem Uncommented.agree {place : File.Place} (h : Uncommented path place t t') (hl : t.LinkFree)
    (haround : ¬ Tree.Around base place) : Tree.AgreeAt base t t' where
  workDir := h.workDir
  same q hq := h.same q fun hbegins => haround (hq.elim (fun hq => Or.inl (hbegins.trans hq))
    fun hq => List.prefix_or_prefix_of_prefix hbegins hq)
  plain q _ := hl q

/-- The comments of another post are not on the way to a post, unless this is the root. -/
theorem PostsAt.apart {dir : File.Place} (h : PostsAt t root paths dir) {other : Text} (hpath : path ∈ paths)
    (hother : other ∈ paths) (hway : ∀ q ∈ t.comesBy root, ¬ t.place (commentsBeside path) <+: q) :
    ∀ q ∈ t.comesBy other, ¬ t.place (commentsBeside path) <+: q := by
  rcases h.clean other hother with hclean | ⟨rfl, -⟩
  · intro q hq hbegins
    obtain ⟨names, hpost⟩ := h.post path hpath
    obtain ⟨init, last, rfl, hlast, hplace, -⟩ := hpost.comments
    obtain ⟨names', hpost'⟩ := h.post other hother
    have hfar := hpost'.trail.comments_not_around hpost.trail hlast.2.2.2
    rw [← hplace, ← hpost'.place] at hfar
    exact hfar (Or.inl (hbegins.trans (File.Tree.prefix_of_mem_comesBy hclean hq)))
  · exact hway

/-- One more post loses its comments. -/
theorem Unaffected.removeAll (h : Unaffected root paths base gone t t')
    (hplain : ∀ path ∈ paths, File.Pattern.hasSigns path = false) (hpath : path ∈ paths)
    (hway : ∀ q ∈ t.comesBy root, ¬ t.place (commentsBeside path) <+: q)
    (hapart : ¬ Tree.Around base (t.place (commentsBeside path))) :
    Unaffected root paths base (path :: gone) t (t'.removeAll (commentsBeside path)) := by
  have hdir := h.agree.workDir
  rw [← File.Tree.place_congr hdir, ← File.Tree.comesBy_congr hdir] at hway
  rw [← File.Tree.place_congr hdir] at hapart
  obtain ⟨dir, hposts⟩ := exists_postsAt h.linkFree h.wellFormed h.found
  obtain ⟨names, hpost⟩ := hposts.post path hpath
  obtain ⟨init, last, rfl, hlast, hplace, -⟩ := hpost.comments
  have hgone := uncommented_removeAll h.linkFree h.wellFormed rfl hlast (hplace.trans (List.append_assoc ..).symm)
  generalize t'.removeAll (commentsBeside path) = t'' at hgone ⊢
  have hpaths : ∀ other ∈ paths, ∀ q ∈ t'.comesBy other, t''.get? q = t'.get? q := fun other hother q hq =>
    hgone.same q (hposts.apart hpath hother hway q hq)
  have hothers : ∀ other ∈ paths, other ≠ path → commentsAt t'' other = commentsAt t' other := by
    intro other hother hdiffer
    obtain ⟨names', hpost'⟩ := hposts.post other hother
    obtain ⟨init', last', rfl, hlast', hplace', hcomes⟩ := hpost'.comments
    have hnames : init' ++ [last'] ≠ init ++ [last] := fun heq =>
      hdiffer (hposts.distinct other hother path hpath (by rw [hpost'.place, hpost.place, heq]))
    have haround := hpost'.trail.comments_apart hpost.trail hlast'.2.2.2 hlast.2.2.2 hnames
    rw [← hplace, ← hplace'] at haround
    refine commentsAt_agree h.linkFree h.wellFormed hgone.linkFree hgone.wellFormed (fun q hq => ?_)
      (hgone.agree h.linkFree haround) (hplain other hother)
    rw [hcomes] at hq
    rcases List.mem_append.mp hq with hq | hq
    · exact hpaths other hother q (List.mem_of_mem_dropLast hq)
    · exact hgone.same q fun hbegins => haround (Or.inl (List.mem_singleton.mp hq ▸ hbegins))
  refine ⟨hgone.linkFree, hgone.wellFormed, ?_, ?_, ?_, List.cons_subset.mpr ⟨hpath, h.subset⟩, ?_, ?_⟩
  · rw [hgone.found root hway, h.found]
  · intro other hother
    refine Eq.trans ?_ (h.reads other hother)
    rw [File.Tree.readFile, File.Tree.readFile,
      File.Tree.find_congr hgone.workDir (hpaths other hother) (fun q _ => h.linkFree q) true true]
  · intro other hother hkept
    obtain ⟨hdiffer, hkept⟩ := not_or.mp (List.mem_cons.not.mp hkept)
    exact (hothers other hother hdiffer).trans (h.kept other hother hkept)
  · intro other hlost
    by_cases heq : other = path
    · exact heq ▸ hgone.bare
    · have hlost := (List.mem_cons.mp hlost).resolve_left heq
      rw [shownAt, hothers other (h.subset hlost) heq]
      exact h.bare other hlost
  · exact h.agree.trans (hgone.agree h.linkFree hapart)

theorem Unaffected.removeEach {broken : List Text} (h : Unaffected root paths base gone t t')
    (hplain : ∀ path ∈ paths, File.Pattern.hasSigns path = false) (hbroken : broken ⊆ paths)
    (hway : ∀ path ∈ broken, ∀ q ∈ t.comesBy root, ¬ t.place (commentsBeside path) <+: q)
    (hapart : ∀ path ∈ broken, ¬ Tree.Around base (t.place (commentsBeside path))) :
    Unaffected root paths base (broken.reverse ++ gone) t
      (broken.foldl (fun t path => t.removeAll (commentsBeside path)) t') := by
  induction broken generalizing gone t' with
  | nil => exact h
  | cons path broken ih =>
    obtain ⟨hpath, hbroken⟩ := List.cons_subset.mp hbroken
    obtain ⟨hfirst, hway⟩ := List.forall_mem_cons.mp hway
    obtain ⟨hfirst', hapart⟩ := List.forall_mem_cons.mp hapart
    rw [List.reverse_cons, List.append_assoc, List.foldl_cons]
    exact ih (h.removeAll hplain hpath hfirst hfirst') hbroken hway hapart

theorem unaffected_withoutBroken (hl : t.LinkFree) (hwf : t.WellFormed)
    (hfound : findPosts t root = .ok paths) (hplain : ∀ path ∈ paths, File.Pattern.hasSigns path = false)
    (hway : ∀ path ∈ brokenPosts t root, ∀ q ∈ t.comesBy root, ¬ t.place (commentsBeside path) <+: q)
    (hapart : ∀ path ∈ paths, ¬ Tree.Around base (t.place (commentsBeside path))) :
    Unaffected root paths base (paths.filter (isBroken t)).reverse t (withoutBroken t root) := by
  have hsubset : paths.filter (isBroken t) ⊆ paths := List.filter_subset_self _
  have hstart : Unaffected root paths base [] t t :=
    ⟨hl, hwf, hfound, fun _ _ => rfl, fun _ _ _ => rfl, List.nil_subset _, nofun, hl.agreeAt_refl base⟩
  rw [brokenPosts, hfound] at hway
  have hend := hstart.removeEach hplain hsubset hway fun path hpath => hapart path (hsubset hpath)
  rw [List.append_nil] at hend
  rw [withoutBroken, brokenPosts, hfound]
  exact hend

/-- Each post shows the same comments when those that are broken are gone. -/
theorem Unaffected.shownAt_eq (h : Unaffected root paths base (paths.filter (isBroken t)).reverse t t') (hpath : path ∈ paths) :
    shownAt t' path = shownAt t path := by
  by_cases hgone : path ∈ (paths.filter (isBroken t)).reverse
  · have hbroken := (List.mem_filter.mp (List.mem_reverse.mp hgone)).2
    rw [isBroken, Option.isNone_iff_eq_none] at hbroken
    rw [h.bare path hgone, shownAt, hbroken]
    rfl
  · rw [shownAt, h.kept path hpath hgone, shownAt]

/-! ### The posts of both trees -/

theorem readPost_sourcePath {p : Post} (h : readPost t path = .ok p) : p.sourcePath = path := by
  have hrecord : ∀ {r : Yaml.Record} {content : Text}, Post.ofRecord path r content = .ok p → p.sourcePath = path := by
    intro r content hp
    unfold Post.ofRecord at hp
    simp only at hp
    split at hp
    · cases hp
    split at hp
    · obtain rfl := Except.ok.inj hp
      rfl
    split at hp
    · obtain rfl := Except.ok.inj hp
      rfl
    · cases hp
  unfold readPost at h
  split at h
  · cases h
  split at h
  · cases h
  rename_i hparse
  obtain rfl := Except.ok.inj h
  unfold Post.parse at hparse
  simp only at hparse
  split at hparse
  · exact hrecord hparse
  split at hparse
  · cases hparse
  · exact hrecord hparse
  · exact hrecord hparse

theorem sourcePath_mem {found : List Post} {p : Post} (hpaths : findPosts t root = .ok paths)
    (h : timelineOf t root = .ok found) (hp : p ∈ found) : p.sourcePath ∈ paths := by
  obtain ⟨posts, hread, rfl⟩ := timelineOf_eq_ok h
  rw [readPosts, hpaths] at hread
  have hmem : p ∈ posts := (List.mergeSort_perm posts _).mem_iff.mp hp
  obtain ⟨path, hpath, hpost⟩ := exists_of_mem_right (mapM_eq_ok_iff.mp hread) hmem
  rwa [readPost_sourcePath hpost]

theorem Unaffected.timelineOf_eq (h : Unaffected root paths base gone t t') (hfound : findPosts t root = .ok paths) :
    timelineOf t' root = timelineOf t root := by
  have hread : readPosts t' root = readPosts t root := by
    rw [readPosts, readPosts, hfound, h.found]
    refine mapM_congr fun path hpath => ?_
    rw [readPost, readPost, h.reads path hpath]
  rw [timelineOf, timelineOf, hread]

/-- The trees have the same posts, which show the same comments, and agree around a place. -/
structure SamePosts (root : Text) (base : File.Place) (t t' : Tree) : Prop where
  timeline : timelineOf t' root = timelineOf t root
  shown : ∀ found, timelineOf t root = .ok found → ∀ p ∈ found, (commented t' p).shown = (commented t p).shown
  agree : Tree.AgreeAt base t t'

theorem Unaffected.samePosts (h : Unaffected root paths base (paths.filter (isBroken t)).reverse t t')
    (hfound : findPosts t root = .ok paths) : SamePosts root base t t' where
  timeline := h.timelineOf_eq hfound
  shown found htimeline p hp := by
    have hshown := h.shownAt_eq (sourcePath_mem hfound htimeline hp)
    rw [shownAt, shownAt, ← loadComments_eq_commentsAt, ← loadComments_eq_commentsAt] at hshown
    simp only [commented, Post.shown, hshown]
  agree := h.agree

/-! ### Two buildings -/

theorem loadComments_succeeds {s : Site} (hfail : s.config.failOnCommentError = false) :
    (s.run Build.loadComments).1 = .ok () := by
  obtain ⟨turns, pool, hturns, hover, hrun⟩ := s.exists_takeTurns
  have htrack : Pool.Tracks (processPost s.config s.tree) s.timeline pool := Pool.Tracks.follow hturns
  rw [hrun, afterWork, (all_loaded htrack hover (Or.inl hfail)).1]

/-- Where broken comments stop nothing, a scan fails only if posts cannot be found. -/
theorem run_scan {s : Site} (hfail : s.config.failOnCommentError = false) (hhandlers : s.handlersOf scanned = [.loadComments]) :
    (∃ e, timelineOf s.tree s.config.postsPath = .error e ∧ s.run Build.scan = (.error e, s)) ∨
    ∃ found log, timelineOf s.tree s.config.postsPath = .ok found ∧ s.run Build.scan =
      (.ok (), { s with timeline := found.map (commented s.tree), slugPlaces := slugPlacesOf found, log }) := by
  generalize hrun : s.run Build.scan = r
  obtain ⟨x, s'⟩ := r
  obtain ⟨e, htimeline, rfl, rfl⟩ | ⟨found, htimeline, log, called, r, hcalls, rfl, -⟩ := scan_cases hrun
  · exact Or.inl ⟨e, htimeline, rfl⟩
  refine Or.inr ?_
  have hone : (s.scannedTo found).handlersOf scanned = [.loadComments] := hhandlers
  rw [hone] at hcalls
  cases hcalls with
  | @failed _ _ _ e behind hload =>
    have hok := loadComments_succeeds (s := { s.scannedTo found with log }) hfail
    rw [← Build.handle, hload] at hok
    cases hok
  | passed hload hrest =>
    cases hrest
    obtain ⟨found', log', htimeline', rfl⟩ := scan_eq_ok hhandlers hrun
    exact ⟨found', log', htimeline', rfl⟩

theorem alike_of_samePosts {now now' : Moment} {schedule schedule' : Schedule} {found : List Post}
    {log log' : List Log.Entry} (h : SamePosts config.postsPath (outputPlace t config) t t')
    (hfound : timelineOf t config.postsPath = .ok found) :
    Alike t config now now'
      { withComments config t with
        now, schedule, log, timeline := found.map (commented t), slugPlaces := slugPlacesOf found }
      { withComments config t' with
        now := now', schedule := schedule', log := log', timeline := found.map (commented t')
        slugPlaces := slugPlacesOf found } where
  config := ⟨rfl, rfl⟩
  now := ⟨rfl, rfl⟩
  deploys := ⟨rfl, rfl⟩
  posts := by
    show (found.map (commented t')).map Post.shown = (found.map (commented t)).map Post.shown
    rw [List.map_map, List.map_map]
    exact List.map_congr_left fun p hp => h.shown found hfound p hp
  slugs p hp := by
    obtain ⟨q, hq, rfl⟩ := List.mem_map.mp hp
    exact Slug.isName_of_isSlug ((timelineOf_fresh hfound).1 q hq).slug
  workDir := rfl
  trees := h.agree

/-- From trees with the same posts two buildings come to the same result and write the same. -/
theorem build_alike {now now' : Moment} {schedule schedule' : Schedule} {cancelled : Bool}
    {x x' : Except SiteError Unit} {s s' : Site} (hfail : config.failOnCommentError = false)
    (h : SamePosts config.postsPath (outputPlace t config) t t')
    (hrun : ({ withComments config t with now, schedule } : Site).run (Build.build cancelled) = (x, s))
    (hrun' : ({ withComments config t' with now := now', schedule := schedule' } : Site).run (Build.build cancelled) =
      (x', s')) : x' = x ∧ Ended t config now now' s s' := by
  rw [Build.build, run_bind] at hrun hrun'
  have hscan := run_scan (s := { withComments config t with now, schedule }) hfail rfl
  have hscan' := run_scan (s := { withComments config t' with now := now', schedule := schedule' }) hfail rfl
  obtain ⟨e, hfound, hr⟩ | ⟨found, log, hfound, hr⟩ := hscan
  · obtain ⟨e', hfound', hr'⟩ | ⟨found', log', hfound', -⟩ := hscan'
    · obtain rfl := Except.error.inj (hfound'.symm.trans (h.timeline.trans hfound))
      rw [hr] at hrun
      rw [hr'] at hrun'
      obtain ⟨rfl, rfl⟩ := Prod.mk.inj hrun
      obtain ⟨rfl, rfl⟩ := Prod.mk.inj hrun'
      exact ⟨rfl, [], Or.inl h.agree⟩
    · cases hfound'.symm.trans (h.timeline.trans hfound)
  · obtain ⟨e', hfound', -⟩ | ⟨found', log', hfound', hr'⟩ := hscan'
    · cases hfound'.symm.trans (h.timeline.trans hfound)
    · obtain rfl := Except.ok.inj (hfound'.symm.trans (h.timeline.trans hfound))
      rw [hr] at hrun
      rw [hr'] at hrun'
      exact (tandem_render cancelled).ends (alike_of_samePosts h hfound) hrun hrun'

/-! ### Degradation -/

/-- The same files stand below the output directory, with the same content; but two feeds without items each tell when
they were written. Paths are looked up as in the tree that the buildings started from. -/
def SameOutput (start : Tree) (config : Config) (now now' : Moment) (t t' : Tree) : Prop :=
  ∀ q, outputPlace start config <+: q → t'.get? q = t.get? q ∨
    q = feedPlaceOf start config ∧ ∃ feed : Feed, feed.items = [] ∧ t.get? q = some (.file (feed.rss now)) ∧
      t'.get? q = some (.file (feed.rss now'))

theorem Ended.sameOutput {now now' : Moment} {s s' : Site} (h : Ended t config now now' s s') :
    SameOutput t config now now' s.tree s'.tree := by
  obtain ⟨posts, hagree⟩ := h
  have hne : feedPlaceOf t config ≠ [] := List.append_ne_nil_of_right_ne_nil _ (by decide)
  intro q hq
  by_cases hitems : (Feed.ofPosts config posts config.feedLimit).items = []
  · obtain hsame | ⟨heq, hfeed, hfeed'⟩ := hagree.get? hne (Or.inr hq)
    · exact Or.inl hsame
    · exact Or.inr ⟨heq, _, hitems, hfeed, hfeed'⟩
  · rw [Feed.rss_eq_of_items hitems now now'] at hagree
    exact Or.inl ((hagree.agreeAt hne).same q (Or.inr hq))

/-- What is apart from the posts is apart from their comments. -/
theorem comments_apart_of_posts (hl : t.LinkFree) (hwf : t.WellFormed) (hfound : findPosts t root = .ok paths)
    (hposts : ¬ Tree.Around (t.place root) base)
    (hfile : t.isDir root = true ∨ ¬ Tree.Around base (t.place (commentsBeside root))) :
    ∀ path ∈ paths, ¬ Tree.Around base (t.place (commentsBeside path)) := by
  intro path hpath
  obtain ⟨-, -, hall⟩ | ⟨dir, n, content, -, hfind, -, hall⟩ := findPosts_eq_ok hl hwf hfound
  · obtain ⟨names, -, -, hpost⟩ := hall path hpath
    obtain ⟨init, last, -, -, hplace, -⟩ := hpost.comments
    have hbegins : t.place root <+: t.place (commentsBeside path) := hplace ▸ List.prefix_append _ _
    rintro (haround | haround)
    · exact hposts (Or.inr (hbegins.trans haround))
    · exact hposts (List.prefix_or_prefix_of_prefix haround hbegins)
  · -- The posts are a single one, and it is no directory.
    rw [(hall path hpath).1]
    refine hfile.resolve_left fun hdir => ?_
    obtain ⟨-, -, -, hget⟩ := File.Tree.find_eq_ok hl hfind
    unfold File.Tree.isDir at hdir
    split at hdir
    · rename_i hfind'
      obtain ⟨-, rfl, -, hget'⟩ := File.Tree.find_eq_ok hl hfind'
      rw [hget] at hget'
      cases hget'
    · cases hdir

/-- A clean path of the posts does not lead through comments. -/
theorem comments_not_come_by (hl : t.LinkFree) (hwf : t.WellFormed) (hclean : Path.clean root = root) :
    ∀ path ∈ brokenPosts t root, ∀ q ∈ t.comesBy root, ¬ t.place (commentsBeside path) <+: q := by
  intro path hpath q hq hbegins
  unfold brokenPosts at hpath
  split at hpath
  swap
  · cases hpath
  rename_i paths hfound
  obtain ⟨dir, hposts⟩ := exists_postsAt hl hwf hfound
  obtain ⟨names, hpost⟩ := hposts.post path (List.mem_of_mem_filter hpath)
  obtain ⟨init, last, rfl, hlast, hplace, -⟩ := hpost.comments
  have hfar := hpost.trail.comments_not_around hpost.trail hlast.2.2.2
  rw [← hplace, ← hpost.place] at hfar
  exact hfar (Or.inl ((hbegins.trans (File.Tree.prefix_of_mem_comesBy hclean hq)).trans
    (hposts.below path (List.mem_of_mem_filter hpath))))

/-- If broken comments do not stop the building, it has the same result and writes the same as without them. -/
theorem build_degrades {now now' : Moment} {schedule schedule' : Schedule} (hl : t.LinkFree) (hwf : t.WellFormed)
    (hfail : config.failOnCommentError = false)
    (hplain : ∀ paths, findPosts t config.postsPath = .ok paths → ∀ path ∈ paths, File.Pattern.hasSigns path = false)
    (hposts : ¬ Tree.Around (t.place config.postsPath) (outputPlace t config))
    (hfile : t.isDir config.postsPath = true ∨
      ¬ Tree.Around (outputPlace t config) (t.place (commentsBeside config.postsPath)))
    (hway : ∀ path ∈ brokenPosts t config.postsPath, ∀ q ∈ t.comesBy config.postsPath,
      ¬ t.place (commentsBeside path) <+: q)
    (cancelled : Bool) :
    let r := ({ withComments config t with now, schedule } : Site).run (Build.build cancelled)
    let r' := ({ withComments config (withoutBroken t config.postsPath) with
      now := now', schedule := schedule' } : Site).run (Build.build cancelled)
    r'.1 = r.1 ∧ SameOutput t config now now' r.2.tree r'.2.tree := by
  have hsame : SamePosts config.postsPath (outputPlace t config) t (withoutBroken t config.postsPath) := by
    cases hfound : findPosts t config.postsPath with
    | error e =>
      rw [withoutBroken, brokenPosts, hfound]
      exact ⟨rfl, fun _ _ _ _ => rfl, hl.agreeAt_refl _⟩
    | ok paths =>
      have hapart := comments_apart_of_posts hl hwf hfound hposts hfile
      exact (unaffected_withoutBroken hl hwf hfound (hplain paths hfound) hway hapart).samePosts hfound
  intro r r'
  have hrun : ({ withComments config t with now, schedule } : Site).run (Build.build cancelled) = (r.1, r.2) := rfl
  have hrun' : ({ withComments config (withoutBroken t config.postsPath) with
      now := now', schedule := schedule' } : Site).run (Build.build cancelled) = (r'.1, r'.2) := rfl
  obtain ⟨hresult, hended⟩ := build_alike hfail hsame hrun hrun'
  exact ⟨hresult, hended.sameOutput⟩

/-- Broken comments are to stop nothing. -/
def lenient : Config := { failOnCommentError := false }

/-- A post with a file where its comments should be, and what an earlier building has left. -/
def spoiled : Tree where
  entries :=
    [(["posts"], .dir), (["posts", "a.md"], .file "Hello."), (["posts", "a.md.comments"], .file "?"), (["output"], .dir),
      (["output", "index.html"], .file "old")]

theorem findPosts_of_names (hdir : t.find false root = .ok (base, .dir)) {name name' : Text}
    (hnames : t.names base = [name, name']) {n : Nat} (hdepth : t.depth = n) :
    findPosts t root = .ok (postsUnder t n base root name ++ (postsUnder t n base root name' ++ [])) := by
  rw [findPosts, hdir, hdepth]
  simp only [postPaths_succ, hnames, List.flatMap_cons, List.flatMap_nil]

theorem findPosts_spoiled : findPosts spoiled "posts" = .ok ["posts/a.md"] := by
  have hnames : spoiled.names ["posts"] = ["a.md", "a.md.comments"] :=
    Text.mergeSort_eq_of_perm (List.Perm.refl _) (by decide)
  rw [findPosts_of_names (by decide) hnames (n := 2) (by decide)]
  decide

theorem spoiled_degrades :
    brokenPosts spoiled "posts" = ["posts/a.md"] ∧
    (let r := ({ withComments lenient spoiled with now := Moment.zero, schedule := [] } : Site).run (Build.build false)
     let r' := ({ withComments lenient (withoutBroken spoiled lenient.postsPath) with
       now := Moment.zero, schedule := [] } : Site).run (Build.build false)
     r'.1 = r.1 ∧ SameOutput spoiled lenient Moment.zero Moment.zero r.2.tree r'.2.tree) := by
  have hl : spoiled.LinkFree := Tree.linkFree_of_entries (by simp [spoiled])
  have hwf : spoiled.WellFormed := ⟨by decide, by decide⟩
  have hplain : ∀ paths, findPosts spoiled lenient.postsPath = .ok paths →
      ∀ path ∈ paths, File.Pattern.hasSigns path = false := by
    intro paths hpaths
    obtain rfl := Except.ok.inj (findPosts_spoiled.symm.trans hpaths)
    decide
  have hway := comments_not_come_by hl hwf (show Path.clean lenient.postsPath = lenient.postsPath by decide)
  refine ⟨?_, build_degrades hl hwf rfl hplain (by decide) (Or.inl (by decide)) hway false⟩
  rw [brokenPosts, findPosts_spoiled]
  decide +kernel

/-! ### Borrowed comments -/

/-- A post that is a link to where its comments should be. -/
def borrowed : Tree where
  entries :=
    [(["posts"], .dir), (["posts", "a.md"], .link "a.md.comments"), (["posts", "a.md.comments"], .file "Hello.")]

def borrowedPost : Post := { sourcePath := "posts/a.md", title := "a", slug := "a", content := "Hello." }

theorem findPosts_borrowed : findPosts borrowed "posts" = .ok ["posts/a.md"] := by
  have hnames : borrowed.names ["posts"] = ["a.md", "a.md.comments"] :=
    Text.mergeSort_eq_of_perm (List.Perm.refl _) (by decide)
  rw [findPosts_of_names (by decide) hnames (n := 2) (by decide)]
  decide

theorem timelineOf_borrowed : timelineOf borrowed "posts" = .ok [borrowedPost] := by
  rw [timelineOf, readPosts, findPosts_borrowed]
  cbv

theorem withoutBroken_borrowed :
    withoutBroken borrowed "posts" = { entries := [(["posts"], .dir), (["posts", "a.md"], .link "a.md.comments")] } := by
  have hbroken : brokenPosts borrowed "posts" = ["posts/a.md"] := by
    rw [brokenPosts, findPosts_borrowed]
    decide +kernel
  rw [withoutBroken, hbroken]
  rfl

theorem run_build_of_timeline {s : Site} {found : List Post} (h : timelineOf s.tree s.config.postsPath = .ok found)
    (cancelled : Bool) :
    s.run (Build.build cancelled) =
      ((s.scannedTo found).note
        { level := .info, message := "scanned posts"
          fields := [("dir", .text s.config.postsPath), ("posts", .int found.length)] }).run
        (Build.emit scanned >>= fun _ => Build.render cancelled) := by
  rw [Build.build, run_bind, run_bind, Build.scan, run_get_bind, run_lift_bind, h]
  simp only [run_change_bind, run_note_bind]
  rfl

/-- A single post, and an output directory where its comments should be. -/
def occupied : Tree where
  entries := [(["a.md"], .file "Hello."), (["a.md.comments"], .file "?")]

def occupying : Config := { failOnCommentError := false, postsDir := "a.md", outputDir := "a.md.comments/out" }

/-- A post with comments that cannot be loaded. -/
def detoured : Tree where
  entries :=
    [(["posts"], .dir), (["posts", "a.md"], .file "Hello."), (["posts", "a.md.comments"], .dir),
      (["posts", "a.md.comments", "1.yml"], .file "?")]

/-- The path of the posts leads through comments. -/
def detouring : Config := { failOnCommentError := false, postsDir := "/posts/a.md.comments/.." }

def detouredPost : Post := { sourcePath := "/posts/a.md", title := "a", slug := "a", content := "Hello." }

theorem findPosts_detoured : findPosts detoured detouring.postsPath = .ok ["/posts/a.md"] := by
  have hnames : detoured.names ["posts"] = ["a.md", "a.md.comments"] :=
    Text.mergeSort_eq_of_perm (List.Perm.refl _) (by decide)
  rw [findPosts_of_names (by decide) hnames (n := 3) (by decide)]
  decide

theorem timelineOf_detoured : timelineOf detoured detouring.postsPath = .ok [detouredPost] := by
  rw [timelineOf, readPosts, findPosts_detoured]
  cbv

theorem withoutBroken_detoured :
    withoutBroken detoured detouring.postsPath = { entries := [(["posts"], .dir), (["posts", "a.md"], .file "Hello.")] } := by
  have hbroken : brokenPosts detoured detouring.postsPath = ["/posts/a.md"] := by
    rw [brokenPosts, findPosts_detoured]
    decide +kernel
  rw [withoutBroken, hbroken]
  rfl

/-- The post is gone with the comments that it borrows, the output directory can be made where they were, and there is no
way through them any more. -/
theorem broken_not_absent :
    (findPosts borrowed lenient.postsPath = .ok ["posts/a.md"] ∧ File.Pattern.hasSigns "posts/a.md" = false ∧
      ¬ Tree.Around (borrowed.place lenient.postsPath) (outputPlace borrowed lenient) ∧
      ((withComments lenient borrowed).run (Build.build false)).1 = .ok () ∧
      ((withComments lenient (withoutBroken borrowed lenient.postsPath)).run (Build.build false)).1 ≠ .ok ()) ∧
    (occupied.LinkFree ∧ findPosts occupied occupying.postsPath = .ok ["a.md"] ∧
      File.Pattern.hasSigns "a.md" = false ∧
      ¬ Tree.Around (occupied.place occupying.postsPath) (outputPlace occupied occupying) ∧
      ((withComments occupying occupied).run (Build.build false)).1 ≠ .ok () ∧
      ((withComments occupying (withoutBroken occupied occupying.postsPath)).run (Build.build false)).1 = .ok ()) ∧
    (detoured.LinkFree ∧ findPosts detoured detouring.postsPath = .ok ["/posts/a.md"] ∧
      File.Pattern.hasSigns "/posts/a.md" = false ∧
      ¬ Tree.Around (detoured.place detouring.postsPath) (outputPlace detoured detouring) ∧
      ((withComments detouring detoured).run (Build.build false)).1 = .ok () ∧
      ((withComments detouring (withoutBroken detoured detouring.postsPath)).run (Build.build false)).1 ≠ .ok ()) := by
  refine ⟨⟨findPosts_borrowed, by decide, by decide, ?_, ?_⟩,
    ⟨Tree.linkFree_of_entries (by simp [occupied]), by decide, by decide, by decide, ?_, ?_⟩,
    ⟨Tree.linkFree_of_entries (by simp [detoured]), findPosts_detoured, by decide, by decide, ?_, ?_⟩⟩
  · rw [run_build_of_timeline (s := withComments lenient borrowed) timelineOf_borrowed]
    decide +kernel
  · rw [show lenient.postsPath = Text.ofString "posts" by decide, withoutBroken_borrowed]
    decide +kernel
  · decide +kernel
  · decide +kernel
  · rw [run_build_of_timeline (s := withComments detouring detoured) timelineOf_detoured]
    decide +kernel
  · rw [withoutBroken_detoured]
    decide +kernel

end Site

end Marginalia
