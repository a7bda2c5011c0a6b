import Mathlib
import Marginalia.Proofs.Comment.Directory
import Marginalia.Proofs.Site.Rescanning

/-!
What the comments of a directory are, in any tree, with links or without, and whatever signs stand in the path of the
directory. No pattern finds a path twice, and no name has the endings of both patterns. So the paths that are found differ,
and sorted they ascend strictly. The files are read in that order up to the first that cannot be read, and that is the
first in the order of octets, for whichever pattern it was found. A path that is no pattern at all finds nothing, and then
that is the error.
-/

namespace Marginalia

/-- A list is gone through up to the first that fails. -/
theorem exists_first_of_mapM {α β ε : Type} {f : α → Except ε β} {e : ε} : ∀ {xs : List α}, xs.mapM f = .error e →
    ∃ before x behind, xs = before ++ x :: behind ∧ (∀ y ∈ before, ∃ z, f y = .ok z) ∧ f x = .error e
  | [], h => by cases h
  | x :: xs, h => by
    rw [List.mapM_cons] at h
    cases hx : f x with
    | error e' =>
      simp only [hx, bind, Except.bind, Except.error.injEq] at h
      exact ⟨[], x, xs, rfl, by simp, h ▸ hx⟩
    | ok z =>
      have htail : xs.mapM f = .error e := by
        cases hxs : xs.mapM f <;> simp_all [bind, Except.bind, pure, Except.pure]
      obtain ⟨before, y, behind, rfl, hbefore, hy⟩ := exists_first_of_mapM htail
      exact ⟨x :: before, y, behind, rfl, by simpa using ⟨⟨z, hx⟩, hbefore⟩, hy⟩

namespace File

namespace Pattern

variable {t : Tree} {pieces : List Piece} {pattern dir path : Text} {found : List Text} {fuel : Nat}

/-! ### What a pattern finds -/

/-- The parts of the path of an entry. -/
theorem cutLastName_of_mem_namesAt {name : Text} (hwf : t.WellFormed) (h : name ∈ t.namesAt dir) :
    cutLastName (Path.join [dir, name]) = (Path.clean dir, name) := by
  have hn : Path.IsName name := Tree.isName_of_mem_namesAt hwf h
  rw [Path.join_name hn, cutLastName_lead hn]

/-- What is found in a directory stands there under a name that fits. -/
theorem mem_inDirectory (h : path ∈ inDirectory t pieces dir) :
    ∃ name ∈ t.namesAt dir, fits pieces name = true ∧ path = Path.join [dir, name] := by
  obtain ⟨name, hname, rfl⟩ := List.mem_map.mp h
  obtain ⟨hname, hfits⟩ := List.mem_filter.mp hname
  exact ⟨name, hname, hfits, rfl⟩

theorem nodup_inDirectory (hwf : t.WellFormed) (pieces : List Piece) (dir : Text) : (inDirectory t pieces dir).Nodup := by
  have hnames : (t.namesAt dir).Nodup := by
    unfold Tree.namesAt
    split
    · exact hwf.nodup_names _
    · exact List.nodup_nil
  refine (hnames.filter _).map_on ?_
  intro a ha b hb hab
  rw [Path.join_name (Tree.isName_of_mem_namesAt hwf (List.mem_of_mem_filter ha)),
    Path.join_name (Tree.isName_of_mem_namesAt hwf (List.mem_of_mem_filter hb))] at hab
  exact List.append_cancel_left hab

/-- A pattern with signs finds what fits its last part in the directories that the part before it stands for: itself, or
those that it finds if there are signs in it too. -/
theorem paths?_cases {name : Text} (hcut : cutLastName pattern = (dir, name)) (h : paths? t fuel pattern = some found) :
    (hasSigns pattern = false ∧ (found = [pattern] ∨ found = [])) ∨
    ∃ pieces dirs, pieces? name.length name = some pieces ∧ found = dirs.flatMap (inDirectory t pieces) ∧
      (dirs = [dir] ∨ hasSigns dir = true ∧ ∃ k < fuel, paths? t k dir = some dirs) := by
  cases fuel with
  | zero => cases h
  | succ fuel =>
    rw [paths?, hcut] at h
    obtain ⟨-, -, h⟩ := Option.bind_eq_some_iff.mp h
    split at h
    · rename_i hsigns
      refine Or.inl ⟨by simpa using hsigns, ?_⟩
      split at h
      · exact Or.inl (Option.some.inj h).symm
      · exact Or.inr (Option.some.inj h).symm
    · obtain ⟨pieces, hpieces, h⟩ := Option.bind_eq_some_iff.mp h
      refine Or.inr ⟨pieces, ?_⟩
      split at h
      · exact ⟨[dir], hpieces, by simpa using (Option.some.inj h).symm, Or.inl rfl⟩
      · rename_i hsigns
        obtain ⟨dirs, hdirs, h⟩ := Option.bind_eq_some_iff.mp h
        exact ⟨dirs, hpieces, (Option.some.inj h).symm, Or.inr ⟨by simpa using hsigns, fuel, by omega, hdirs⟩⟩

/-- No pattern finds a path twice, and what is found by signs is clean. -/
theorem nodup_paths? (hwf : t.WellFormed) (h : paths? t fuel pattern = some found) :
    found.Nodup ∧ (hasSigns pattern = true → ∀ p ∈ found, Path.clean p = p) := by
  induction fuel using Nat.strong_induction_on generalizing pattern found with
  | _ fuel ih =>
    rcases paths?_cases rfl h with ⟨hsigns, rfl | rfl⟩ | ⟨pieces, dirs, -, rfl, hdirs⟩
    · simp [hsigns]
    · simp
    · have hdistinct : dirs.Pairwise fun a b => Path.clean a ≠ Path.clean b := by
        rcases hdirs with rfl | ⟨hsigns, k, hk, hdirs⟩
        · simp
        · obtain ⟨hnodup, hclean⟩ := ih k hk hdirs
          refine hnodup.imp_of_mem fun {a b} ha hb hab => ?_
          rwa [hclean hsigns a ha, hclean hsigns b hb]
      constructor
      · refine List.nodup_flatMap.mpr ⟨fun dir _ => nodup_inDirectory hwf pieces dir, ?_⟩
        refine hdistinct.imp fun {a b} hab p ha hb => hab ?_
        -- The directory can be read off the path.
        obtain ⟨m, hm, -, rfl⟩ := mem_inDirectory ha
        obtain ⟨k, hk, -, heq⟩ := mem_inDirectory hb
        have hcut := cutLastName_of_mem_namesAt hwf hm
        rw [heq, cutLastName_of_mem_namesAt hwf hk] at hcut
        exact (Prod.mk.inj hcut).1.symm
      · intro _ p hp
        obtain ⟨dir, -, hp⟩ := List.mem_flatMap.mp hp
        obtain ⟨name, hname, -, rfl⟩ := mem_inDirectory hp
        exact Path.clean_join (List.cons_ne_nil _ _) (by simpa using (Tree.isName_of_mem_namesAt hwf hname).1)

/-- What a star with an ending finds stands in a directory, under a name with that ending. -/
theorem mem_glob?_star (ending : Text) (hending : PlainEnding ending)
    (hname : Path.IsName (('*' : UInt8) :: ending)) (h : t.glob? (Path.join [dir, ('*' : UInt8) :: ending]) = some found)
    (hpath : path ∈ found) :
    ∃ above name, name ∈ t.namesAt above ∧ Text.endsWith name ending = true ∧ path = Path.join [above, name] := by
  have hsigns : hasSigns (Path.lead dir ++ ('*' : UInt8) :: ending) = true := by simp [hasSigns]
  rw [Path.join_name hname] at h
  rcases paths?_cases (cutLastName_lead hname) h with ⟨hplain, -⟩ | ⟨pieces, dirs, hpieces, rfl, -⟩
  · simp [hsigns] at hplain
  · obtain ⟨above, -, hpath⟩ := List.mem_flatMap.mp hpath
    obtain ⟨name, hmem, hfits, rfl⟩ := mem_inDirectory hpath
    have hends := endsWith_of_fits hending (by simp [Text.endsWith, List.suffix_cons]) hpieces hfits
    exact ⟨above, name, hmem, hends, rfl⟩

end Pattern

end File

namespace Comment

variable {t : File.Tree} {dir path : Text} {paths : List Text} {found : Option (List Comment)} {e : LoadError}

/-! ### The files of a directory -/

/-- The paths that the patterns of comment files find for a directory; nothing if its path makes them ill-formed. -/
def candidates? (t : File.Tree) (dir : Text) : Option (List Text) :=
  (filePatterns.mapM fun pattern => t.glob? (Path.join [dir, pattern])).map List.flatten

theorem candidates?_eq_some_iff : candidates? t dir = some paths ↔ ∃ yml yaml,
    t.glob? (Path.join [dir, "*.yml"]) = some yml ∧ t.glob? (Path.join [dir, "*.yaml"]) = some yaml ∧
      paths = yml ++ yaml := by
  simp only [candidates?, filePatterns, List.mapM_cons, List.mapM_nil, Option.bind_eq_bind, Option.pure_def,
    Option.map_eq_some_iff, Option.bind_eq_some_iff, Option.some.injEq]
  constructor
  · rintro ⟨_, ⟨yml, hyml, _, ⟨yaml, hyaml, _, rfl, rfl⟩, rfl⟩, rfl⟩
    exact ⟨yml, yaml, hyml, hyaml, by simp⟩
  · rintro ⟨yml, yaml, hyml, hyaml, rfl⟩
    exact ⟨_, ⟨yml, hyml, _, ⟨yaml, hyaml, _, rfl, rfl⟩, rfl⟩, by simp⟩

/-- No path is found twice, by one pattern or by both. -/
theorem nodup_candidates (hwf : t.WellFormed) (h : candidates? t dir = some paths) : paths.Nodup := by
  obtain ⟨yml, yaml, hyml, hyaml, rfl⟩ := candidates?_eq_some_iff.mp h
  refine List.nodup_append.mpr ⟨(File.Pattern.nodup_paths? hwf hyml).1, (File.Pattern.nodup_paths? hwf hyaml).1, ?_⟩
  rintro path hpath _ hpath' rfl
  obtain ⟨above, name, hname, hends, rfl⟩ :=
    File.Pattern.mem_glob?_star ".yml" ⟨by decide, by decide⟩ (by decide) hyml hpath
  obtain ⟨above', name', hname', hends', heq⟩ :=
    File.Pattern.mem_glob?_star ".yaml" ⟨by decide, by decide⟩ (by decide) hyaml hpath'
  -- The two would be one name with both endings.
  have hcut := File.Pattern.cutLastName_of_mem_namesAt hwf hname
  rw [heq, File.Pattern.cutLastName_of_mem_namesAt hwf hname'] at hcut
  rw [(Prod.mk.inj hcut).2] at hends'
  simp [endings_disjoint hends] at hends'

theorem loadDirectory_of_dir (hdir : t.stat dir = .ok .dir) : loadDirectory t dir =
    match candidates? t dir with
    | none => .error .badPattern
    | some paths => ((paths.mergeSort fun a b => Text.order a b != .gt).mapM (load t)).map some := by
  rw [loadDirectory_def, hdir, candidates?]
  cases filePatterns.mapM fun pattern => t.glob? (Path.join [dir, pattern]) <;> rfl

/-- A file that cannot be read is never blamed on its pattern. -/
theorem load_ne_badPattern (h : load t path = .error e) : e ≠ .badPattern := by
  rintro rfl
  rw [load_def] at h
  split at h
  · split at h <;> cases h
  · split at h <;> cases h

/-- What is loaded from files with different paths: their comments, one for each, in the order of the paths, or if some of
them cannot be read the error of the first of these, and no comments. -/
structure Gathers (t : File.Tree) (paths : List Text) (result : Except LoadError (Option (List Comment))) : Prop where
  distinct : paths.Nodup
  loaded : (∀ path ∈ paths, ∃ c, load t path = .ok c) → ∃ sorted cs, sorted.Perm paths ∧
    sorted.Pairwise (fun a b => Text.order a b = .lt) ∧ List.Forall₂ (fun path c => load t path = .ok c) sorted cs ∧
    result = .ok (some cs)
  refused : (¬ ∀ path ∈ paths, ∃ c, load t path = .ok c) → ∃ path ∈ paths, ∃ e, load t path = .error e ∧
    (∀ other ∈ paths, Text.order other path = .lt → ∃ c, load t other = .ok c) ∧ result = .error e

open scoped Orders in
theorem gathers_sorted (h : paths.Nodup) :
    Gathers t paths (((paths.mergeSort fun a b => Text.order a b != .gt).mapM (load t)).map some) := by
  have hperm := List.mergeSort_perm paths fun a b => Text.order a b != .gt
  have hascends := Text.ascends_mergeSort h
  generalize paths.mergeSort (fun a b => Text.order a b != .gt) = sorted at hperm hascends ⊢
  cases hload : sorted.mapM (load t) with
  | ok cs =>
    have hloaded := mapM_eq_ok_iff.mp hload
    refine ⟨h, fun _ => ⟨sorted, cs, hperm, hascends, hloaded, rfl⟩, fun hnot => absurd ?_ hnot⟩
    intro path hpath
    obtain ⟨c, -, hc⟩ := exists_of_mem_right hloaded.flip (hperm.mem_iff.mpr hpath)
    exact ⟨c, hc⟩
  | error e =>
    obtain ⟨before, path, behind, rfl, hbefore, hpath⟩ := exists_first_of_mapM hload
    have hmem : path ∈ paths := hperm.mem_iff.mp (by simp)
    refine ⟨h, fun hall => ?_, fun _ => ⟨path, hmem, e, hpath, fun other hother hlt => ?_, rfl⟩⟩
    · obtain ⟨c, hc⟩ := hall path hmem
      simp [hpath] at hc
    · -- What comes before the path in order stands before it in the sorted list.
      rcases List.mem_append.mp (hperm.mem_iff.mpr hother) with hin | hin
      · exact hbefore other hin
      · have hlater := (List.pairwise_cons.mp (List.pairwise_append.mp hascends).2.1).1
        have hother' := (Text.order_compares other path).eq_lt.mp hlt
        rcases List.mem_cons.mp hin with rfl | hin
        · exact absurd hother' (lt_irrefl other)
        · exact absurd hother' ((Text.order_compares path other).eq_lt.mp (hlater other hin)).asymm

/-- In any tree: the comments of a directory are gathered from the paths that its patterns find. If its path makes them
ill-formed there are none, and that is the error. -/
theorem loadDirectory_gathers (hwf : t.WellFormed) (hdir : t.stat dir = .ok .dir) :
    (∀ paths, candidates? t dir = some paths → Gathers t paths (loadDirectory t dir)) ∧
    (candidates? t dir = none → loadDirectory t dir = .error .badPattern) := by
  rw [loadDirectory_of_dir hdir]
  constructor
  · intro paths hpaths
    rw [hpaths]
    exact gathers_sorted (nodup_candidates hwf hpaths)
  · intro hnone
    rw [hnone]

/-- A directory with a comment, a link that leads nowhere, and an empty file. -/
def interleaved : File.Tree where
  entries :=
    [(["posts"], .dir), (["posts", "a.md.comments"], .dir), (["posts", "a.md.comments", "c.yml"], .link "gone"),
      (["posts", "a.md.comments", "b.yaml"], .file []), (["posts", "a.md.comments", "a.yml"], .file ownSource)]

/-- What the patterns find in it, those with the shorter ending first. -/
def interleavedPaths : List Text :=
  ["posts/a.md.comments/a.yml", "posts/a.md.comments/c.yml", "posts/a.md.comments/b.yaml"]

theorem candidates?_interleaved : candidates? interleaved "posts/a.md.comments" = some interleavedPaths := by
  have hnames : interleaved.namesAt "posts/a.md.comments" = ["a.yml", "b.yaml", "c.yml"] := by
    have hfind : interleaved.find true "posts/a.md.comments" = .ok (["posts", "a.md.comments"], .dir) := by decide
    have hsorted : interleaved.names ["posts", "a.md.comments"] = ["a.yml", "b.yaml", "c.yml"] :=
      Text.mergeSort_eq_of_perm (by decide) (by decide)
    rw [File.Tree.namesAt, hfind, ← hsorted]
  have hyml : ∀ t : File.Tree, t.glob? (Path.join ["posts/a.md.comments", "*.yml"]) =
      some (File.Pattern.inDirectory t (.star :: (Text.ofString ".yml").map .octet) "posts/a.md.comments") := fun _ => rfl
  have hyaml : ∀ t : File.Tree, t.glob? (Path.join ["posts/a.md.comments", "*.yaml"]) =
      some (File.Pattern.inDirectory t (.star :: (Text.ofString ".yaml").map .octet) "posts/a.md.comments") := fun _ => rfl
  refine candidates?_eq_some_iff.mpr ⟨_, _, hyml _, hyaml _, ?_⟩
  rw [File.Pattern.inDirectory, File.Pattern.inDirectory, hnames]
  decide

/-- The empty file is found last, and is the first by its path that cannot be read. -/
theorem interleaved_gathers :
    interleaved.WellFormed ∧ interleaved.stat "posts/a.md.comments" = .ok .dir ∧
    candidates? interleaved "posts/a.md.comments" = some interleavedPaths ∧
    Gathers interleaved interleavedPaths (loadDirectory interleaved "posts/a.md.comments") ∧
    loadDirectory interleaved "posts/a.md.comments" = .error (.comment "posts/a.md.comments/b.yaml" .empty) := by
  have hwf : interleaved.WellFormed := ⟨by decide, by decide⟩
  have hdir : interleaved.stat "posts/a.md.comments" = .ok .dir := by decide
  have hgathers := (loadDirectory_gathers hwf hdir).1 _ candidates?_interleaved
  have hlast : load interleaved "posts/a.md.comments/b.yaml" = .error (.comment "posts/a.md.comments/b.yaml" .empty) := by
    have hread : interleaved.readFile "posts/a.md.comments/b.yaml" = .ok [] := by decide
    have hparse : parse [] = .error .empty := by cbv
    simp only [load_def, hread, hparse]
  have hfirst : ∃ c, load interleaved "posts/a.md.comments/a.yml" = .ok c := by
    obtain ⟨c, hparse, -⟩ := exists_of_map_id parse_ownSource
    have hread : interleaved.readFile "posts/a.md.comments/a.yml" = .ok ownSource := by decide
    exact ⟨c, by simp only [load_def, hread, hparse]⟩
  refine ⟨hwf, hdir, candidates?_interleaved, hgathers, ?_⟩
  obtain ⟨path, hpath, e, he, hbefore, hresult⟩ := hgathers.refused fun hall => by
    obtain ⟨c, hc⟩ := hall "posts/a.md.comments/b.yaml" (by decide)
    simp [hlast] at hc
  simp only [interleavedPaths, List.mem_cons, List.not_mem_nil, or_false] at hpath
  rcases hpath with rfl | rfl | rfl
  · obtain ⟨c, hc⟩ := hfirst
    simp [he] at hc
  · obtain ⟨c, hc⟩ := hbefore "posts/a.md.comments/b.yaml" (by decide) (by decide)
    simp [hlast] at hc
  · obtain rfl := Except.error.inj (he.symm.trans hlast)
    exact hresult

/-! ### A path with an open bracket -/

/-- One comment in a directory whose path holds a bracket that is not closed. -/
def openBracket : File.Tree where
  entries :=
    [(["posts"], .dir), (["posts", "a[.md.comments"], .dir), (["posts", "a[.md.comments", "1.yml"], .file ownSource)]

theorem openBracket_wellFormed : openBracket.WellFormed := ⟨by decide, by decide⟩

/-- The path of the directory is no pattern, so nothing is loaded, not even the files that could be: whichever paths were
found, these are not their comments, nor is this the error of one of them. -/
theorem openBracket_gathers_nothing :
    openBracket.WellFormed ∧ openBracket.stat "posts/a[.md.comments" = .ok .dir ∧
    ∀ paths, ¬ Gathers openBracket paths (loadDirectory openBracket "posts/a[.md.comments") := by
  have hdir : openBracket.stat "posts/a[.md.comments" = .ok .dir := by decide
  have hnone : candidates? openBracket "posts/a[.md.comments" = none := by decide +kernel
  have hload : loadDirectory openBracket "posts/a[.md.comments" = .error .badPattern := by
    rw [loadDirectory_of_dir hdir, hnone]
  refine ⟨openBracket_wellFormed, hdir, fun paths hgathers => ?_⟩
  rw [hload] at hgathers
  by_cases hall : ∀ path ∈ paths, ∃ c, load openBracket path = .ok c
  · obtain ⟨sorted, cs, -, -, -, hresult⟩ := hgathers.loaded hall
    cases hresult
  · obtain ⟨path, -, e, he, -, hresult⟩ := hgathers.refused hall
    exact load_ne_badPattern he (Except.error.inj hresult).symm

end Comment

end Marginalia
