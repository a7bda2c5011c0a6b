import Mathlib
import Marginalia.Proofs.Comment.Loading
import Marginalia.Proofs.File.Pattern

/-!
Which comments a directory has. If no sign of a pattern stands in its clean path, they are those of the files in it
with the endings of comment files, in the order of their names. A path with such signs is taken for a pattern of
directories, so that comments get lost, or come from other directories.
-/

namespace Marginalia

namespace Comment

variable {t : File.Tree} {dir path : Text} {c : Comment}

/-- Is this the name of a comment file? -/
def isFileName (name : Text) : Bool := Text.endsWith name ".yml" || Text.endsWith name ".yaml"

theorem load_eq_ok (hl : t.LinkFree) (h : load t path = .ok c) :
    ∃ content, t.get? (t.place path) = some (.file content) ∧ parse content = .ok c := by
  rw [load_def] at h
  split at h
  swap
  · split at h <;> cases h
  rename_i content hread
  split at h
  swap
  · cases h
  rename_i hparse
  obtain rfl := Except.ok.inj h
  refine ⟨content, ?_, hparse⟩
  unfold File.Tree.readFile at hread
  split at hread
  · cases hread
  · rename_i hfind
    obtain rfl := Except.ok.inj hread
    obtain ⟨-, rfl, -, hget⟩ := File.Tree.find_eq_ok hl hfind
    exact hget
  · cases hread

/-- No name has both endings. -/
theorem endings_disjoint {name : Text} (h : Text.endsWith name ".yml" = true) : Text.endsWith name ".yaml" = false := by
  rw [Bool.eq_false_iff]
  intro h'
  rw [Text.endsWith, List.isSuffixOf_iff_suffix] at h h'
  have hsuffix : Text.ofString ".yml" <:+ Text.ofString ".yaml" := List.suffix_of_suffix_length_le h h' (by decide)
  exact absurd hsuffix (by decide)

theorem filter_endings_perm (names : List Text) :
    (names.filter (Text.endsWith · ".yml") ++ names.filter (Text.endsWith · ".yaml")).Perm
      (names.filter isFileName) := by
  have hperm := List.filter_append_perm (Text.endsWith · ".yml") (names.filter isFileName)
  rw [List.filter_filter, List.filter_filter] at hperm
  have hyml : names.filter (fun n => Text.endsWith n ".yml" && isFileName n) = names.filter (Text.endsWith · ".yml") :=
    List.filter_congr fun n _ => by simpa [isFileName] using Or.inl
  have hyaml : names.filter (fun n => !Text.endsWith n ".yml" && isFileName n) =
      names.filter (Text.endsWith · ".yaml") := by
    refine List.filter_congr fun n _ => ?_
    cases h : Text.endsWith n ".yml" with
    | true => simp [endings_disjoint h]
    | false => simp [isFileName, h]
  rwa [hyml, hyaml] at hperm

theorem mapM_glob? {place : File.Place} (hl : t.LinkFree) (hwf : t.WellFormed)
    (hdir : t.find true dir = .ok (place, .dir)) (hplain : File.Pattern.hasSigns (Path.clean dir) = false) :
    (filePatterns.mapM fun pattern => t.glob? (Path.join [dir, pattern])) =
      some [((t.names place).filter (Text.endsWith · ".yml")).map (Path.lead dir ++ ·),
        ((t.names place).filter (Text.endsWith · ".yaml")).map (Path.lead dir ++ ·)] := by
  have hyml := File.Pattern.glob?_star hl hwf hdir hplain ".yml" (by decide) (by decide)
  have hyaml := File.Pattern.glob?_star hl hwf hdir hplain ".yaml" (by decide) (by decide)
  have hpatterns : filePatterns = [('*' : UInt8) :: Text.ofString ".yml", ('*' : UInt8) :: Text.ofString ".yaml"] := by
    decide
  rw [hpatterns, List.mapM_cons, hyml, List.mapM_cons, hyaml]
  rfl

/-- Sorted paths below a directory come in the order of the names. -/
theorem mergeSort_paths {place : File.Place} (hwf : t.WellFormed) (lead : Text) :
    ((((t.names place).filter (Text.endsWith · ".yml")).map (lead ++ ·) ++
      ((t.names place).filter (Text.endsWith · ".yaml")).map (lead ++ ·)).mergeSort fun a b => Text.order a b != .gt) =
      ((t.names place).filter isFileName).map (lead ++ ·) := by
  have hsorted := (hwf.names_ascend place).filter isFileName
  rw [← List.map_append]
  refine Text.mergeSort_eq_of_perm ((filter_endings_perm (t.names place)).map _) ?_
  refine List.pairwise_map.mpr (hsorted.imp fun hab => ?_)
  rw [Text.order_append]
  exact hab

/-- These are the comments of exactly the comment files in a directory, in the order of the names. -/
def DirectoryHolds (t : File.Tree) (dir : File.Place) (cs : List Comment) : Prop :=
  ∃ names : List Text, names.Pairwise (fun a b => Text.order a b = .lt) ∧
    (∀ name, name ∈ names ↔ (t.get? (dir ++ [name])).isSome = true ∧ isFileName name = true) ∧
    List.Forall₂ (fun name c => ∃ content, t.get? (dir ++ [name]) = some (.file content) ∧ parse content = .ok c)
      names cs

/-- If no sign of a pattern stands in the clean path of a directory, its comments are those of exactly the comment
files in it. -/
theorem loadDirectory_of_plain {found : Option (List Comment)} (hl : t.LinkFree) (hwf : t.WellFormed)
    (hdir : t.stat dir = .ok .dir) (hplain : File.Pattern.hasSigns (Path.clean dir) = false)
    (h : loadDirectory t dir = .ok found) :
    ∃ cs, found = some cs ∧ DirectoryHolds t (t.place dir) cs := by
  obtain ⟨place, hfind⟩ : ∃ place, t.find true dir = .ok (place, .dir) := by
    unfold File.Tree.stat at hdir
    split at hdir
    · rename_i place node hfind
      exact ⟨place, Except.ok.inj hdir ▸ hfind⟩
    · cases hdir
  obtain ⟨-, rfl, -, -⟩ := File.Tree.find_eq_ok hl hfind
  rw [loadDirectory_def, hdir, mapM_glob? hl hwf hfind hplain] at h
  simp only [List.flatten_cons, List.flatten_nil, List.append_nil, mergeSort_paths hwf, Except.map] at h
  split at h
  · cases h
  rename_i cs hload
  obtain rfl := Except.ok.inj h
  -- The paths come sorted by both patterns together, so they follow the names in the directory.
  refine ⟨cs, rfl, (t.names (t.place dir)).filter isFileName, (hwf.names_ascend _).filter _, ?_, ?_⟩
  · intro name
    rw [List.mem_filter, File.Tree.mem_names]
  · have hnames : ∀ name ∈ (t.names (t.place dir)).filter isFileName, Path.IsName name :=
      fun name hname => hwf.isName_of_mem_names (List.mem_of_mem_filter hname)
    have hloaded := List.forall₂_map_left_iff.mp (mapM_eq_ok_iff.mp hload)
    refine ((List.forall₂_and_left _ _).mpr ⟨hnames, hloaded⟩).imp fun name c ⟨hname, hc⟩ => ?_
    have hplace : t.place (Path.lead dir ++ name) = t.place dir ++ [name] := by
      rw [← Path.join_name hname]
      exact File.Tree.place_join (List.cons_ne_nil _ _) (List.forall_mem_singleton.mpr hname)
    rw [← hplace]
    exact load_eq_ok hl hc

/-! ### A path with brackets -/

def ownSource : Text := "_id: a\ndate: 2024\nmessage: b"

def otherSource : Text := "_id: x\ndate: 2024\nmessage: y"

/-- Two posts with comments, one of them with brackets in its name. -/
def brackets : File.Tree where
  entries :=
    [(["posts"], .dir), (["posts", "[a].md.comments"], .dir),
      (["posts", "[a].md.comments", "1.yml"], .file ownSource), (["posts", "a.md.comments"], .dir),
      (["posts", "a.md.comments", "2.yml"], .file otherSource)]

theorem brackets_linkFree : brackets.LinkFree := File.Tree.linkFree_of_entries (by simp [brackets])

theorem brackets_wellFormed : brackets.WellFormed := ⟨by decide, by decide⟩

open Yaml in
/-- The tokens of a comment with an id and a message. -/
def commentTokens (id message : Text) : TokenStream :=
  ⟨#[.blockMappingStart, .key, .scalar true "_id", .value, .scalar true id, .key, .scalar true "date", .value,
    .scalar true "2024", .key, .scalar true "message", .value, .scalar true message, .blockEnd, .streamEnd], false⟩

theorem parse_ownSource : (parse ownSource).map (·.id) = .ok ("a" : Text) := by
  have htokens : Yaml.TokenStream.ofSource (Yaml.Source.ofText ownSource) = commentTokens "a" "b" := by cbv
  simp only [parse_def, Yaml.readRecord, Yaml.Document.ofText, htokens]
  decide +kernel

theorem parse_otherSource : (parse otherSource).map (·.id) = .ok ("x" : Text) := by
  have htokens : Yaml.TokenStream.ofSource (Yaml.Source.ofText otherSource) = commentTokens "x" "y" := by cbv
  simp only [parse_def, Yaml.readRecord, Yaml.Document.ofText, htokens]
  decide +kernel

/-- A directory for which one file is found has the comment of that file. -/
theorem loadDirectory_of_path {content : Text} (hdir : t.stat dir = .ok .dir)
    (hglob : (filePatterns.mapM fun pattern => t.glob? (Path.join [dir, pattern])) = some [[path], []])
    (hread : t.readFile path = .ok content) (hparse : parse content = .ok c) :
    loadDirectory t dir = .ok (some [c]) := by
  have hload : load t path = .ok c := by
    rw [load_def, hread]
    simp only [hparse]
  rw [loadDirectory_def, hdir, hglob]
  simp only [List.flatten_cons, List.flatten_nil, List.append_nil, List.mergeSort_singleton]
  rw [mapM_eq_ok_iff.mpr (List.Forall₂.cons hload .nil)]
  rfl

/-- What the path with brackets finds when it is taken for a pattern: the other directory. -/
theorem glob?_brackets : brackets.glob? "posts/[a].md.comments" = some [Text.ofString "posts/a.md.comments"] := by
  have hnames : brackets.names ["posts"] = ["[a].md.comments", "a.md.comments"] :=
    Text.mergeSort_eq_of_perm (List.Perm.refl _) (by decide)
  have hfind : brackets.find true "posts" = .ok (["posts"], .dir) := by decide
  have hglob : ∀ t : File.Tree, t.glob? "posts/[a].md.comments" =
      some (((t.namesAt "posts").filter
        (File.Pattern.fits (.oneOf false [(97, 97)] :: (Text.ofString ".md.comments").map .octet))).map
        fun name => Path.join ["posts", name]) := fun _ => rfl
  rw [hglob, File.Tree.namesAt, hfind]
  simp only [hnames]
  decide

theorem mapM_glob?_brackets :
    (filePatterns.mapM fun pattern => brackets.glob? (Path.join ["posts/[a].md.comments", pattern])) =
      some [[Text.ofString "posts/a.md.comments/2.yml"], []] := by
  have hyml : ∀ t : File.Tree, t.glob? (Path.join ["posts/[a].md.comments", "*.yml"]) =
      (t.glob? "posts/[a].md.comments").map fun dirs =>
        dirs.flatMap (File.Pattern.inDirectory t (.star :: (Text.ofString ".yml").map .octet)) := fun _ => rfl
  have hyaml : ∀ t : File.Tree, t.glob? (Path.join ["posts/[a].md.comments", "*.yaml"]) =
      (t.glob? "posts/[a].md.comments").map fun dirs =>
        dirs.flatMap (File.Pattern.inDirectory t (.star :: (Text.ofString ".yaml").map .octet)) := fun _ => rfl
  rw [filePatterns, List.mapM_cons, List.mapM_cons, hyml, hyaml, glob?_brackets]
  decide +kernel

theorem exists_of_map_id {source id : Text} (h : (parse source).map (·.id) = .ok id) :
    ∃ c, parse source = .ok c ∧ c.id = id := by
  cases hparse : parse source with
  | error f => rw [hparse] at h; cases h
  | ok c =>
    rw [hparse] at h
    exact ⟨c, rfl, Except.ok.inj h⟩

/-- The other post, whose path is plain, has its comment. -/
theorem brackets_other_holds :
    brackets.stat "posts/a.md.comments" = .ok .dir ∧ ∃ c : Comment, c.id = Text.ofString "x" ∧
      loadDirectory brackets "posts/a.md.comments" = .ok (some [c]) ∧
      DirectoryHolds brackets ["posts", "a.md.comments"] [c] := by
  have hdir : brackets.stat "posts/a.md.comments" = .ok .dir := by decide
  have hglob : (filePatterns.mapM fun pattern => brackets.glob? (Path.join ["posts/a.md.comments", pattern])) =
      some [[Text.ofString "posts/a.md.comments/2.yml"], []] := by decide +kernel
  have hread : brackets.readFile "posts/a.md.comments/2.yml" = .ok otherSource := by decide
  obtain ⟨c, hparse, hid⟩ := exists_of_map_id parse_otherSource
  have hload := loadDirectory_of_path hdir hglob hread hparse
  obtain ⟨cs, hcs, hholds⟩ :=
    loadDirectory_of_plain brackets_linkFree brackets_wellFormed hdir (by decide) hload
  obtain rfl := Option.some.inj hcs
  exact ⟨hdir, c, hid, hload, hholds⟩

/-- The post with brackets loses its comment and is given that of the other post. -/
theorem brackets_not_holds :
    brackets.LinkFree ∧ brackets.WellFormed ∧ brackets.stat "posts/[a].md.comments" = .ok .dir ∧
    ∃ c : Comment, c.id = Text.ofString "x" ∧ loadDirectory brackets "posts/[a].md.comments" = .ok (some [c]) ∧
      ¬ DirectoryHolds brackets ["posts", "[a].md.comments"] [c] := by
  have hdir : brackets.stat "posts/[a].md.comments" = .ok .dir := by decide
  have hread : brackets.readFile "posts/a.md.comments/2.yml" = .ok otherSource := by decide
  obtain ⟨c, hparse, hid⟩ := exists_of_map_id parse_otherSource
  obtain ⟨own, hown, hownId⟩ := exists_of_map_id parse_ownSource
  refine ⟨brackets_linkFree, brackets_wellFormed, hdir, c, hid,
    loadDirectory_of_path hdir mapM_glob?_brackets hread hparse, ?_⟩
  -- The one comment would have to be that of the own file, but its id is that of the other.
  rintro ⟨names, -, hnames, hloaded⟩
  have hmem : Text.ofString "1.yml" ∈ names := (hnames _).mpr (by decide)
  obtain ⟨name, rest, ⟨content, hget, hc⟩, hrest, rfl⟩ := List.forall₂_cons_right_iff.mp hloaded
  obtain rfl := List.forall₂_nil_right_iff.mp hrest
  obtain rfl := List.mem_singleton.mp hmem
  have hfile : brackets.get? ["posts", "[a].md.comments", "1.yml"] = some (.file ownSource) := by decide
  obtain rfl := File.Node.file.inj (Option.some.inj (hfile.symm.trans hget))
  obtain rfl := Except.ok.inj (hown.symm.trans hc)
  exact absurd (hownId.symm.trans hid) (by decide)

end Comment

end Marginalia
