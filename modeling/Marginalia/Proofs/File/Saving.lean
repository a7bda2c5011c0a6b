import Mathlib
import Marginalia.Proofs.File.Erasure

/-!
What saving a file touches. Only places on the way to the file can change: the directories that are made for it, and the
file itself. Where the file is there already, saving puts the new content in its place and does nothing else.
-/

namespace Marginalia

namespace File

namespace Tree

variable {t t' : Tree} {base p q : Place} {path content old : Text} {paths : List Text}

/-! ### Trees as they stand -/

/-- Every place stands in a directory. -/
structure Supported (t : Tree) : Prop where
  stands : ∀ dir name, t.get? (dir ++ [name]) ≠ none → t.get? dir = some .dir

/-- Every place stands in a directory, and the working directory is one. -/
structure Rooted (t : Tree) : Prop extends t.Supported where
  workDir : t.get? t.workDir = some .dir

theorem supported_of_entries (h : ∀ e ∈ t.entries, t.get? e.1.dropLast = some .dir) : t.Supported := by
  refine ⟨fun dir name hplace => ?_⟩
  rw [get?_of_ne_nil (List.concat_ne_nil _ _)] at hplace
  obtain ⟨node, hnode⟩ := Option.ne_none_iff_exists'.mp hplace
  obtain ⟨before, behind, heq, -⟩ := List.lookup_eq_some_iff.mp hnode
  have hdir := h (dir ++ [name], node) (by simp [heq])
  rwa [List.dropLast_concat] at hdir

theorem rooted_of_entries (h : ∀ e ∈ t.entries, t.get? e.1.dropLast = some .dir) (hdir : t.get? t.workDir = some .dir) :
    t.Rooted :=
  ⟨supported_of_entries h, hdir⟩

theorem Supported.way (h : t.Supported) (hp : t.get? p ≠ none) (hq : q <+: p) (hne : q ≠ p) : t.get? q = some .dir := by
  induction p using List.reverseRecOn with
  | nil => exact absurd (List.prefix_nil.mp hq) hne
  | append_singleton init n ih =>
    have hinit := h.stands init n hp
    rcases List.prefix_concat_iff.mp hq with rfl | hq
    · exact absurd rfl hne
    rcases eq_or_ne q init with rfl | hqi
    · exact hinit
    · exact ih (by rw [hinit]; exact Option.some_ne_none _) hq hqi

/-- Below what is not there, and below a file, there is nothing. -/
theorem Supported.names_eq_nil (h : t.Supported) (hp : t.get? p ≠ some .dir) : t.names p = [] := by
  refine List.eq_nil_iff_forall_not_mem.mpr fun name hname => hp (h.stands p name ?_)
  rw [mem_names, Option.isSome_iff_ne_none] at hname
  exact hname

/-- A place on the way to that of a path is a directory already, or ends in one of the names of the path. -/
theorem Rooted.way_cases (h : t.Rooted) (hq : q <+: t.place path) :
    t.get? q = some .dir ∨ ∃ init n, q = init ++ [n] ∧ n ∈ Path.components path := by
  obtain ⟨above, below, heq, hup, hdown⟩ := climb_cases (t.start path) (Path.components path)
  have hstart : t.get? (t.start path) = some .dir := by
    unfold start
    split
    · rfl
    · exact h.workDir
  have hdir : ∀ q, q <+: t.start path → t.get? q = some .dir := by
    intro q hq
    rcases eq_or_ne q (t.start path) with rfl | hne
    · exact hstart
    · exact h.way (by rw [hstart]; exact Option.some_ne_none _) hq hne
  rw [place_eq_climb, heq] at hq
  rcases List.prefix_or_prefix_of_prefix hq (List.prefix_append above below) with habove | ⟨names, rfl⟩
  · exact Or.inl (hdir q (habove.trans hup))
  rcases List.eq_nil_or_concat names with rfl | ⟨init, n, rfl⟩
  · exact Or.inl (hdir _ ((List.append_nil above).symm ▸ hup))
  · have hnames := (List.prefix_append_right_inj above).mp hq
    rw [List.concat_eq_append] at hnames ⊢
    exact Or.inr ⟨above ++ init, n, (List.append_assoc ..).symm, hdown.subset (hnames.subset (by simp))⟩

theorem WellFormed.put (h : t.WellFormed) (hp : ∀ n ∈ p, Path.IsName n) (node : Node) : (t.put p node).WellFormed := by
  unfold Tree.put
  split
  · have hkeys : ∀ e : Place × Node, (if e.1 == p then (e.1, node) else (e.1, e.2)).1 = e.1 := by
      intro e
      split <;> rfl
    constructor
    · have hmap : (t.entries.map fun e => if e.1 == p then (e.1, node) else (e.1, e.2)).map (·.1) = t.entries.map (·.1) := by
        rw [List.map_map]
        exact List.map_congr_left fun e _ => hkeys e
      exact hmap ▸ h.distinct
    · intro e he
      obtain ⟨e', he', rfl⟩ := List.mem_map.mp he
      rw [hkeys]
      exact h.names e' he'
  · rename_i hnew
    constructor
    · rw [List.map_append, List.map_singleton]
      refine h.distinct.append (List.nodup_singleton _) (List.disjoint_singleton.mpr fun hmem => hnew ?_)
      obtain ⟨e, he, heq⟩ := List.mem_map.mp hmem
      exact List.lookup_isSome_iff.mpr ⟨e, he, by simp [heq]⟩
    · intro e he
      rcases List.mem_append.mp he with he | he
      · exact h.names e he
      · rw [List.mem_singleton.mp he]
        exact hp

/-! ### Making directories -/

theorem mkdir_eq_ok (h : t.mkdir path = .ok t') :
    ∃ p, t.locate false path = .ok p ∧ t.get? p = none ∧ t' = t.put p .dir := by
  unfold mkdir at h
  split at h
  · cases h
  split at h
  · cases h
  rename_i p hlocate _ hnone
  exact ⟨p, hlocate, hnone, (Except.ok.inj h).symm⟩

/-- The second tree is the first with new directories around a place, to which ways lead. -/
structure Opened (base : Place) (t t' : Tree) : Prop where
  wellFormed : t.WellFormed → t'.WellFormed
  changed : ∀ q, t'.get? q ≠ t.get? q → Around base q ∧ Reachable t' q ∧ t'.get? q = some .dir

theorem Opened.refl (base : Place) (t : Tree) : Opened base t t := ⟨id, fun _ hq => absurd rfl hq⟩

theorem Opened.mkdir (h : Opened base t t') (hl : t'.LinkFree) (hpath : t'.Within base path) {u : Tree}
    (hmkdir : t'.mkdir path = .ok u) : Opened base t u := by
  have hdirs := (mkdir_wrote hmkdir).dirs
  obtain ⟨p, hlocate, hnone, rfl⟩ := mkdir_eq_ok hmkdir
  have hp : p ≠ [] := fun hnil => by rw [hnil] at hnone; cases hnone
  obtain ⟨-, hreach⟩ := locate_eq_ok hl hlocate
  have haround := ((locate_agree (hl.agreeAt_refl base) false hpath).2 p hlocate).2
  refine ⟨fun hwf => (h.wellFormed hwf).put (fun n hn => (hreach.names n hn).1) _, fun q hq => ?_⟩
  by_cases heq : q = p
  · subst heq
    exact ⟨haround, hreach.mono hdirs, by rw [get?_put hp, if_pos rfl]⟩
  · rw [get?_put hp, if_neg heq] at hq
    obtain ⟨haround', hreach', hdir⟩ := h.changed q hq
    exact ⟨haround', hreach'.mono hdirs, hdirs q hdir⟩

theorem opened_mkdirs (hl : t.LinkFree) (hpaths : ∀ path ∈ paths, t.Within base path) (h : t.mkdirs paths = .ok t') :
    Opened base t t' := by
  induction paths generalizing t' with
  | nil =>
    obtain rfl := Except.ok.inj h
    exact .refl base t
  | cons path more ih =>
    rw [mkdirs] at h
    split at h
    · obtain rfl := Except.ok.inj h
      exact .refl base t
    · cases h
    · split at h
      · rename_i hmore
        have hopened := ih (fun a ha => hpaths a (List.mem_cons_of_mem path ha)) hmore
        have hwrote := mkdirs_wrote hmore
        exact hopened.mkdir (hwrote.linkFree hl) ((hpaths path List.mem_cons_self).of_workDir hwrote.workDir) h
      · cases h

theorem writeFile_eq_ok (h : t.writeFile path content = .ok t') :
    ∃ p, t.locate true path = .ok p ∧ t.get? p ≠ some .dir ∧ t' = t.put p (.file content) := by
  unfold writeFile at h
  split at h
  · cases h
  rename_i p hlocate
  split at h
  · cases h
  rename_i hfree
  exact ⟨p, hlocate, hfree, (Except.ok.inj h).symm⟩

/-! ### Saving -/

/-- A path that is clean and ends in a name, so that it can be the path of a file. -/
structure FilePath (path : Text) : Prop where
  clean : Path.clean path = path
  last : ∃ init n, Path.components path = init ++ [n] ∧ Path.IsName n

/-- Changes from one tree to another are on the way to a place, and the tree stays well formed. -/
structure Along (base : Place) (t t' : Tree) : Prop where
  wellFormed : t.WellFormed → t'.WellFormed
  changed : ∀ q, t'.get? q ≠ t.get? q → q <+: base

theorem save_along (hl : t.LinkFree) (hpath : FilePath path) (h : t.save path content = .ok t') :
    Along (t.place path) t t' := by
  obtain ⟨hclean, init, n, hlast, hn⟩ := hpath
  unfold save at h
  split at h
  swap
  · cases h
  rename_i u hmkdir
  have hopened := opened_mkdirs hl (within_parent (Or.inl (List.prefix_refl (t.place path))) hclean hlast hn) hmkdir
  have hwrote := mkdirs_wrote hmkdir
  obtain ⟨p, hlocate, hfree, rfl⟩ := writeFile_eq_ok h
  obtain ⟨hspelled, hreach⟩ := locate_eq_ok (hwrote.linkFree hl) hlocate
  obtain rfl : p = t.place path := hspelled.trans (hwrote.place_eq path)
  have hp : t.place path ≠ [] := (t.place_parent hclean hlast hn).2 ▸ List.concat_ne_nil n _
  refine ⟨fun hwf => (hopened.wellFormed hwf).put (fun m hm => (hreach.names m hm).1) _, fun q hq => ?_⟩
  by_cases heq : q = t.place path
  · exact heq ▸ List.prefix_refl _
  rw [get?_put hp, if_neg heq] at hq
  obtain ⟨haround, hway, -⟩ := hopened.changed q hq
  refine haround.resolve_right fun hbelow => hfree ?_
  -- What is below the file would make it a directory.
  exact hway.way _ hbelow (Ne.symm heq)

theorem ancestors_cases (path : Text) : ancestors path = [] ∨ ∃ more, ancestors path = path :: more := by
  have hwhole : Text.join "/" ((Text.splitOn '/' path).take ((Text.splitOn '/' path).length - 0)) = path := by
    rw [Nat.sub_zero, List.take_length, Path.slash_eq]
    exact Text.join_splitOn Path.separator path
  dsimp only [ancestors]
  cases (Text.splitOn '/' path).length -
      ((Text.splitOn '/' path).takeWhile fun n : Text => n.isEmpty || n == "." || n == "..").length with
  | zero => exact Or.inl rfl
  | succ k =>
    rw [List.range_succ_eq_map, List.map_cons, hwhole]
    exact Or.inr ⟨_, rfl⟩

theorem mkdirAll_of_dir (h : t.stat path = .ok .dir) : t.mkdirAll path = .ok t := by
  rw [mkdirAll]
  obtain hnone | ⟨more, hmore⟩ := ancestors_cases path
  · rw [hnone, mkdirs]
  · rw [hmore, mkdirs, h]

theorem lookable_parent (hlook : Lookable path) (hpath : FilePath path) : Lookable (Path.parent path) := by
  obtain ⟨hclean, init, n, hlast, hn⟩ := hpath
  obtain rfl | ⟨dir, rfl⟩ := Path.endsIn_of_clean hclean hlast
  · rw [Path.parent, Path.slash_eq, Text.cutLast?_of_not_mem hn.2.2.2]
    exact ⟨by decide, by decide, by decide⟩
  rw [Path.parent, Path.slash_eq, Text.cutLast?_append _ hn.2.2.2]
  refine Lookable.clean ?_
  rcases eq_or_ne dir [] with rfl | hdir
  · exact ⟨by decide, by decide, by decide⟩
  · rw [if_neg (by simpa using hdir)]
    refine ⟨hdir, fun hnul => hlook.no_nul (List.mem_append_left _ hnul), ?_⟩
    exact Nat.le_trans (by simp) hlook.length_le

theorem stat_parent (hl : t.LinkFree) (hlook : Lookable path) (hpath : FilePath path)
    (hreach : Reachable t (t.place path)) : t.stat (Path.parent path) = .ok .dir := by
  obtain ⟨init, n, hlast, hn⟩ := hpath.last
  obtain ⟨hparent, hplace⟩ := t.place_parent hpath.clean hlast hn
  rw [hplace] at hreach
  have hreach' := hreach.dropLast
  rw [List.dropLast_concat] at hreach'
  have hget : t.get? (t.place (Path.parent path)) = some .dir :=
    hreach.way _ (List.prefix_append _ _) fun heq => List.cons_ne_nil n [] (List.self_eq_append_right.mp heq)
  have hlocate := locate_clean hl true (hparent.symm ▸ lookable_parent hlook hpath) hreach'
  rw [hparent] at hlocate
  rw [stat, find, hlocate]
  simp only [hget]

/-- Saving over a file. -/
theorem save_over (hl : t.LinkFree) (hlook : Lookable path) (hpath : FilePath path)
    (hreach : Reachable t (t.place path)) (hfile : t.get? (t.place path) = some (.file old)) (content : Text) :
    t.save path content = .ok (t.put (t.place path) (.file content)) := by
  have hparent := stat_parent hl hlook hpath hreach
  have hlocate := locate_clean hl true (hpath.clean.symm ▸ hlook) hreach
  rw [hpath.clean] at hlocate
  rw [save, mkdirAll_of_dir hparent]
  simp only [writeFile, hlocate, hfile]

end Tree

end File

end Marginalia
