import Mathlib
import Marginalia.Proofs.File.Passage

/-!
Two trees that agree around a place. The way to the place and all below it is the same in both, and there are no links
on it. Clean paths that stay there find the same in both trees, and what is written under such paths fails in both for
the same reason or leaves trees that agree again. What the trees hold elsewhere does not matter.
-/

namespace Marginalia

namespace File

namespace Tree

variable {t t' : Tree} {base p q here : Place} {names : List Text} {path content : Text}

/-! ### Places around a place -/

/-- On the way to a place, at it or below it. -/
def Around (base q : Place) : Prop := q <+: base ∨ base <+: q

instance (base q : Place) : Decidable (Around base q) := inferInstanceAs (Decidable (_ ∨ _))

theorem Around.before (h : Around base q) (hp : p <+: q) : Around base p := by
  rcases h with hq | hq
  · exact Or.inl (hp.trans hq)
  · exact List.prefix_or_prefix_of_prefix hp hq

/-- No link is on the way to a place, at it or below it. -/
def LinkFreeAt (t : Tree) (base : Place) : Prop := ∀ q, Around base q → ∀ target, t.get? q ≠ some (.link target)

/-- The trees have the same around a place, and no links there. -/
structure AgreeAt (base : Place) (t t' : Tree) : Prop where
  workDir : t'.workDir = t.workDir
  same : ∀ q, Around base q → t'.get? q = t.get? q
  plain : t.LinkFreeAt base

theorem AgreeAt.trans {t'' : Tree} (h : AgreeAt base t t') (h' : AgreeAt base t' t'') : AgreeAt base t t'' where
  workDir := h'.workDir.trans h.workDir
  same q hq := (h'.same q hq).trans (h.same q hq)
  plain := h.plain

theorem AgreeAt.place_eq (h : AgreeAt base t t') (path : Text) : t'.place path = t.place path :=
  place_congr h.workDir path

theorem AgreeAt.put (h : AgreeAt base t t') (hp : p ≠ []) {n : Node} (hn : ∀ target, n ≠ .link target) :
    AgreeAt base (t.put p n) (t'.put p n) where
  workDir := h.workDir
  same q hq := by rw [get?_put hp, get?_put hp, h.same q hq]
  plain q hq target := by
    rw [get?_put hp]
    split
    · exact fun heq => hn target (Option.some.inj heq)
    · exact h.plain q hq target

theorem linkFreeAt_of_entries (h : ∀ e ∈ t.entries, isLink e.2 = true → ¬ Around base e.1) : t.LinkFreeAt base := by
  intro q hq target hlink
  have hne : q ≠ [] := fun hnil => by rw [hnil, get?_nil] at hlink; cases hlink
  rw [get?_of_ne_nil hne] at hlink
  obtain ⟨before, behind, heq, -⟩ := List.lookup_eq_some_iff.mp hlink
  exact h (q, .link target) (by simp [heq]) rfl hq

theorem agreeAt_unlinked (h : t.LinkFreeAt base) : AgreeAt base t t.unlinked where
  workDir := rfl
  same q hq := get?_unlinked (h q hq)
  plain := h

/-! ### Paths that stay there -/

/-- A path that leads to no places but such around a place. -/
def Within (t : Tree) (base : Place) (path : Text) : Prop := ∀ q ∈ t.comesBy path, Around base q

theorem Within.of_workDir (h : t.Within base path) (heq : t'.workDir = t.workDir) : t'.Within base path :=
  fun q hq => h q (comesBy_congr heq path ▸ hq)

theorem Within.of_names (h : ∀ n ∈ t.route path, Path.IsName n) (haround : Around base (t.route path)) :
    t.Within base path := fun _ hq => haround.before (prefix_of_mem_stops h hq).2

/-- A clean path stays around a place if its own place does. -/
theorem within_clean (h : Around base (t.place path)) : t.Within base (Path.clean path) := by
  rw [← route_clean] at h
  exact .of_names (route_clean t path ▸ t.place_names path) h

theorem climb_ups (here : Place) (k : Nat) :
    ∃ above, ∀ more, climb here (List.replicate k (Text.ofString "..") ++ more) = climb above more := by
  induction k generalizing here with
  | zero => exact ⟨here, fun more => rfl⟩
  | succ k ih =>
    obtain ⟨above, h⟩ := ih here.dropLast
    exact ⟨above, fun more => by rw [List.replicate_succ, List.cons_append, climb_up, h]⟩

theorem splitOn_of_mem_ancestors {a : Text} (h : a ∈ ancestors path) :
    Path.isAbsolute a = Path.isAbsolute path ∧
      ∃ j ≤ (Text.splitOn Path.separator path).length,
        ((Text.splitOn Path.separator path).takeWhile fun n : Text => n.isEmpty || n == "." || n == "..").length < j ∧
          Text.splitOn Path.separator a = (Text.splitOn Path.separator path).take j := by
  have hslash : Text.splitOn '/' path = Text.splitOn Path.separator path := rfl
  have hjoined := Text.join_splitOn Path.separator path
  have hpieces : ∀ n ∈ Text.splitOn Path.separator path, Path.separator ∉ n := fun n => Text.not_mem_of_mem_splitOn
  obtain ⟨k, hk, rfl⟩ := List.mem_map.mp h
  rw [hslash, List.mem_range] at hk
  rw [hslash, Path.slash_eq]
  generalize Text.splitOn Path.separator path = parts at hk hjoined hpieces
  have hlength : (parts.take (parts.length - k)).length = parts.length - k := by rw [List.length_take]; omega
  have hsplit : Text.splitOn Path.separator (Text.join [Path.separator] (parts.take (parts.length - k))) =
      parts.take (parts.length - k) := by
    refine Text.splitOn_join_of_not_mem (fun hnil => ?_) fun n hn => hpieces n (List.mem_of_mem_take hn)
    rw [hnil, List.length_nil] at hlength
    omega
  refine ⟨?_, parts.length - k, Nat.sub_le .., by omega, hsplit⟩
  have hne : Text.join [Path.separator] (parts.take (parts.length - k)) ≠ [] := by
    -- Were it empty, then its only name would be empty, which is one of those left out.
    intro hempty
    have hone : parts.take (parts.length - k) = [[]] := by rw [← hsplit, hempty]; rfl
    rw [hone, List.length_singleton] at hlength
    cases parts with
    | nil => exact absurd hlength (by simp)
    | cons n parts =>
      obtain ⟨rfl, -⟩ := List.cons.inj ((List.take_succ_cons ..).symm.trans (hlength ▸ hone))
      rw [List.takeWhile_cons_of_pos rfl] at hk
      simp only [List.length_cons] at hk hlength
      omega
  obtain ⟨rest, hrest⟩ := Text.join_take_prefix [Path.separator] parts (parts.length - k)
  rw [← Path.isAbsolute_append hne rest, hrest, hjoined]

/-- A clean path goes up first, by names that are empty or dots, and then down by proper names. -/
theorem exists_lead (t : Tree) (path : Text) : ∃ lead names above,
    (if Path.isAbsolute path then [] :: Path.components path else Path.components path) = lead ++ names ∧
      (∀ n ∈ lead, (n.isEmpty || n == Text.ofString "." || n == Text.ofString "..") = true) ∧
      (∀ n ∈ names, Path.IsName n ∧ n ∈ Path.components path) ∧
      ∀ more, climb (t.start path) (lead ++ more) = climb above more := by
  obtain ⟨names, k, heq, hnames, -⟩ := Path.cleaned_components path
  have hcomponents : Path.components path = List.replicate k (Text.ofString "..") ++ names.reverse := by
    rw [← List.reverse_reverse (Path.components path), heq, List.reverse_append, List.reverse_replicate]
  have hproper : ∀ n ∈ names.reverse, Path.IsName n ∧ n ∈ Path.components path := fun n hn =>
    ⟨hnames n (List.mem_reverse.mp hn), hcomponents ▸ List.mem_append_right _ hn⟩
  have hdots : ∀ n ∈ List.replicate k (Text.ofString ".."),
      (n.isEmpty || n == Text.ofString "." || n == Text.ofString "..") = true := by
    intro n hn
    rw [List.eq_of_mem_replicate hn]
    decide
  obtain ⟨above, hups⟩ := climb_ups (t.start path) k
  split
  · refine ⟨[] :: List.replicate k (Text.ofString ".."), names.reverse, above, ?_, ?_, hproper, hups⟩
    · rw [hcomponents, List.cons_append]
    · exact List.forall_mem_cons.mpr ⟨rfl, hdots⟩
  · exact ⟨_, names.reverse, above, hcomponents, hdots, hproper, hups⟩

/-- A directory that leads to a clean path is looked up along a part of its way, and ends in one of its names. -/
theorem route_ancestors (t : Tree) (hclean : Path.clean path = path) {a : Text} (ha : a ∈ ancestors path) :
    ∃ above names i, t.route path = above ++ names ∧ t.route a = above ++ names.take i ∧ names.take i ≠ [] ∧
      ∀ n ∈ names, n ∈ Path.components path := by
  obtain ⟨habs, j, hj, hlead, hsplit⟩ := splitOn_of_mem_ancestors ha
  have hslash : Text.splitOn '/' = Text.splitOn Path.separator := rfl
  have hstart : t.start a = t.start path := by rw [start, start, habs]
  have hparts := splitOn_clean path
  rw [hclean] at hparts
  rw [hparts] at hj hlead hsplit
  obtain ⟨lead, names, above, heq, hskip, hnames, hclimb⟩ := exists_lead t path
  rcases eq_or_ne (Path.components path) [] with hnil | hne
  · rw [if_pos hnil] at hj hlead
    split at hlead
    · rw [if_pos ‹_›] at hj
      simp at hj hlead
      omega
    · rw [if_neg ‹_›] at hj
      simp at hj hlead
      omega
  rw [if_neg hne, heq] at hj hlead hsplit hparts
  have hle : lead.length ≤ (List.takeWhile (fun n : Text => n.isEmpty || n == "." || n == "..") (lead ++ names)).length := by
    rw [List.takeWhile_append_of_pos hskip, List.length_append]
    exact Nat.le_add_right _ _
  refine ⟨above, names, j - lead.length, ?_, ?_, ?_, fun n hn => (hnames n hn).2⟩
  · rw [route, hslash, hparts, hclimb, climb_names fun n hn => (hnames n hn).1]
  · rw [route, hstart, hslash, hsplit, List.take_append, List.take_of_length_le (by omega), hclimb,
      climb_names fun n hn => (hnames n (List.mem_of_mem_take hn)).1]
  · rw [List.length_append] at hj
    intro hnil
    have hlength := congrArg List.length hnil
    rw [List.length_take, List.length_nil] at hlength
    omega

theorem within_ancestors (hclean : Path.clean path = path) (h : t.Within base path) :
    ∀ a ∈ ancestors path, t.Within base a := by
  intro a ha
  have hroute : t.route path = t.place path := by
    rw [← hclean, route_clean, place_clean]
  have hnames : ∀ n ∈ t.route path, Path.IsName n := hroute ▸ t.place_names path
  obtain ⟨above, names, i, hpath, hway, -⟩ := route_ancestors t hclean ha
  have hbefore : t.route a <+: t.route path := by
    rw [hpath, hway]
    exact (List.prefix_append_right_inj above).mpr (List.take_prefix i names)
  refine .of_names (fun n hn => hnames n (hbefore.subset hn)) (Around.before ?_ hbefore)
  exact hroute ▸ h _ (t.place_mem_comesBy path)

/-- Where a clean path stays, the directory in which it ends stays. -/
theorem within_parent {init : List Text} {n : Text} (haround : Around base (t.place path))
    (hclean : Path.clean path = path) (hlast : Path.components path = init ++ [n]) (hn : Path.IsName n) :
    ∀ a ∈ ancestors (Path.parent path), t.Within base a := by
  obtain ⟨hparent, hplace⟩ := t.place_parent hclean hlast hn
  refine within_ancestors hparent (hparent ▸ within_clean ?_)
  rw [hplace] at haround
  exact haround.before (List.prefix_append _ _)

/-! ### Looking up -/

/-- A path that stays around the place leads to the same place in both trees. -/
theorem locate_agree (h : AgreeAt base t t') (follow : Bool) (hpath : t.Within base path) :
    t'.locate follow path = t.locate follow path ∧
      ∀ p, t.locate follow path = .ok p → p = t.place path ∧ Around base p := by
  have hplain : ∀ q ∈ t.comesBy path, ∀ target, t.get? q ≠ some (.link target) := fun q hq => h.plain q (hpath q hq)
  refine ⟨locate_congr h.workDir (fun q hq => h.same q (hpath q hq)) hplain follow follow, fun p hp => ?_⟩
  obtain rfl := eq_place_of_locate hplain hp
  exact ⟨rfl, hpath _ (t.place_mem_comesBy path)⟩

theorem find_agree (h : AgreeAt base t t') (follow : Bool) (hpath : t.Within base path) :
    t'.find follow path = t.find follow path :=
  find_congr h.workDir (fun q hq => h.same q (hpath q hq)) (fun q hq => h.plain q (hpath q hq)) follow follow

theorem stat_agree (h : AgreeAt base t t') (hpath : t.Within base path) : t'.stat path = t.stat path := by
  rw [stat, stat, find_agree h true hpath]

theorem readFile_agree (h : AgreeAt base t t') (hpath : t.Within base path) : t'.readFile path = t.readFile path := by
  rw [readFile, readFile, find_agree h true hpath]

/-! ### Writing -/

/-- Both outcomes are the same failure, or trees that agree. -/
inductive Alike (base : Place) : Except Error Tree → Except Error Tree → Prop where
  | failed (e : Error) : Alike base (.error e) (.error e)
  | done {u u' : Tree} : AgreeAt base u u' → Alike base (.ok u) (.ok u')

theorem mkdir_agree (h : AgreeAt base t t') (hpath : t.Within base path) : Alike base (t.mkdir path) (t'.mkdir path) := by
  obtain ⟨hlocate, hplace⟩ := locate_agree h false hpath
  rw [mkdir, mkdir, hlocate]
  cases hp : t.locate false path with
  | error c => exact .failed _
  | ok p =>
    simp only [h.same p (hplace p hp).2]
    cases hget : t.get? p with
    | some node => exact .failed _
    | none =>
      have hne : p ≠ [] := fun hnil => by rw [hnil] at hget; cases hget
      exact .done (h.put hne nofun)

theorem mkdirs_agree (h : AgreeAt base t t') {paths : List Text} (hpaths : ∀ path ∈ paths, t.Within base path) :
    Alike base (t.mkdirs paths) (t'.mkdirs paths) := by
  induction paths with
  | nil => exact .done h
  | cons path more ih =>
    rw [mkdirs, mkdirs, stat_agree h (hpaths path List.mem_cons_self)]
    split
    · exact .done h
    · exact .failed _
    · have hmore := ih fun path hpath => hpaths path (List.mem_cons_of_mem _ hpath)
      generalize hx : t.mkdirs more = x at hmore ⊢
      generalize t'.mkdirs more = x' at hmore ⊢
      cases hmore with
      | failed e => exact .failed e
      | done hu => exact mkdir_agree hu ((hpaths path List.mem_cons_self).of_workDir (mkdirs_wrote hx).workDir)

theorem AgreeAt.leftByMkdirs (h : AgreeAt base t t') {paths : List Text} (hpaths : ∀ path ∈ paths, t.Within base path) :
    AgreeAt base (t.leftByMkdirs paths) (t'.leftByMkdirs paths) := by
  induction paths with
  | nil => exact h
  | cons path more ih =>
    have hpath := hpaths path List.mem_cons_self
    have hmore : ∀ path ∈ more, t.Within base path := fun path hin => hpaths path (List.mem_cons_of_mem _ hin)
    have hdirs := mkdirs_agree h hmore
    rw [Tree.leftByMkdirs, Tree.leftByMkdirs, stat_agree h hpath]
    generalize hx : t.mkdirs more = x at hdirs ⊢
    generalize t'.mkdirs more = x' at hdirs ⊢
    cases t.stat path with
    | ok node => exact h
    | error e =>
      cases hdirs with
      | failed e => exact ih hmore
      | done hu =>
        have hlast := mkdir_agree hu (hpath.of_workDir (mkdirs_wrote hx).workDir)
        simp only
        generalize Tree.mkdir _ path = y at hlast ⊢
        generalize Tree.mkdir _ path = y' at hlast ⊢
        cases hlast with
        | failed e => exact hu
        | done hv => exact hv

theorem AgreeAt.leftBySave (h : AgreeAt base t t') {init : List Text} {n : Text}
    (haround : Around base (t.place path)) (hclean : Path.clean path = path)
    (hlast : Path.components path = init ++ [n]) (hn : Path.IsName n) :
    AgreeAt base (t.leftBySave path) (t'.leftBySave path) :=
  h.leftByMkdirs (within_parent haround hclean hlast hn)

/-- A file that is saved stands at the same place in both trees, and before it was written they agreed. -/
theorem save_agree (h : AgreeAt base t t') {init : List Text} {n : Text} (haround : Around base (t.place path))
    (hclean : Path.clean path = path) (hlast : Path.components path = init ++ [n]) (hn : Path.IsName n)
    (content content' : Text) :
    (∃ e, t.save path content = .error e ∧ t'.save path content' = .error e) ∨
    ∃ u u', AgreeAt base u u' ∧ u.workDir = t.workDir ∧ t.save path content = .ok (u.put (t.place path) (.file content)) ∧
      t'.save path content' = .ok (u'.put (t.place path) (.file content')) := by
  have hdirs := mkdirs_agree h (within_parent haround hclean hlast hn)
  have hwithin : t.Within base path := hclean ▸ within_clean haround
  rw [save, save, mkdirAll, mkdirAll]
  generalize hx : t.mkdirs (ancestors (Path.parent path)) = x at hdirs ⊢
  generalize t'.mkdirs (ancestors (Path.parent path)) = x' at hdirs ⊢
  cases hdirs with
  | failed e => exact Or.inl ⟨e, rfl, rfl⟩
  | @done u u' hu =>
    have hdir : u.workDir = t.workDir := (mkdirs_wrote hx).workDir
    obtain ⟨hlocate, hplace⟩ := locate_agree hu true (hwithin.of_workDir hdir)
    have hspelled : u.place path = t.place path := place_congr hdir path
    simp only [writeFile, hlocate]
    cases hp : u.locate true path with
    | error c => exact Or.inl ⟨_, rfl, rfl⟩
    | ok p =>
      obtain rfl : p = t.place path := (hplace p hp).1.trans hspelled
      simp only [hu.same _ haround]
      split
      · exact Or.inl ⟨_, rfl, rfl⟩
      · exact Or.inr ⟨u, u', hu, hdir, rfl, rfl⟩

/-! ### One tree -/

/-- A path that stays around a place without links leads to its own place. -/
theorem locate_around (hl : t.LinkFreeAt base) {follow : Bool} (hpath : t.Within base path)
    (h : t.locate follow path = .ok p) : p = t.place path ∧ Reachable t p := by
  have hagree := agreeAt_unlinked hl
  obtain ⟨hlocate, hplace⟩ := locate_agree hagree follow hpath
  obtain ⟨-, hreach⟩ := locate_eq_ok t.unlinked_linkFree (hlocate.trans h)
  refine ⟨(hplace p h).1, hreach.names, fun q hq hne => ?_⟩
  rw [← hagree.same q ((hplace p h).2.before hq)]
  exact hreach.way q hq hne

theorem Wrote.linkFreeAt {files : List (Text × Text)} (h : Wrote t files t') (hl : t.LinkFreeAt base) : t'.LinkFreeAt base := by
  intro q hq target hlink
  by_cases hfile : q ∈ t.places files
  · obtain ⟨f, hf, rfl⟩ := List.mem_map.mp hfile
    rw [h.holds f hf] at hlink
    cases hlink
  · rcases h.others q hfile with heq | ⟨-, hdir⟩
    · exact hl q hq target (heq ▸ hlink)
    · rw [hdir] at hlink
      cases hlink

/-- A file that is saved around a place without links stands at the place of its path. -/
theorem save_wrote_around (hl : t.LinkFreeAt base) (hpath : t.Within base path) (h : t.save path content = .ok t') :
    Wrote t [(path, content)] t' := by
  unfold save at h
  split at h
  · rename_i hmkdir
    have hdirs := mkdirs_wrote hmkdir
    have hl' := hdirs.linkFreeAt hl
    have hpath' := hpath.of_workDir hdirs.workDir
    exact hdirs.trans (writeFile_wrote_of_locate (fun _ => locate_around hl' hpath') h) (List.disjoint_nil_left _)
  · cases h

/-- A file at the place of a clean path around a place without links is read by that path. -/
theorem readFile_around (hl : t.LinkFreeAt base) (haround : Around base (t.place path))
    (hclean : Path.clean path = path) (hlook : Lookable path) (hreach : Reachable t (t.place path))
    (hfile : t.get? (t.place path) = some (.file content)) : t.readFile path = .ok content := by
  have hagree := agreeAt_unlinked hl
  have hspelled := hagree.place_eq path
  have hreach' : Reachable t.unlinked (t.unlinked.place path) := by
    rw [hspelled]
    refine ⟨hreach.names, fun q hq hne => ?_⟩
    rw [hagree.same q (haround.before hq)]
    exact hreach.way q hq hne
  have hlocate := locate_clean t.unlinked_linkFree true (hclean.symm ▸ hlook) hreach'
  rw [hclean, hspelled] at hlocate
  rw [← readFile_agree hagree (hclean ▸ within_clean haround)]
  simp only [readFile, find, hlocate, hagree.same _ haround, hfile]

/-- The trees agree, but for the file at a place if it was the last to be written. -/
def AgreeUpTo (base p : Place) (content content' : Text) (t t' : Tree) : Prop :=
  AgreeAt base t t' ∨ ∃ u u', AgreeAt base u u' ∧ t = u.put p (.file content) ∧ t' = u'.put p (.file content')

theorem AgreeUpTo.agreeAt (h : AgreeUpTo base p content content t t') (hp : p ≠ []) : AgreeAt base t t' := by
  obtain h | ⟨u, u', h, rfl, rfl⟩ := h
  · exact h
  · exact h.put hp nofun

theorem AgreeUpTo.get? {content' : Text} (h : AgreeUpTo base p content content' t t') (hp : p ≠ []) (hq : Around base q) :
    t'.get? q = t.get? q ∨
      q = p ∧ t.get? q = some (.file content) ∧ t'.get? q = some (.file content') := by
  obtain h | ⟨u, u', h, rfl, rfl⟩ := h
  · exact Or.inl (h.same q hq)
  rw [get?_put hp, get?_put hp]
  split
  · rename_i heq
    exact Or.inr ⟨heq, rfl, rfl⟩
  · exact Or.inl (h.same q hq)

end Tree

end File

end Marginalia
