import Mathlib
import Marginalia.File.Tree
import Marginalia.Proofs.File.Path

/-!
Where paths lead in a tree without links: to the place that the path spells, through directories only. The names of a
clean path are those of its place, and names joined to a path come behind its place. So a file that is saved stands at
the place of its path, and saving it changes nothing else but that directories may be new.
-/

namespace Marginalia

namespace File

namespace Tree

variable {t t' t'' : Tree} {p q here there : Place} {path content : Text}

/-! ### Places -/

/-- No place of the tree is a link. -/
def LinkFree (t : Tree) : Prop := ∀ p target, t.get? p ≠ some (.link target)

@[simp] theorem get?_nil (t : Tree) : t.get? [] = some .dir := rfl

theorem get?_of_ne_nil (hp : p ≠ []) : t.get? p = t.entries.lookup p := by
  rw [get?, if_neg (by simpa using hp)]

theorem linkFree_of_entries (h : ∀ e ∈ t.entries, ∀ target, e.2 ≠ .link target) : t.LinkFree := by
  intro p target hlink
  have hp : p ≠ [] := fun hnil => by rw [hnil, get?_nil] at hlink; cases hlink
  rw [get?_of_ne_nil hp] at hlink
  obtain ⟨before, behind, heq, -⟩ := List.lookup_eq_some_iff.mp hlink
  exact h (p, .link target) (by simp [heq]) target rfl

theorem lookup_replace (entries : List (Place × Node)) (p q : Place) (n : Node) :
    (entries.map fun (r, m) => if r == p then (r, n) else (r, m)).lookup q =
      if q = p then (entries.lookup q).map fun _ => n else entries.lookup q := by
  induction entries with
  | nil => simp
  | cons e entries ih =>
    obtain ⟨r, m⟩ := e
    rw [List.map_cons, List.lookup_cons]
    rcases eq_or_ne q r with rfl | hq
    · rcases eq_or_ne q p with rfl | hp <;> simp [*]
    · have hqr : (q == r) = false := beq_eq_false_iff_ne.mpr hq
      rcases eq_or_ne r p with rfl | hr <;> simpa [List.lookup_cons, hqr, *] using ih

/-- A node put at a place is there, and nothing else changes. -/
theorem get?_put (hp : p ≠ []) (n : Node) (q : Place) : (t.put p n).get? q = if q = p then some n else t.get? q := by
  rcases eq_or_ne q [] with rfl | hq
  · rw [if_neg hp.symm]; rfl
  rw [get?_of_ne_nil hq, get?_of_ne_nil hq, put]
  split
  · rename_i hsome
    rw [lookup_replace]
    split
    · rename_i heq
      obtain ⟨m, hm⟩ := Option.isSome_iff_exists.mp hsome
      rw [heq, hm]; rfl
    · rfl
  · rename_i hnone
    rw [Option.not_isSome_iff_eq_none] at hnone
    rw [List.lookup_append]
    rcases eq_or_ne q p with rfl | hqp
    · simp [hnone]
    · rw [if_neg hqp, List.lookup_cons, beq_eq_false_iff_ne.mpr hqp]
      exact Option.or_none

@[simp] theorem put_workDir (t : Tree) (p : Place) (n : Node) : (t.put p n).workDir = t.workDir := rfl

@[simp] theorem erase_workDir (t : Tree) (p : Place) : (t.erase p).workDir = t.workDir := rfl

/-! ### Places of paths -/

theorem start_names (t : Tree) (path : Text) : ∀ n ∈ t.start path, Path.IsName n := by
  unfold start
  split
  · exact nofun
  · exact t.workDir_names

theorem mem_climb {names : List Text} {n : Text} (h : n ∈ climb here names) : n ∈ here ∨ n ∈ names := by
  induction names generalizing here with
  | nil => exact Or.inl h
  | cons m names ih =>
    rw [climb] at h
    split at h
    · exact (ih h).imp_right (List.mem_cons_of_mem m)
    split at h
    · exact (ih h).imp List.mem_of_mem_dropLast (List.mem_cons_of_mem m)
    · exact List.mem_append.mp h

theorem not_mem_of_mem_route {n : Text} (h : n ∈ t.route path) : Path.separator ∉ n := by
  rcases mem_climb h with hn | hn
  · exact (t.start_names path n hn).2.2.2
  · exact Text.not_mem_of_mem_splitOn hn

theorem foldl_push_climb {names : List Text} (h : ∀ n ∈ here, Path.IsName n) :
    (climb here names).foldl (Path.push true) [] = names.foldl (Path.push true) here.reverse := by
  induction names generalizing here with
  | nil => rw [climb, Path.foldl_push_names h, List.append_nil, List.foldl_nil]
  | cons n names ih =>
    rw [climb, List.foldl_cons]
    split
    · rename_i hstay
      rw [ih h, Path.push_stay (by simpa using hstay)]
    split
    · rename_i hup
      rw [ih fun m hm => h m (List.mem_of_mem_dropLast hm), beq_iff_eq.mp hup, Path.push_up_names h]
    · rw [List.foldl_append, Path.foldl_push_names h, List.append_nil, List.foldl_cons]

theorem place_eq_foldl (t : Tree) (path : Text) :
    t.place path = ((Text.splitOn Path.separator path).foldl (Path.push true) (t.start path).reverse).reverse := by
  rw [place, route, foldl_push_climb (t.start_names path)]
  rfl

theorem place_names (t : Tree) (path : Text) : ∀ n ∈ t.place path, Path.IsName n := by
  have hnames : ∀ n ∈ (t.route path).foldl (Path.push true) [], Path.IsName n :=
    Path.isName_foldl_push (fun _ hn => absurd hn List.not_mem_nil) fun _ => not_mem_of_mem_route
  exact fun n hn => hnames n (List.mem_reverse.mp hn)

/-- The place of a path, read off its components. -/
theorem place_eq_components (t : Tree) (path : Text) :
    t.place path = ((Path.components path).foldl (Path.push true) (t.start path).reverse).reverse := by
  rw [place_eq_foldl, Path.foldl_push_components]
  intro habs
  simp [start, habs]

theorem start_clean (t : Tree) (path : Text) : t.start (Path.clean path) = t.start path := by
  rw [start, start, Path.isAbsolute_clean]

@[simp] theorem place_clean (t : Tree) (path : Text) : t.place (Path.clean path) = t.place path := by
  rw [place_eq_components, place_eq_components, Path.components_clean, start_clean]

theorem climb_up (here : Place) (more : List Text) :
    climb here (Text.ofString ".." :: more) = climb here.dropLast more := by
  have hdots : ((Text.ofString "..").isEmpty || Text.ofString ".." == Text.ofString ".") = false := by decide
  rw [climb, if_neg (by simp [hdots]), if_pos (beq_self_eq_true _)]

theorem climb_names {names : List Text} (h : ∀ n ∈ names, Path.IsName n) (here : Place) :
    climb here names = here ++ names := by
  cases names with
  | nil => rw [climb, List.append_nil]
  | cons n more =>
    obtain ⟨hne, hdot, hdots, -⟩ := h n List.mem_cons_self
    rw [climb, if_neg (by simp [hne, hdot]), if_neg (by simpa using hdots)]

/-- Names lead up from a place, and down again by the last of them. -/
theorem climb_cases (here : Place) (names : List Text) :
    ∃ above below, climb here names = above ++ below ∧ above <+: here ∧ below <:+ names := by
  induction names generalizing here with
  | nil => exact ⟨here, [], (List.append_nil here).symm, List.prefix_refl here, List.suffix_refl []⟩
  | cons n names ih =>
    rw [climb]
    split
    · obtain ⟨above, below, heq, hup, hdown⟩ := ih here
      exact ⟨above, below, heq, hup, hdown.trans (List.suffix_cons n names)⟩
    split
    · obtain ⟨above, below, heq, hup, hdown⟩ := ih here.dropLast
      exact ⟨above, below, heq, hup.trans (List.dropLast_prefix here), hdown.trans (List.suffix_cons n names)⟩
    · exact ⟨here, n :: names, rfl, List.prefix_refl here, List.suffix_refl _⟩

theorem climb_cleaned {done : List Text} (h : ∀ n ∈ here, Path.IsName n) (hdone : Path.Cleaned false done) :
    climb here done.reverse = (done.reverse.foldl (Path.push true) here.reverse).reverse := by
  obtain ⟨names, k, rfl, hnames, -⟩ := hdone
  have hnames' : ∀ n ∈ names.reverse, Path.IsName n := fun n hn => hnames n (List.mem_reverse.mp hn)
  rw [List.reverse_append, List.reverse_replicate]
  -- The double dots go up one by one, and the names behind them stay.
  induction k generalizing here with
  | zero =>
    rw [List.replicate_zero, List.nil_append, Path.foldl_push_names hnames', climb_names hnames']
    simp
  | succ k ih =>
    rw [List.replicate_succ, List.cons_append, climb_up, List.foldl_cons, ih fun n hn => h n (List.mem_of_mem_dropLast hn),
      Path.push_up_names h]

/-- The names of a clean path: only its components, but for a root and for a path of no components. -/
theorem splitOn_clean (path : Text) :
    Text.splitOn Path.separator (Path.clean path) =
      if Path.components path = [] then (if Path.isAbsolute path then [[], []] else [Text.ofString "."])
      else if Path.isAbsolute path then [] :: Path.components path else Path.components path := by
  split
  · rename_i hnil
    rw [Path.clean_of_nil hnil]
    split <;> decide
  · rename_i hne
    rw [Path.clean_of_ne_nil hne]
    split
    · rw [Text.splitOn, if_pos (beq_self_eq_true _), Path.splitOn_join_components hne]
    · exact Path.splitOn_join_components hne

/-- The components of a path lead to its place. -/
theorem place_eq_climb (t : Tree) (path : Text) : t.place path = climb (t.start path) (Path.components path) := by
  obtain ⟨names, k, heq, hnames, -⟩ := Path.cleaned_components path
  have h := climb_cleaned (t.start_names path) ⟨names, k, heq, hnames, nofun⟩
  rw [List.reverse_reverse] at h
  rw [place_eq_components, h]

/-- The names along which a clean path is looked up are those of its place. -/
theorem route_clean (t : Tree) (path : Text) : t.route (Path.clean path) = t.place path := by
  have hslash : Text.splitOn '/' = Text.splitOn Path.separator := rfl
  have hskip : ∀ more, climb (t.start path) ([] :: more) = climb (t.start path) more := fun _ => rfl
  rw [place_eq_climb, route, start_clean, hslash, splitOn_clean]
  split
  · rename_i hnil
    rw [hnil]
    split <;> rfl
  · split
    · exact hskip _
    · rfl

/-- Names joined to a path come behind its place. -/
theorem place_join {names : List Text} (h : names ≠ []) (hnames : ∀ n ∈ names, Path.IsName n) :
    t.place (Path.join (path :: names)) = t.place path ++ names := by
  have hsplit : Text.splitOn Path.separator (Text.join "/" names) = names := by
    rw [Path.slash_eq]
    exact Text.splitOn_join_of_not_mem h fun n hn => (hnames n hn).2.2.2
  have hrelative : Path.isAbsolute (Text.join "/" names) = false := by
    obtain ⟨n, more, rfl⟩ := List.exists_cons_of_ne_nil h
    obtain ⟨rest, hrest⟩ := Text.exists_join_cons (Text.ofString "/") n more
    rw [hrest]
    exact Path.isAbsolute_name_append (hnames n List.mem_cons_self).1 (hnames n List.mem_cons_self).2.2.2 rest
  rw [Path.join_eq_clean h fun n hn => (hnames n hn).1, place_clean, place_eq_foldl, place_eq_foldl]
  split
  · rename_i hp
    have hempty : Text.splitOn Path.separator [] = [[]] := rfl
    rw [hp, hsplit, hempty, Path.foldl_push_names hnames, start, start, hrelative]
    simp [Path.push, Path.isAbsolute]
  · rename_i hp
    rw [Text.splitOn_append, List.foldl_append, hsplit, Path.foldl_push_names hnames, start, start,
      Path.isAbsolute_append hp]
    simp

theorem place_congr (h : t'.workDir = t.workDir) (path : Text) : t'.place path = t.place path := by
  rw [place, place, route, route, start, start, h]

/-! ### Ways -/

/-- A place that a walk can come to: its names are proper, and the way to it leads through directories. -/
structure Reachable (t : Tree) (p : Place) : Prop where
  names : ∀ n ∈ p, Path.IsName n ∧ n.length ≤ maxName
  way : ∀ q, q <+: p → q ≠ p → t.get? q = some .dir

namespace Reachable

theorem nil (t : Tree) : Reachable t [] := ⟨by simp, fun q hq hne => absurd (List.prefix_nil.mp hq) hne⟩

theorem dropLast (h : Reachable t p) : Reachable t p.dropLast where
  names n hn := h.names n (List.mem_of_mem_dropLast hn)
  way q hq hne := by
    refine h.way q (hq.trans (List.dropLast_prefix p)) ?_
    rintro rfl
    exact hne (hq.eq_of_length_le (by simp))

theorem snoc {n : Text} (h : Reachable t p) (hdir : t.get? p = some .dir) (hn : Path.IsName n)
    (hlen : n.length ≤ maxName) : Reachable t (p ++ [n]) where
  names m hm := by
    rcases List.mem_append.mp hm with hm | hm
    · exact h.names m hm
    · rw [List.mem_singleton.mp hm]
      exact ⟨hn, hlen⟩
  way q hq hne := by
    rcases List.prefix_concat_iff.mp hq with rfl | hq
    · exact absurd rfl hne
    · rcases eq_or_ne q p with rfl | hqp
      · exact hdir
      · exact h.way q hq hqp

theorem mono (hdirs : ∀ q, t.get? q = some .dir → t'.get? q = some .dir) (h : Reachable t p) : Reachable t' p :=
  ⟨h.names, fun q hq hne => hdirs q (h.way q hq hne)⟩

end Reachable

section
variable {follow : Bool} {jump : Place → Text → List Text → Except Cause Place}

/-- What one name of a path does without links: it stays, goes up, or enters. -/
theorem walkBy_cons_eq_ok (hl : t.LinkFree) {name : Text} {more : List Text} :
    t.walkBy follow jump here (name :: more) = .ok there ↔ t.get? here = some .dir ∧
      ((name = [] ∨ name = ".") ∧ t.walkBy follow jump here more = .ok there ∨
        name = ".." ∧ t.walkBy follow jump here.dropLast more = .ok there ∨
        (name ≠ [] ∧ name ≠ "." ∧ name ≠ "..") ∧ name.length ≤ maxName ∧
          (t.get? (here ++ [name]) = none → more = []) ∧ t.walkBy follow jump (here ++ [name]) more = .ok there) := by
  rw [walkBy]
  split
  swap
  · rename_i hdir
    exact ⟨nofun, fun ⟨hd, _⟩ => absurd hd hdir⟩
  rename_i hdir
  rw [and_iff_right hdir]
  by_cases hstay : name = [] ∨ name = "."
  · have hup : name ≠ ".." := by rcases hstay with rfl | rfl <;> decide
    rw [if_pos (by simpa using hstay)]
    exact ⟨fun h => Or.inl ⟨hstay, h⟩, by rintro (⟨-, h⟩ | ⟨heq, -⟩ | ⟨hne, -⟩) <;> tauto⟩
  rw [if_neg (by simpa using hstay)]
  by_cases hup : name = ".."
  · rw [if_pos (beq_iff_eq.mpr hup)]
    tauto
  rw [if_neg (by simpa using hup)]
  by_cases hlong : maxName < name.length
  · rw [if_pos hlong]
    exact ⟨nofun, by rintro (⟨hs, -⟩ | ⟨heq, -⟩ | ⟨-, hlen, -⟩) <;> [tauto; tauto; omega]⟩
  rw [if_neg hlong]
  obtain ⟨hne, hdot⟩ := not_or.mp hstay
  simp only [hne, hdot, hup, or_self, false_and, false_or, ne_eq, not_false_eq_true, and_self, true_and,
    Nat.le_of_not_lt hlong]
  cases hnext : t.get? (here ++ [name]) with
  | none =>
    cases more with
    | nil => simp [walkBy]
    | cons _ _ => simp
  | some node =>
    cases node with
    | link target => exact absurd hnext (hl _ _)
    | file | dir => simp

/-- Without links a walk comes to the place that the names spell. -/
theorem walkBy_eq_ok (hl : t.LinkFree) {names : List Text}
    (h : t.walkBy follow jump here names = .ok there) (hhere : Reachable t here)
    (hnames : ∀ n ∈ names, Path.separator ∉ n) :
    Reachable t there ∧ there = (names.foldl (Path.push true) here.reverse).reverse := by
  induction names generalizing here with
  | nil =>
    rw [walkBy] at h
    obtain rfl := Except.ok.inj h
    exact ⟨hhere, by simp⟩
  | cons n names ih =>
    have hmore : ∀ m ∈ names, Path.separator ∉ m := fun m hm => hnames m (List.mem_cons_of_mem n hm)
    obtain ⟨hdir, ⟨hstay, h⟩ | ⟨rfl, hup⟩ | ⟨⟨hn, hdot, hdots⟩, hlen, -, h⟩⟩ := (walkBy_cons_eq_ok hl).mp h
    · rw [List.foldl_cons, Path.push_stay hstay]
      exact ih h hhere hmore
    · -- A place that was come to holds proper names only, so the last of them is what double dots take away.
      rw [List.foldl_cons, Path.push_up_names fun m hm => (hhere.names m hm).1]
      exact ih hup hhere.dropLast hmore
    · have hname : Path.IsName n := ⟨hn, hdot, hdots, hnames n List.mem_cons_self⟩
      rw [List.foldl_cons, Path.push_isName hname, ← List.reverse_concat]
      exact ih h (hhere.snoc hdir hname hlen) hmore

/-- A walk along the names of a place that can be come to. -/
theorem walkBy_of_reachable (hl : t.LinkFree) {names : List Text}
    (h : Reachable t (here ++ names)) : t.walkBy follow jump here names = .ok (here ++ names) := by
  induction names generalizing here with
  | nil => rw [walkBy, List.append_nil]
  | cons n names ih =>
    obtain ⟨hname, hlen⟩ := h.names n (by simp)
    have hnext : here ++ n :: names = here ++ [n] ++ names := List.append_cons here n names
    rw [hnext] at h ⊢
    obtain ⟨hne, hdot, hdots, -⟩ := hname
    refine (walkBy_cons_eq_ok hl).mpr ⟨h.way here ?_ ?_, Or.inr (Or.inr ⟨⟨hne, hdot, hdots⟩, hlen, ?_, ih h⟩)⟩
    · exact ⟨[n] ++ names, (List.append_assoc ..).symm⟩
    · intro heq
      have hlength := congrArg List.length heq
      simp at hlength
    · -- Only the last name may be missing: all before it are directories.
      intro hnone
      by_contra hne
      have hway := h.way (here ++ [n]) (List.prefix_append _ _) fun heq => hne (List.self_eq_append_right.mp heq)
      rw [hnone] at hway
      cases hway

end

theorem walk_eq_walkBy (t : Tree) (follow : Bool) (links : Nat) :
    ∃ jump, t.walk follow links = t.walkBy follow jump := by
  cases links <;> exact ⟨_, rfl⟩

/-- A path that can be looked up. -/
structure Lookable (path : Text) : Prop where
  ne_nil : path ≠ []
  no_nul : 0 ∉ path
  length_le : path.length ≤ maxPath

theorem Lookable.clean (h : Lookable path) : Lookable (Path.clean path) where
  ne_nil := Path.clean_ne_nil path
  no_nul := fun hnul => by
    rcases Path.mem_of_mem_clean hnul with hmem | hsep | hdot
    · exact h.no_nul hmem
    · exact absurd hsep (by decide)
    · exact absurd hdot (by decide)
  length_le := (Path.length_clean_le h.ne_nil).trans h.length_le

theorem locate_eq_walkBy (t : Tree) (follow : Bool) (h : Lookable path) :
    ∃ jump, t.locate follow path = t.walkBy follow jump [] (t.route path) := by
  obtain ⟨jump, hwalk⟩ := t.walk_eq_walkBy follow maxLinks
  refine ⟨jump, ?_⟩
  simp [locate, h.ne_nil, h.no_nul, Nat.not_lt.mpr h.length_le, hwalk]

theorem lookable_of_locate {follow : Bool} (h : t.locate follow path = .ok p) : Lookable path := by
  unfold locate at h
  split at h
  · cases h
  split at h
  · cases h
  split at h
  · cases h
  · rename_i hnul hne hlong
    exact ⟨by simpa using hne, by simpa using hnul, Nat.le_of_not_lt hlong⟩

/-- Without links a path leads to the place that it spells. -/
theorem locate_eq_ok (hl : t.LinkFree) {follow : Bool} (h : t.locate follow path = .ok p) :
    p = t.place path ∧ Reachable t p := by
  obtain ⟨jump, hwalk⟩ := t.locate_eq_walkBy follow (lookable_of_locate h)
  rw [hwalk] at h
  exact (walkBy_eq_ok hl h (.nil t) fun n hn => not_mem_of_mem_route hn).symm

/-- A clean path leads to the place that it spells, if there is a way. -/
theorem locate_clean (hl : t.LinkFree) (follow : Bool) (h : Lookable (Path.clean path))
    (hreach : Reachable t (t.place path)) : t.locate follow (Path.clean path) = .ok (t.place path) := by
  obtain ⟨jump, hwalk⟩ := t.locate_eq_walkBy follow h
  rw [hwalk, route_clean]
  exact walkBy_of_reachable hl hreach

theorem find_eq_ok (hl : t.LinkFree) {follow : Bool} {n : Node} (h : t.find follow path = .ok (p, n)) :
    Lookable path ∧ p = t.place path ∧ Reachable t p ∧ t.get? p = some n := by
  unfold find at h
  split at h
  · cases h
  rename_i q hlocate
  split at h
  · rename_i m hget
    obtain ⟨rfl, rfl⟩ := Prod.mk.inj (Except.ok.inj h)
    obtain ⟨hq, hreach⟩ := locate_eq_ok hl hlocate
    exact ⟨lookable_of_locate hlocate, hq, hreach, hget⟩
  · cases h

/-! ### Writing -/

/-- The places of files that are given by their paths. -/
def places (t : Tree) (files : List (Text × Text)) : List Place := files.map fun f => t.place f.1

/-- The second tree is the first with files written to it, for which directories may have been made. -/
structure Wrote (t : Tree) (files : List (Text × Text)) (t' : Tree) : Prop where
  workDir : t'.workDir = t.workDir
  lookable : ∀ f ∈ files, Lookable f.1
  way : ∀ f ∈ files, Reachable t' (t.place f.1)
  holds : ∀ f ∈ files, t'.get? (t.place f.1) = some (.file f.2)
  others : ∀ q, q ∉ t.places files → t'.get? q = t.get? q ∨ t.get? q = none ∧ t'.get? q = some .dir
  dirs : ∀ q, t.get? q = some .dir → t'.get? q = some .dir

namespace Wrote

variable {files files' : List (Text × Text)}

theorem refl (t : Tree) : Wrote t [] t := ⟨rfl, by simp, by simp, by simp, fun _ _ => Or.inl rfl, fun _ h => h⟩

theorem place_eq (h : Wrote t files t') (path : Text) : t'.place path = t.place path := place_congr h.workDir path

theorem places_eq (h : Wrote t files t') (fs : List (Text × Text)) : t'.places fs = t.places fs :=
  List.map_congr_left fun f _ => h.place_eq f.1

/-- Files written one after another are all there if no two have the same place. -/
theorem trans (h : Wrote t files t') (h' : Wrote t' files' t'')
    (hdisjoint : (t.places files).Disjoint (t.places files')) : Wrote t (files ++ files') t'' where
  workDir := h'.workDir.trans h.workDir
  lookable f hf := (List.mem_append.mp hf).elim (h.lookable f) (h'.lookable f)
  way f hf := by
    rcases List.mem_append.mp hf with hf | hf
    · exact (h.way f hf).mono h'.dirs
    · exact h.place_eq f.1 ▸ h'.way f hf
  holds f hf := by
    rcases List.mem_append.mp hf with hf | hf
    · have hfile := h.holds f hf
      rcases h'.others _ (h.places_eq files' ▸ hdisjoint (List.mem_map_of_mem hf)) with heq | ⟨hnone, -⟩
      · rw [heq, hfile]
      · rw [hfile] at hnone
        cases hnone
    · exact h.place_eq f.1 ▸ h'.holds f hf
  others q hq := by
    rw [places, List.map_append, List.mem_append, not_or] at hq
    rcases h'.others q (h.places_eq files' ▸ hq.2) with heq' | ⟨hnone', hdir'⟩ <;> rcases h.others q hq.1 with heq | ⟨hnone, hdir⟩
    · exact Or.inl (heq'.trans heq)
    · exact Or.inr ⟨hnone, heq'.trans hdir⟩
    · exact Or.inr ⟨heq ▸ hnone', hdir'⟩
    · exact Or.inr ⟨hnone, hdir'⟩
  dirs q hq := h'.dirs q (h.dirs q hq)

theorem linkFree (h : Wrote t files t') (hl : t.LinkFree) : t'.LinkFree := by
  intro q target hlink
  by_cases hq : q ∈ t.places files
  · obtain ⟨f, hf, rfl⟩ := List.mem_map.mp hq
    rw [h.holds f hf] at hlink
    cases hlink
  · rcases h.others q hq with heq | ⟨-, hdir⟩
    · exact hl q target (heq ▸ hlink)
    · rw [hdir] at hlink
      cases hlink

/-- The files afterwards: those written, and all others as they were. -/
theorem get?_eq_file_iff (h : Wrote t files t') :
    t'.get? p = some (.file content) ↔
      (∃ f ∈ files, t.place f.1 = p ∧ f.2 = content) ∨ p ∉ t.places files ∧ t.get? p = some (.file content) := by
  constructor
  · intro hfile
    by_cases hp : p ∈ t.places files
    · obtain ⟨f, hf, rfl⟩ := List.mem_map.mp hp
      rw [h.holds f hf] at hfile
      exact Or.inl ⟨f, hf, rfl, Node.file.inj (Option.some.inj hfile)⟩
    · rcases h.others p hp with heq | ⟨-, hdir⟩
      · exact Or.inr ⟨hp, heq ▸ hfile⟩
      · rw [hdir] at hfile
        cases hfile
  · rintro (⟨f, hf, rfl, rfl⟩ | ⟨hp, hfile⟩)
    · exact h.holds f hf
    · rcases h.others p hp with heq | ⟨hnone, -⟩
      · exact heq.trans hfile
      · rw [hfile] at hnone
        cases hnone

/-- What was written can be read under its path, if that is clean. -/
theorem readFile (hl : t.LinkFree) (h : Wrote t files t') {f : Text × Text} (hf : f ∈ files)
    (hclean : Path.clean f.1 = f.1) : t'.readFile f.1 = .ok f.2 := by
  have hlocate := locate_clean (h.linkFree hl) true (hclean.symm ▸ h.lookable f hf) (h.place_eq f.1 ▸ h.way f hf)
  rw [hclean, h.place_eq] at hlocate
  simp only [Tree.readFile, find, hlocate, h.holds f hf]

end Wrote

theorem mkdir_wrote (h : t.mkdir path = .ok t') : Wrote t [] t' := by
  unfold mkdir at h
  split at h
  · cases h
  split at h
  · cases h
  rename_i p _ _ hnone
  obtain rfl := Except.ok.inj h
  have hp : p ≠ [] := fun hnil => by rw [hnil] at hnone; cases hnone
  refine ⟨rfl, by simp, by simp, by simp, fun q _ => ?_, fun q hq => ?_⟩
  · rw [get?_put hp]
    split
    · rename_i heq
      exact Or.inr ⟨heq ▸ hnone, rfl⟩
    · exact Or.inl rfl
  · rw [get?_put hp, hq, ite_self]

theorem mkdirs_wrote {paths : List Text} (h : t.mkdirs paths = .ok t') : Wrote t [] t' := by
  induction paths generalizing t' with
  | nil =>
    obtain rfl := Except.ok.inj h
    exact .refl t
  | cons path more ih =>
    rw [mkdirs] at h
    split at h
    · obtain rfl := Except.ok.inj h
      exact .refl t
    · cases h
    · split at h
      · rename_i hmore
        exact (ih hmore).trans (mkdir_wrote h) (List.disjoint_nil_left _)
      · cases h

theorem leftByMkdirs_wrote (t : Tree) (paths : List Text) : Wrote t [] (t.leftByMkdirs paths) := by
  induction paths with
  | nil => exact .refl t
  | cons path more ih =>
    rw [leftByMkdirs]
    split
    · exact .refl t
    · rename_i u _ hmore
      have hdirs := mkdirs_wrote hmore
      cases hlast : u.mkdir path with
      | error e => exact hdirs
      | ok v => exact hdirs.trans (mkdir_wrote hlast) (List.disjoint_nil_left _)
    · exact ih

/-- A file that cannot be saved leaves new directories at most. -/
theorem leftBySave_wrote (t : Tree) (path : Text) : Wrote t [] (t.leftBySave path) := t.leftByMkdirs_wrote _

/-- A file is written where its path leads to, if that is the place that it spells. -/
theorem writeFile_wrote_of_locate (hplace : ∀ p, t.locate true path = .ok p → p = t.place path ∧ Reachable t p)
    (h : t.writeFile path content = .ok t') : Wrote t [(path, content)] t' := by
  -- No directory is overwritten, so every way there was is still there.
  unfold writeFile at h
  split at h
  · cases h
  rename_i p hlocate
  split at h
  · cases h
  rename_i hfree
  obtain rfl := Except.ok.inj h
  obtain ⟨rfl, hreach⟩ := hplace p hlocate
  generalize hspelled : t.place path = p at hreach hfree
  have hp : p ≠ [] := fun hnil => hfree (by rw [hnil]; rfl)
  have hdirs : ∀ q, t.get? q = some .dir → (t.put p (.file content)).get? q = some .dir := by
    intro q hq
    have hne : q ≠ p := fun heq => hfree (heq ▸ hq)
    rw [get?_put hp, if_neg hne, hq]
  refine ⟨rfl, ?_, ?_, ?_, fun q hq => Or.inl ?_, hdirs⟩
  · exact List.forall_mem_singleton.mpr (lookable_of_locate hlocate)
  · exact List.forall_mem_singleton.mpr (hspelled.symm ▸ hreach.mono hdirs)
  · exact List.forall_mem_singleton.mpr (by rw [hspelled, get?_put hp, if_pos rfl])
  · have hne : q ≠ p := fun heq => hq (by simp [places, heq, hspelled])
    rw [get?_put hp, if_neg hne]

theorem writeFile_wrote (hl : t.LinkFree) (h : t.writeFile path content = .ok t') : Wrote t [(path, content)] t' :=
  writeFile_wrote_of_locate (fun _ => locate_eq_ok hl) h

/-- A file that is saved stands at the place of its path. -/
theorem save_wrote (hl : t.LinkFree) (h : t.save path content = .ok t') : Wrote t [(path, content)] t' := by
  unfold save at h
  split at h
  · rename_i hmkdir
    have hdirs := mkdirs_wrote hmkdir
    exact hdirs.trans (writeFile_wrote (hdirs.linkFree hl) h) (List.disjoint_nil_left _)
  · cases h

end Tree

end File

end Marginalia
