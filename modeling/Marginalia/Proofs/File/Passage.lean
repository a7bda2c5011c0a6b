import Mathlib
import Marginalia.Proofs.File.Places

/-!
Which places a path comes by. Without links it comes to one place after another, as its names spell them, and what the tree
holds at these places settles where it leads. So a path leads to the same place in trees that are the same there, and a
path that leads somewhere leads there still when directories have been added.
-/

namespace Marginalia

/-- A name behind a separator is the last component. -/
theorem Path.components_below {dir n : Text} (hdir : dir ≠ []) (hn : IsName n) :
    components (dir ++ separator :: n) = components dir ++ [n] := by
  rw [components, Text.splitOn_append, List.foldl_append, Text.splitOn_of_not_mem hn.2.2.2, isAbsolute_append hdir,
    List.foldl_cons, List.foldl_nil, push_isName hn, List.reverse_cons, components]

/-- The name stands at the end of the path as it is. -/
def Path.EndsIn (path n : Text) : Prop := path = n ∨ ∃ dir, path = dir ++ separator :: n

/-- A clean path ends with its last component. -/
theorem Path.endsIn_of_clean {path n : Text} {init : List Text} (hclean : clean path = path)
    (hlast : components path = init ++ [n]) : EndsIn path n := by
  have hne : components path ≠ [] := hlast ▸ List.concat_ne_nil n init
  rw [clean_of_ne_nil hne, hlast] at hclean
  rcases eq_or_ne init [] with rfl | hinit
  · rw [List.nil_append, Text.join_singleton] at hclean
    cases habs : isAbsolute path with
    | true => exact Or.inr ⟨[], by rw [← hclean, habs]; rfl⟩
    | false => exact Or.inl (by rw [← hclean, habs]; rfl)
  · rw [Text.join_append hinit (List.cons_ne_nil n []), Text.join_singleton, slash_eq, List.append_assoc,
      List.singleton_append] at hclean
    cases habs : isAbsolute path with
    | true => exact Or.inr ⟨separator :: Text.join [separator] init, by rw [← hclean, habs]; rfl⟩
    | false => exact Or.inr ⟨Text.join [separator] init, by rw [← hclean, habs]; rfl⟩

/-- A clean path leads into the directory in which it ends. -/
theorem Path.parent_of_last {path n : Text} {init : List Text} (hclean : clean path = path)
    (hlast : components path = init ++ [n]) (hn : IsName n) :
    clean (parent path) = parent path ∧ path = join [parent path, n] := by
  have hone : ∀ m ∈ [n], IsName m := List.forall_mem_singleton.mpr hn
  obtain rfl | ⟨dir, rfl⟩ := endsIn_of_clean hclean hlast
  · have hlead : lead (Text.ofString ".") = [] := by decide
    rw [parent, slash_eq, Text.cutLast?_of_not_mem hn.2.2.2, join_name hn, hlead]
    exact ⟨by decide, rfl⟩
  rw [parent, slash_eq, Text.cutLast?_append _ hn.2.2.2]
  refine ⟨clean_clean _, eq_of_components hclean (clean_join (List.cons_ne_nil n []) fun m hm => (hone m hm).1) ?_ ?_⟩
  · rw [isAbsolute_join (clean_ne_nil _) (List.cons_ne_nil n []) fun m hm => (hone m hm).1, isAbsolute_clean]
    rcases eq_or_ne dir [] with rfl | hne
    · rfl
    · rw [if_neg (by simpa using hne), isAbsolute_append hne]
  · rw [components_join (List.cons_ne_nil n []) hone, components_clean]
    rcases eq_or_ne dir [] with rfl | hne
    · rw [components, List.nil_append, Text.splitOn, if_pos (beq_self_eq_true _), Text.splitOn_of_not_mem hn.2.2.2,
        List.foldl_cons, List.foldl_cons, List.foldl_nil, push_stay (Or.inl rfl), push_isName hn]
      rfl
    · rw [if_neg (by simpa using hne), components_below hne hn]

/-! ### Last names -/

theorem Path.splitOn_of_endsIn {path n : Text} (h : EndsIn path n) (hn : separator ∉ n) :
    ∃ names, Text.splitOn separator path = names ++ [n] ∧
      ∀ ending, separator ∉ n ++ ending → Text.splitOn separator (path ++ ending) = names ++ [n ++ ending] := by
  obtain rfl | ⟨dir, rfl⟩ := h
  · exact ⟨[], Text.splitOn_of_not_mem hn, fun ending hending => Text.splitOn_of_not_mem hending⟩
  · refine ⟨Text.splitOn separator dir, ?_, fun ending hending => ?_⟩
    · rw [Text.splitOn_append, Text.splitOn_of_not_mem hn]
    · rw [List.append_assoc, List.cons_append, Text.splitOn_append, Text.splitOn_of_not_mem hending]

namespace File

namespace Tree

variable {t t' : Tree} {p q here there : Place} {names more : List Text} {path n : Text}

/-! ### Links -/

def isLink : Node → Bool
  | .link _ => true
  | _ => false

/-- The tree without its links. -/
def unlinked (t : Tree) : Tree := { t with entries := t.entries.filter fun e => !isLink e.2 }

theorem unlinked_linkFree (t : Tree) : t.unlinked.LinkFree := by
  refine linkFree_of_entries fun e he target hlink => ?_
  have hkept := (List.mem_filter.mp he).2
  rw [hlink] at hkept
  cases hkept

theorem lookup_unlinked (entries : List (Place × Node)) (h : ∀ target, entries.lookup q ≠ some (.link target)) :
    (entries.filter fun e => !isLink e.2).lookup q = entries.lookup q := by
  induction entries with
  | nil => rfl
  | cons e entries ih =>
    obtain ⟨r, n⟩ := e
    rw [List.lookup_cons] at h ⊢
    rcases eq_or_ne q r with rfl | hne
    · rw [beq_self_eq_true] at h ⊢
      cases n with
      | link target => exact absurd rfl (h target)
      | file content => rw [List.filter_cons_of_pos rfl, List.lookup_cons, beq_self_eq_true]
      | dir => rw [List.filter_cons_of_pos rfl, List.lookup_cons, beq_self_eq_true]
    · rw [beq_eq_false_iff_ne.mpr hne] at h ⊢
      cases hlink : isLink n with
      | true =>
        rw [List.filter_cons_of_neg (by simp [hlink])]
        exact ih h
      | false =>
        rw [List.filter_cons_of_pos (by simp [hlink]), List.lookup_cons, beq_eq_false_iff_ne.mpr hne]
        exact ih h

theorem get?_unlinked (h : ∀ target, t.get? q ≠ some (.link target)) : t.unlinked.get? q = t.get? q := by
  rcases eq_or_ne q [] with rfl | hne
  · rfl
  · rw [get?_of_ne_nil hne] at h ⊢
    rw [get?_of_ne_nil hne]
    exact lookup_unlinked t.entries h

/-! ### Places that a path comes by -/

/-- The places that names spell from a place, one behind the other. -/
def stops : (here : Place) → List Text → List Place
  | here, [] => [here]
  | here, n :: more => here :: stops (Path.push true here.reverse n).reverse more

/-- The places that a path comes by. -/
def comesBy (t : Tree) (path : Text) : List Place := stops [] (t.route path)

theorem mem_stops_here (here : Place) (names : List Text) : here ∈ stops here names := by
  cases names with
  | nil => exact List.mem_singleton_self here
  | cons n more => exact List.mem_cons_self

theorem mem_stops_last (here : Place) (names : List Text) :
    (names.foldl (Path.push true) here.reverse).reverse ∈ stops here names := by
  induction names generalizing here with
  | nil => rw [List.foldl_nil, List.reverse_reverse, stops]; exact List.mem_singleton_self here
  | cons n more ih =>
    have hlast := ih (Path.push true here.reverse n).reverse
    rw [List.reverse_reverse] at hlast
    exact List.mem_cons_of_mem here hlast

theorem place_mem_comesBy (t : Tree) (path : Text) : t.place path ∈ t.comesBy path := mem_stops_last [] _

theorem prefix_of_mem_stops (hnames : ∀ n ∈ names, Path.IsName n) (hq : q ∈ stops here names) :
    here <+: q ∧ q <+: here ++ names := by
  induction names generalizing here with
  | nil =>
    rw [stops, List.mem_singleton] at hq
    rw [hq, List.append_nil]
    exact ⟨List.prefix_refl _, List.prefix_refl _⟩
  | cons n more ih =>
    rcases List.mem_cons.mp hq with rfl | hq
    · exact ⟨List.prefix_refl _, List.prefix_append _ _⟩
    rw [Path.push_isName (hnames n List.mem_cons_self), List.reverse_cons, List.reverse_reverse] at hq
    obtain ⟨hbegins, hends⟩ := ih (fun m hm => hnames m (List.mem_cons_of_mem n hm)) hq
    rw [List.append_assoc, List.singleton_append] at hends
    exact ⟨(List.prefix_append _ _).trans hbegins, hends⟩

/-- A clean path comes by the places on the way to its own and by no others. -/
theorem prefix_of_mem_comesBy (hclean : Path.clean path = path) (hq : q ∈ t.comesBy path) : q <+: t.place path := by
  have hroute := route_clean t path
  rw [hclean] at hroute
  rw [comesBy, hroute] at hq
  exact (prefix_of_mem_stops (t.place_names path) hq).2

theorem stops_concat (here : Place) (names : List Text) (n : Text) :
    stops here (names ++ [n]) =
      stops here names ++ [(Path.push true (names.foldl (Path.push true) here.reverse) n).reverse] := by
  induction names generalizing here with
  | nil => rfl
  | cons m more ih => rw [List.cons_append, stops, stops, ih, List.reverse_reverse, List.foldl_cons, List.cons_append]

theorem climb_concat (hn : Path.IsName n) (here : Place) (names : List Text) :
    climb here (names ++ [n]) = climb here names ++ [n] := by
  induction names generalizing here with
  | nil => rw [List.nil_append, climb_names (List.forall_mem_singleton.mpr hn), climb]
  | cons m more ih =>
    rw [List.cons_append, climb, climb]
    split
    · exact ih here
    split
    · exact ih here.dropLast
    · rw [← List.cons_append, List.append_assoc]

/-- A path that ends in a proper name comes to a place of that name, and with something behind the name to one beside
it, by the same places. -/
theorem comesBy_of_endsIn (t : Tree) (h : Path.EndsIn path n) (hn : Path.IsName n) :
    ∃ dir before, t.place path = dir ++ [n] ∧ t.comesBy path = before ++ [dir ++ [n]] ∧
      ∀ ending, Path.IsName (n ++ ending) → t.place (path ++ ending) = dir ++ [n ++ ending] ∧
        t.comesBy (path ++ ending) = before ++ [dir ++ [n ++ ending]] := by
  have hslash : Text.splitOn '/' = Text.splitOn Path.separator := rfl
  have hne : path ≠ [] := by
    obtain rfl | ⟨dir, rfl⟩ := h
    · exact hn.1
    · exact List.append_ne_nil_of_right_ne_nil _ (List.cons_ne_nil _ _)
  obtain ⟨names, hsplit, hbeside⟩ := Path.splitOn_of_endsIn h hn.2.2.2
  generalize hway : climb (t.start path) names = way
  have hroute : t.route path = way ++ [n] := by rw [route, hslash, hsplit, climb_concat hn, hway]
  have hplace : ∀ {u : Text} {m : Text}, t.route u = way ++ [m] → Path.IsName m →
      t.place u = (way.foldl (Path.push true) []).reverse ++ [m] ∧
        t.comesBy u = stops [] way ++ [(way.foldl (Path.push true) []).reverse ++ [m]] := by
    intro u m hu hm
    rw [place, comesBy, hu, List.foldl_append, stops_concat, List.foldl_cons, List.foldl_nil, List.reverse_nil,
      Path.push_isName hm, List.reverse_cons]
    exact ⟨rfl, rfl⟩
  obtain ⟨hspelled, hcomes⟩ := hplace hroute hn
  refine ⟨_, _, hspelled, hcomes, fun ending hending => hplace ?_ hending⟩
  rw [route, hslash, hbeside ending hending.2.2.2, start, Path.isAbsolute_append hne, ← start, climb_concat hending, hway]

theorem comesBy_congr (h : t'.workDir = t.workDir) (path : Text) : t'.comesBy path = t.comesBy path := by
  rw [comesBy, comesBy, route, route, start, start, h]

/-- A clean path leads into the place of the directory in which it ends. -/
theorem place_parent (t : Tree) {init : List Text} (hclean : Path.clean path = path)
    (hlast : Path.components path = init ++ [n]) (hn : Path.IsName n) :
    Path.clean (Path.parent path) = Path.parent path ∧ t.place path = t.place (Path.parent path) ++ [n] := by
  obtain ⟨hparent, hjoin⟩ := Path.parent_of_last hclean hlast hn
  have hplace : t.place (Path.join [Path.parent path, n]) = t.place (Path.parent path) ++ [n] :=
    t.place_join (List.cons_ne_nil n []) (List.forall_mem_singleton.mpr hn)
  exact ⟨hparent, (congrArg t.place hjoin).trans hplace⟩

/-! ### Looking up -/

section
variable {follow follow' : Bool} {jump jump' : Place → Text → List Text → Except Cause Place}

theorem walkBy_cons_stay {n : Text} (hn : n = [] ∨ n = ".") :
    t.walkBy follow jump here (n :: more) =
      if t.get? here = some .dir then t.walkBy follow jump here more else .error .notDirectory := by
  rw [walkBy]
  split
  · rename_i hdir
    rw [if_pos hdir, if_pos (by simpa using hn)]
  · rename_i hdir
    rw [if_neg hdir]

theorem walkBy_cons_up :
    t.walkBy follow jump here (Text.ofString ".." :: more) =
      if t.get? here = some .dir then t.walkBy follow jump here.dropLast more else .error .notDirectory := by
  have hdots : ((Text.ofString "..").isEmpty || Text.ofString ".." == Text.ofString ".") = false := by decide
  rw [walkBy]
  split
  · rename_i hdir
    rw [if_pos hdir, if_neg (by simp [hdots]), if_pos (beq_self_eq_true _)]
  · rename_i hdir
    rw [if_neg hdir]

theorem walkBy_cons_name {n : Text} (hn : Path.IsName n) (hplain : ∀ target, t.get? (here ++ [n]) ≠ some (.link target)) :
    t.walkBy follow jump here (n :: more) =
      if t.get? here = some .dir then
        if maxName < n.length then .error .nameTooLong
        else if t.get? (here ++ [n]) = none then (if more = [] then .ok (here ++ [n]) else .error .notExist)
        else t.walkBy follow jump (here ++ [n]) more
      else .error .notDirectory := by
  obtain ⟨hne, hdot, hdots, -⟩ := hn
  rw [walkBy]
  split
  · rename_i hdir
    rw [if_pos hdir, if_neg (by simp [hne, hdot]), if_neg (by simpa using hdots)]
    split
    · rfl
    cases hnext : t.get? (here ++ [n]) with
    | none => simp only [hnext, List.isEmpty_iff, if_true]
    | some node =>
      cases node with
      | link target => exact absurd hnext (hplain target)
      | file content => simp only [hnext, reduceCtorEq, if_false]
      | dir => simp only [hnext, reduceCtorEq, if_false]
  · rename_i hdir
    rw [if_neg hdir]

/-- Where the places that names spell are the same in both trees and no links, the names lead to the same place, whether links
are followed or not. -/
theorem walkBy_congr (hhere : ∀ n ∈ here, Path.IsName n) (hnames : ∀ n ∈ names, Path.separator ∉ n)
    (hsame : ∀ q ∈ stops here names, t'.get? q = t.get? q)
    (hplain : ∀ q ∈ stops here names, ∀ target, t.get? q ≠ some (.link target)) :
    t'.walkBy follow' jump' here names = t.walkBy follow jump here names := by
  induction names generalizing here with
  | nil => rw [walkBy, walkBy]
  | cons n names ih =>
    have hmore : ∀ m ∈ names, Path.separator ∉ m := fun m hm => hnames m (List.mem_cons_of_mem n hm)
    have hhere' := hsame here List.mem_cons_self
    have hsame' := fun q hq => hsame q (List.mem_cons_of_mem here hq)
    have hplain' := fun q hq => hplain q (List.mem_cons_of_mem here hq)
    by_cases hstay : n = [] ∨ n = "."
    · rw [Path.push_stay hstay, List.reverse_reverse] at hsame' hplain'
      rw [walkBy_cons_stay hstay, walkBy_cons_stay hstay, hhere', ih hhere hmore hsame' hplain']
    by_cases hup : n = ".."
    · subst hup
      rw [Path.push_up_names hhere, List.reverse_reverse] at hsame' hplain'
      rw [walkBy_cons_up, walkBy_cons_up, hhere',
        ih (fun m hm => hhere m (List.mem_of_mem_dropLast hm)) hmore hsame' hplain']
    obtain ⟨hne, hdot⟩ := not_or.mp hstay
    have hn : Path.IsName n := ⟨hne, hdot, hup, hnames n List.mem_cons_self⟩
    rw [Path.push_isName hn, List.reverse_cons, List.reverse_reverse] at hsame' hplain'
    have hthere := hsame' _ (mem_stops_here _ names)
    have hlink := hplain' _ (mem_stops_here _ names)
    have hnext : ∀ m ∈ here ++ [n], Path.IsName m := fun m hm =>
      (List.mem_append.mp hm).elim (hhere m) fun hm => List.mem_singleton.mp hm ▸ hn
    rw [walkBy_cons_name hn hlink, walkBy_cons_name hn (hthere ▸ hlink), hhere', hthere, ih hnext hmore hsame' hplain']

end

/-- A path that comes by no links, and by places that are the same in both trees, leads to the same place in both. -/
theorem locate_congr (hdir : t'.workDir = t.workDir) (hsame : ∀ q ∈ t.comesBy path, t'.get? q = t.get? q)
    (hplain : ∀ q ∈ t.comesBy path, ∀ target, t.get? q ≠ some (.link target)) (follow follow' : Bool) :
    t'.locate follow' path = t.locate follow path := by
  obtain ⟨jump, hwalk⟩ := t.walk_eq_walkBy follow maxLinks
  obtain ⟨jump', hwalk'⟩ := t'.walk_eq_walkBy follow' maxLinks
  have hroute : t'.route path = t.route path := by rw [route, route, start, start, hdir]
  rw [locate, locate, hwalk, hwalk', hroute, walkBy_congr (fun _ hn => absurd hn List.not_mem_nil)
    (fun _ => not_mem_of_mem_route) hsame hplain]

/-- A path that comes by no links leads to the place that it spells, if anywhere. -/
theorem eq_place_of_locate (hplain : ∀ q ∈ t.comesBy path, ∀ target, t.get? q ≠ some (.link target)) {follow : Bool}
    (h : t.locate follow path = .ok p) : p = t.place path := by
  have hsame : ∀ q ∈ t.comesBy path, t.unlinked.get? q = t.get? q := fun q hq => get?_unlinked (hplain q hq)
  have hdir : t.unlinked.workDir = t.workDir := rfl
  exact (locate_eq_ok t.unlinked_linkFree ((locate_congr hdir hsame hplain follow follow).trans h)).1

theorem find_congr (hdir : t'.workDir = t.workDir) (hsame : ∀ q ∈ t.comesBy path, t'.get? q = t.get? q)
    (hplain : ∀ q ∈ t.comesBy path, ∀ target, t.get? q ≠ some (.link target)) (follow follow' : Bool) :
    t'.find follow' path = t.find follow path := by
  rw [find, find, locate_congr hdir hsame hplain follow follow']
  cases hp : t.locate follow path with
  | error c => rfl
  | ok p =>
    obtain rfl := eq_place_of_locate hplain hp
    simp only [hsame _ (t.place_mem_comesBy path)]

/-- Without links it makes no difference whether they are followed. -/
theorem locate_follow (hl : t.LinkFree) (path : Text) (follow follow' : Bool) :
    t.locate follow' path = t.locate follow path :=
  locate_congr rfl (fun _ _ => rfl) (fun q _ => hl q) follow follow'

/-! ### Ways that are found -/

section
variable {follow : Bool} {jump jump' : Place → Text → List Text → Except Cause Place} {node : Node}

theorem stops_ne_nil (here : Place) (names : List Text) : stops here names ≠ [] := by
  cases names <;> exact List.cons_ne_nil _ _

/-- On the way to a place that is found there are directories. -/
theorem dirs_of_walkBy (hl : t.LinkFree) (hhere : ∀ n ∈ here, Path.IsName n) (hnames : ∀ n ∈ names, Path.separator ∉ n)
    (h : t.walkBy follow jump here names = .ok there) : ∀ q ∈ (stops here names).dropLast, t.get? q = some .dir := by
  induction names generalizing here with
  | nil => exact fun q hq => absurd hq List.not_mem_nil
  | cons n names ih =>
    have hmore : ∀ m ∈ names, Path.separator ∉ m := fun m hm => hnames m (List.mem_cons_of_mem n hm)
    obtain ⟨hdir, hcases⟩ := (walkBy_cons_eq_ok hl).mp h
    rw [stops, List.dropLast_cons_of_ne_nil (stops_ne_nil _ _), List.forall_mem_cons]
    refine ⟨hdir, ?_⟩
    obtain ⟨hstay, hrest⟩ | ⟨rfl, hrest⟩ | ⟨⟨hne, hdot, hdots⟩, -, -, hrest⟩ := hcases
    · rw [Path.push_stay hstay, List.reverse_reverse]
      exact ih hhere hmore hrest
    · rw [Path.push_up_names hhere, List.reverse_reverse]
      exact ih (fun m hm => hhere m (List.mem_of_mem_dropLast hm)) hmore hrest
    · have hn : Path.IsName n := ⟨hne, hdot, hdots, hnames n List.mem_cons_self⟩
      rw [Path.push_isName hn, List.reverse_cons, List.reverse_reverse]
      exact ih (fun m hm => (List.mem_append.mp hm).elim (hhere m) fun hm => List.mem_singleton.mp hm ▸ hn) hmore hrest

theorem dirs_of_find (hl : t.LinkFree) (h : t.find follow path = .ok (p, node)) :
    ∀ q ∈ (t.comesBy path).dropLast, t.get? q = some .dir := by
  obtain ⟨hlook, -⟩ := find_eq_ok hl h
  obtain ⟨jump, hwalk⟩ := t.locate_eq_walkBy follow hlook
  unfold find at h
  split at h
  · cases h
  rename_i hlocate
  rw [hwalk] at hlocate
  exact dirs_of_walkBy hl (fun _ hn => absurd hn List.not_mem_nil) (fun _ => not_mem_of_mem_route) hlocate

theorem walkBy_mono (hl : t.LinkFree) (hl' : t'.LinkFree) (hdirs : ∀ q, t.get? q = some .dir → t'.get? q = some .dir)
    (h : t.walkBy follow jump here names = .ok there) : t'.walkBy follow jump' here names = .ok there := by
  induction names generalizing here with
  | nil =>
    rw [walkBy] at h ⊢
    exact h
  | cons n names ih =>
    obtain ⟨hdir, hcases⟩ := (walkBy_cons_eq_ok hl).mp h
    refine (walkBy_cons_eq_ok hl').mpr ⟨hdirs here hdir, ?_⟩
    obtain ⟨hstay, hrest⟩ | ⟨hup, hrest⟩ | ⟨hn, hlen, -, hrest⟩ := hcases
    · exact Or.inl ⟨hstay, ih hrest⟩
    · exact Or.inr (Or.inl ⟨hup, ih hrest⟩)
    · refine Or.inr (Or.inr ⟨hn, hlen, fun hnone => ?_, ih hrest⟩)
      -- Where names are left to go, the walk has come to a directory.
      cases names with
      | nil => rfl
      | cons m more =>
        have hnext := hdirs _ ((walkBy_cons_eq_ok hl).mp hrest).1
        rw [hnone] at hnext
        cases hnext

/-- Where directories have stayed directories, a path to something that is there leads there still. -/
theorem find_mono (hl : t.LinkFree) (hl' : t'.LinkFree) (hdir : t'.workDir = t.workDir)
    (hdirs : ∀ q, t.get? q = some .dir → t'.get? q = some .dir) {node' : Node}
    (h : t.find follow path = .ok (p, node)) (hthere : t'.get? p = some node') :
    t'.find follow path = .ok (p, node') := by
  obtain ⟨hlook, -⟩ := find_eq_ok hl h
  obtain ⟨jump, hwalk⟩ := t.locate_eq_walkBy follow hlook
  obtain ⟨jump', hwalk'⟩ := t'.locate_eq_walkBy follow hlook
  have hroute : t'.route path = t.route path := by rw [route, route, start, start, hdir]
  unfold find at h
  split at h
  · cases h
  rename_i place hlocate
  split at h
  swap
  · cases h
  obtain ⟨rfl, -⟩ := Prod.mk.inj (Except.ok.inj h)
  rw [hwalk] at hlocate
  rw [find, hwalk', hroute, walkBy_mono hl hl' hdirs hlocate]
  simp only [hthere]

end

end Tree

end File

end Marginalia
