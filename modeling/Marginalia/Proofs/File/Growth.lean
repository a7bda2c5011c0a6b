import Mathlib
import Marginalia.Proofs.File.Saving
import Marginalia.Proofs.Site.Finding
import Marginalia.Proofs.Text.Symbols

/-!
What patterns find in a tree that has grown. A part of a pattern that ends in plain octets fits only names with that
ending. So if no name of that ending is new in the tree, a pattern whose last part has the ending finds what it found
before: new directories may fit the parts before it, but there is nothing in them for it to find.
-/

namespace Marginalia

namespace File

namespace Pattern

variable {t rest name : Text} {ending : Text} {fuel : Nat} {pieces more : List Piece}

/-! ### Endings of patterns -/

/-- An ending that stands for itself whatever comes before it: no signs of patterns, and no end of a class. -/
structure PlainEnding (ending : Text) : Prop where
  signs : hasSigns ending = false
  bracket : (']' : UInt8) ∉ ending

theorem classChar?_suffix {n : Nat} (h : classChar? t = some (n, rest)) : rest <:+ t := by
  have hread : ∀ {u r : Text} {c : Char}, Text.next? u = some (.char c, r) →
      (if r.isEmpty = true then none else some (c.toNat, r)) = some (n, rest) → rest <:+ u := by
    intro u r c hnext hr
    split at hr
    · cases hr
    · obtain ⟨-, rfl⟩ := Prod.mk.inj (Option.some.inj hr)
      exact ⟨_, Text.octets_append hnext⟩
  unfold classChar? at h
  simp only at h
  split at h
  · cases h
  split at h
  · cases h
  split at h
  · split at h
    · rename_i hnext
      exact (hread hnext h).trans (List.suffix_cons _ _)
    · cases h
  · split at h
    · rename_i hnext
      exact hread hnext h
    · cases h

/-- A class ends at a bracket. -/
theorem ranges?_rest {first : Bool} {ranges : List (Nat × Nat)} (h : ranges? fuel first t = some (ranges, rest)) :
    (']' : UInt8) :: rest <:+ t := by
  induction fuel generalizing first t ranges with
  | zero => cases h
  | succ fuel ih =>
    rw [ranges?] at h
    split at h
    · rename_i hend
      obtain ⟨-, rfl⟩ := Prod.mk.inj (Option.some.inj h)
      rw [Bool.and_eq_true, beq_iff_eq] at hend
      obtain ⟨u, rfl⟩ := List.head?_eq_some_iff.mp hend.2
      exact List.suffix_refl _
    · obtain ⟨⟨low, u⟩, hlow, h⟩ := Option.bind_eq_some_iff.mp h
      have hmore : ∀ {high : Nat} {v : Text}, v <:+ u →
          ((ranges? fuel false v).bind fun r => some ((low, high) :: r.1, r.2)) = some (ranges, rest) →
          (']' : UInt8) :: rest <:+ t := by
        intro high v hv hranges
        obtain ⟨⟨more, w⟩, hmore, heq⟩ := Option.bind_eq_some_iff.mp hranges
        obtain ⟨-, rfl⟩ := Prod.mk.inj (Option.some.inj heq)
        exact (ih hmore).trans (hv.trans (classChar?_suffix hlow))
      simp only at h
      split at h
      · obtain ⟨⟨high, v⟩, hhigh, h⟩ := Option.bind_eq_some_iff.mp h
        exact hmore ((classChar?_suffix hhigh).trans (List.drop_suffix 1 u)) h
      · exact hmore (List.suffix_refl u) h

theorem eq_octets_of_pieces? (h : hasSigns t = false) (hpieces : pieces? fuel t = some pieces) :
    pieces = t.map .octet := by
  induction t generalizing fuel pieces with
  | nil => cases fuel <;> exact (Option.some.inj hpieces).symm
  | cons c t ih =>
    simp only [hasSigns, List.any_cons, Bool.or_eq_false_iff] at h
    obtain ⟨⟨⟨⟨hstar, hany⟩, hclass⟩, hescape⟩, ht⟩ := h
    cases fuel with
    | zero => cases hpieces
    | succ fuel =>
      simp only [pieces?, hstar, hany, hclass, hescape, Bool.false_eq_true, if_false, Option.map_eq_some_iff] at hpieces
      obtain ⟨more, hmore, rfl⟩ := hpieces
      rw [ih ht hmore, List.map_cons]

theorem PlainEnding.exists_append_of_bracket (hending : PlainEnding ending) (h : (']' : UInt8) :: rest <:+ t ++ ending) :
    ∃ u, rest = u ++ ending := by
  obtain ⟨front, hfront⟩ := h
  rcases List.append_eq_append_iff.mp hfront with ⟨u, -, hu⟩ | ⟨u, -, hu⟩
  · cases u with
    | nil =>
      rw [List.nil_append] at hu
      exact absurd (hu ▸ List.mem_cons_self) hending.bracket
    | cons d u => exact ⟨u, (List.cons.inj hu).2⟩
  · refine absurd ?_ hending.bracket
    rw [hu]
    exact List.mem_append_right _ List.mem_cons_self

/-- The pieces of a pattern with a plain ending end with its octets. -/
theorem pieces?_ending (hending : PlainEnding ending) (h : pieces? fuel (t ++ ending) = some pieces) :
    ∃ before, pieces = before ++ ending.map .octet := by
  induction fuel generalizing t pieces with
  | zero =>
    cases t with
    | nil => exact ⟨[], eq_octets_of_pieces? hending.signs h⟩
    | cons c t => cases h
  | succ fuel ih =>
    have hmore : ∀ {u : Text} {first : Piece}, (pieces? fuel (u ++ ending)).map (first :: ·) = some pieces →
        ∃ before, pieces = before ++ ending.map .octet := by
      intro u first hu
      obtain ⟨more, hmore, rfl⟩ := Option.map_eq_some_iff.mp hu
      obtain ⟨before, rfl⟩ := ih hmore
      exact ⟨first :: before, rfl⟩
    cases t with
    | nil => exact ⟨[], eq_octets_of_pieces? hending.signs h⟩
    | cons c t =>
      rw [List.cons_append, pieces?.eq_def] at h
      simp only at h
      split at h
      · exact hmore h
      split at h
      · exact hmore h
      split at h
      · -- The class ends before the ending begins, since there is no bracket in it.
        simp only [Option.bind_eq_bind, Option.bind_eq_some_iff, Prod.exists] at h
        obtain ⟨ranges, rest, hranges, h⟩ := h
        have hsuffix : (']' : UInt8) :: rest <:+ t ++ ending := by
          refine (ranges?_rest hranges).trans ?_
          split
          · exact List.drop_suffix 1 _
          · exact List.suffix_refl _
        obtain ⟨u, rfl⟩ := hending.exists_append_of_bracket hsuffix
        exact hmore h
      split at h
      · cases t with
        | cons d t => exact hmore h
        | nil =>
          rw [List.nil_append] at h
          cases hfirst : ending with
          | nil => exact ⟨pieces, by simp⟩
          | cons d behind =>
            rw [hfirst] at h
            obtain ⟨more, hbehind, rfl⟩ := Option.map_eq_some_iff.mp h
            have hsigns : hasSigns behind = false := by
              have hall := hending.signs
              rw [hfirst, hasSigns, List.any_cons, Bool.or_eq_false_iff] at hall
              exact hall.2
            exact ⟨[], by rw [eq_octets_of_pieces? hsigns hbehind]; rfl⟩
      · exact hmore h

theorem tails_suffix (h : rest ∈ tails name) : rest <:+ name := by
  induction name with
  | nil =>
    rw [tails, List.mem_singleton] at h
    exact h ▸ List.suffix_refl _
  | cons c name ih =>
    rw [tails] at h
    rcases List.mem_cons.mp h with rfl | h
    · exact List.suffix_refl _
    · split at h
      · cases h
      · exact (ih h).trans (List.suffix_cons c name)

/-- What fits a pattern ends with what fits its end. -/
theorem exists_suffix_of_fits (h : fits (pieces ++ more) name = true) :
    ∃ rest, rest <:+ name ∧ fits more rest = true := by
  induction pieces generalizing name with
  | nil => exact ⟨name, List.suffix_refl _, h⟩
  | cons piece pieces ih =>
    have hstep : ∀ {rest : Text}, rest <:+ name → fits (pieces ++ more) rest = true →
        ∃ rest, rest <:+ name ∧ fits more rest = true := by
      intro rest hrest hfits
      obtain ⟨last, hlast, hmore⟩ := ih hfits
      exact ⟨last, hlast.trans hrest, hmore⟩
    rw [List.cons_append] at h
    cases piece with
    | star =>
      rw [fits, List.any_eq_true] at h
      obtain ⟨rest, hrest, hfits⟩ := h
      exact hstep (tails_suffix hrest) hfits
    | any =>
      rw [fits] at h
      split at h
      · rename_i hnext
        exact hstep ⟨_, Text.octets_append hnext⟩ (Bool.and_eq_true _ _ ▸ h).2
      · cases h
    | oneOf negated ranges =>
      rw [fits] at h
      split at h
      · rename_i hnext
        exact hstep ⟨_, Text.octets_append hnext⟩ (Bool.and_eq_true _ _ ▸ h).2
      · cases h
    | octet c =>
      cases name with
      | nil => simp [fits] at h
      | cons d name =>
        rw [fits, Bool.and_eq_true] at h
        exact hstep (List.suffix_cons d name) h.2

/-- A part of a pattern with a plain ending fits only names with that ending. -/
theorem endsWith_of_fits (hending : PlainEnding ending) (ht : Text.endsWith t ending = true)
    (hpieces : pieces? fuel t = some pieces) (h : fits pieces name = true) : Text.endsWith name ending = true := by
  rw [Text.endsWith, List.isSuffixOf_iff_suffix] at ht ⊢
  obtain ⟨u, rfl⟩ := ht
  obtain ⟨before, rfl⟩ := pieces?_ending hending hpieces
  obtain ⟨rest, hrest, hfits⟩ := exists_suffix_of_fits h
  rwa [fits_octets.mp hfits] at hrest

end Pattern

/-! ### Clean paths -/

namespace Tree

variable {t : Tree} {path dir n : Text} {place p : Place} {node : Node} {follow : Bool}

/-- What a clean path leads to is what stands at its place, if there is a way. -/
theorem find_eq_ok_iff (hl : t.LinkFree) (hclean : Path.clean path = path) :
    t.find follow path = .ok (t.place path, node) ↔
      Lookable path ∧ Reachable t (t.place path) ∧ t.get? (t.place path) = some node := by
  constructor
  · intro hfind
    obtain ⟨hlook, -, hreach, hget⟩ := find_eq_ok hl hfind
    exact ⟨hlook, hreach, hget⟩
  · rintro ⟨hlook, hreach, hget⟩
    have hlocate := locate_clean hl follow (hclean.symm ▸ hlook) hreach
    rw [hclean] at hlocate
    rw [find, hlocate]
    simp only [hget]

theorem lstat_eq_ok_iff (hl : t.LinkFree) : t.lstat path = .ok node ↔ t.find false path = .ok (t.place path, node) := by
  rw [lstat]
  cases hfind : t.find false path with
  | error c => exact ⟨nofun, nofun⟩
  | ok r =>
    obtain ⟨p, found⟩ := r
    obtain ⟨-, rfl, -⟩ := find_eq_ok hl hfind
    simp only [Except.ok.injEq, Prod.mk.injEq, true_and]

theorem mem_namesAt (hl : t.LinkFree) (hn : n ∈ t.namesAt dir) :
    t.find true dir = .ok (t.place dir, .dir) ∧ n ∈ t.names (t.place dir) := by
  unfold namesAt at hn
  split at hn
  · rename_i p hp
    obtain ⟨-, rfl, -⟩ := find_eq_ok hl hp
    exact ⟨hp, hn⟩
  · cases hn

theorem isName_of_mem_namesAt (hwf : t.WellFormed) (h : n ∈ t.namesAt dir) : Path.IsName n := by
  unfold namesAt at h
  split at h
  · exact hwf.isName_of_mem_names h
  · cases h

end Tree

namespace Pattern

/-- A clean path with the signs of a pattern ends in a proper name. -/
theorem exists_last_of_signs {path : Text} (hclean : Path.clean path = path) (hsigns : ¬hasSigns path = false) :
    ∃ init n, Path.components path = init ++ [n] ∧ Path.IsName n := by
  obtain ⟨names, k, heq, hnames, -⟩ := Path.cleaned_components path
  cases names with
  | cons n names =>
    refine ⟨(names ++ List.replicate k (Text.ofString "..")).reverse, n, ?_, hnames n List.mem_cons_self⟩
    rw [← List.reverse_reverse (Path.components path), heq, List.cons_append, List.reverse_cons]
  | nil =>
    -- Double dots hold no signs.
    refine absurd ?_ hsigns
    have hdots : Path.components path = List.replicate k (Text.ofString "..") := by
      rw [← List.reverse_reverse (Path.components path), heq, List.nil_append, List.reverse_replicate]
    have hplain : ∀ c ∈ path, c = Path.separator ∨ c = '.' := by
      intro c hc
      rw [← hclean, Path.clean, hdots] at hc
      have hjoin : c ∈ Text.join "/" (List.replicate k (Text.ofString "..")) → c = Path.separator ∨ c = '.' := by
        intro hc
        rcases Text.mem_of_mem_join hc with hc | ⟨n, hn, hc⟩
        · exact Or.inl (List.mem_singleton.mp (Path.slash_eq ▸ hc))
        · rw [List.eq_of_mem_replicate hn] at hc
          exact Or.inr (by simpa [show Text.ofString ".." = [('.' : UInt8), '.'] by decide] using hc)
      split at hc
      · exact (List.mem_cons.mp hc).elim Or.inl hjoin
      split at hc
      · exact Or.inr (List.mem_singleton.mp hc)
      · exact hjoin hc
    rw [hasSigns, List.any_eq_false]
    intro c hc
    rcases hplain c hc with rfl | rfl <;> decide

end Pattern

/-! ### Trees that have grown -/

/-- A name has one of the endings. -/
def Ends (endings : List Text) (n : Text) : Prop := ∃ ending ∈ endings, Text.endsWith n ending = true

/-- The second tree has grown out of the first: nothing is gone, directories have stayed directories, and what stands under
names with one of the endings is as it was. -/
structure Grown (endings : List Text) (t t' : Tree) : Prop where
  workDir : t'.workDir = t.workDir
  linkFree : t.LinkFree
  linkFree' : t'.LinkFree
  wellFormed : t.WellFormed
  wellFormed' : t'.WellFormed
  rooted : t.Rooted
  dirs : ∀ q, t.get? q = some .dir → t'.get? q = some .dir
  kept : ∀ q, t.get? q ≠ none → t'.get? q ≠ none
  marked : ∀ dir n, Ends endings n → t'.get? (dir ++ [n]) = t.get? (dir ++ [n])

namespace Grown

variable {endings : List Text} {ending path dir n : Text} {t t' : Tree} {place : Place} {pieces : List Piece} {fuel : Nat}
  {init : List Text} {node : Node}

/-- Is there something at the place of a path? -/
def present (t : Tree) (path : Text) : Bool := (t.get? (t.place path)).isSome

theorem place_eq (h : Grown endings t t') (path : Text) : t'.place path = t.place path := Tree.place_congr h.workDir path

theorem names_eq (h : Grown endings t t') (place : Place) :
    t.names place = (t'.names place).filter fun name => (t.get? (place ++ [name])).isSome := by
  refine h.wellFormed.names_unique ((h.wellFormed'.names_ascend place).filter _) fun name => ?_
  rw [List.mem_filter, Tree.mem_names, Tree.mem_names]
  refine ⟨fun hname => ⟨?_, hname⟩, fun hname => hname.2⟩
  rw [Option.isSome_iff_ne_none] at hname ⊢
  exact h.kept _ hname

/-- What is found before is found still, though it may be another file now. -/
theorem find_still (h : Grown endings t t') {follow : Bool} (hfind : t.find follow path = .ok (place, node)) :
    ∃ node', t'.find follow path = .ok (place, node') ∧ t'.get? place = some node' := by
  obtain ⟨-, -, -, hget⟩ := Tree.find_eq_ok h.linkFree hfind
  obtain ⟨node', hnode'⟩ := Option.ne_none_iff_exists'.mp (h.kept place (by rw [hget]; exact Option.some_ne_none _))
  exact ⟨node', Tree.find_mono h.linkFree h.linkFree' h.workDir h.dirs hfind hnode', hnode'⟩

/-- Of what a clean path leads to now, what was there before could be found before. -/
theorem find_iff (h : Grown endings t t') (hclean : Path.clean path = path) {follow : Bool} :
    t.find follow path = .ok (t.place path, node) ↔
      (∃ node', t'.find follow path = .ok (t'.place path, node')) ∧ t.get? (t.place path) = some node := by
  constructor
  · intro hfind
    obtain ⟨node', hfind', -⟩ := h.find_still hfind
    exact ⟨⟨node', (h.place_eq path).symm ▸ hfind'⟩, (Tree.find_eq_ok h.linkFree hfind).2.2.2⟩
  · rintro ⟨⟨node', hfind'⟩, hget⟩
    obtain ⟨hlook, hreach', -⟩ := (Tree.find_eq_ok_iff h.linkFree' hclean).mp hfind'
    rw [h.place_eq path] at hreach'
    refine (Tree.find_eq_ok_iff h.linkFree hclean).mpr ⟨hlook, ⟨hreach'.names, fun q hq hne => ?_⟩, hget⟩
    exact h.rooted.way (by rw [hget]; exact Option.some_ne_none _) hq hne

/-- A clean path to what was there, under a name with one of the endings, comes by places that have not changed. -/
theorem same_on_way (h : Grown endings t t') (hclean : Path.clean path = path) (hthere : t.get? (t.place path) ≠ none)
    {front : Place} (hplace : t.place path = front ++ [n]) (hends : Ends endings n) :
    ∀ q ∈ t.comesBy path, t'.get? q = t.get? q := by
  intro q hq
  rcases eq_or_ne q (t.place path) with rfl | hne
  · rw [hplace]
    exact h.marked front n hends
  · have hdir := h.rooted.way hthere (Tree.prefix_of_mem_comesBy hclean hq) hne
    rw [h.dirs q hdir, hdir]

theorem namesAt_eq (h : Grown endings t t') (hclean : Path.clean dir = dir) :
    t.namesAt dir = (t'.namesAt dir).filter fun name => (t.get? (t.place dir ++ [name])).isSome := by
  have hat : ∀ {u : Tree}, u.find true dir = .ok (u.place dir, .dir) → u.namesAt dir = u.names (u.place dir) := by
    intro u hfind
    rw [Tree.namesAt, hfind]
  have hnone : ∀ {u : Tree}, u.LinkFree → u.find true dir ≠ .ok (u.place dir, .dir) → u.namesAt dir = [] :=
    fun hl hfind => List.eq_nil_iff_forall_not_mem.mpr fun _ hname => hfind (Tree.mem_namesAt hl hname).1
  by_cases hfind : t.find true dir = .ok (t.place dir, .dir)
  · obtain ⟨⟨node', hfind'⟩, hget⟩ := (h.find_iff hclean).mp hfind
    obtain ⟨-, -, -, hget'⟩ := Tree.find_eq_ok h.linkFree' hfind'
    rw [h.place_eq dir] at hget'
    obtain rfl := Option.some.inj (hget'.symm.trans (h.dirs _ hget))
    rw [hat hfind, hat hfind', h.place_eq dir, h.names_eq]
  rw [hnone h.linkFree hfind]
  by_cases hfind' : t'.find true dir = .ok (t'.place dir, .dir)
  · -- The directory is new, so that nothing in it was there before.
    have hnot : t.get? (t.place dir) ≠ some .dir := fun hget => hfind ((h.find_iff hclean).mpr ⟨⟨_, hfind'⟩, hget⟩)
    rw [hat hfind', h.place_eq dir, ← h.names_eq, h.rooted.names_eq_nil hnot]
  · rw [hnone h.linkFree' hfind', List.filter_nil]

/-! ### What patterns find -/

theorem present_join {name : Text} (hname : Path.IsName name) :
    present t (Path.join [dir, name]) = (t.get? (t.place dir ++ [name])).isSome := by
  rw [present, Tree.place_join (List.cons_ne_nil _ _) (List.forall_mem_singleton.mpr hname)]

theorem inDirectory_eq (h : Grown endings t t') (hclean : Path.clean dir = dir) :
    Pattern.inDirectory t pieces dir = (Pattern.inDirectory t' pieces dir).filter (present t) := by
  rw [Pattern.inDirectory, Pattern.inDirectory, h.namesAt_eq hclean, List.filter_map, List.filter_filter,
    List.filter_filter]
  refine congrArg _ (List.filter_congr fun name hname => ?_)
  rw [Function.comp_apply, present_join (Tree.isName_of_mem_namesAt h.wellFormed' hname), Bool.and_comm]

theorem inDirectory_eq_nil (hl : t.LinkFree) (habsent : present t dir = false) : Pattern.inDirectory t pieces dir = [] := by
  have hempty : t.namesAt dir = [] := by
    refine List.eq_nil_iff_forall_not_mem.mpr fun name hname => ?_
    obtain ⟨-, -, -, hget⟩ := Tree.find_eq_ok hl (Tree.mem_namesAt hl hname).1
    rw [present, hget] at habsent
    cases habsent
  rw [Pattern.inDirectory, hempty, List.filter_nil, List.map_nil]

/-- What a pattern finds is clean and is there, and its last name has the ending if that of the pattern has. -/
structure Match (ending : Text) (t : Tree) (n path : Text) : Prop where
  clean : Path.clean path = path
  there : t.get? (t.place path) ≠ none
  last : ∃ dir name, t.place path = dir ++ [name] ∧ (Text.endsWith n ending = true → Text.endsWith name ending = true)

theorem match_inDirectory (hending : Pattern.PlainEnding ending) (hl : t.LinkFree) (hwf : t.WellFormed) {found : Text}
    (hpieces : Pattern.pieces? fuel n = some pieces) (hfound : found ∈ Pattern.inDirectory t pieces dir) :
    Match ending t n found := by
  obtain ⟨name, hname, rfl⟩ := List.mem_map.mp hfound
  obtain ⟨hname, hfits⟩ := List.mem_filter.mp hname
  have hproper := Tree.isName_of_mem_namesAt hwf hname
  have hplace : t.place (Path.join [dir, name]) = t.place dir ++ [name] :=
    Tree.place_join (List.cons_ne_nil _ _) (List.forall_mem_singleton.mpr hproper)
  refine ⟨Path.clean_join (List.cons_ne_nil _ _) (List.forall_mem_singleton.mpr hproper.1), ?_, ?_⟩
  · rw [hplace]
    exact Option.isSome_iff_ne_none.mp (Tree.mem_names.mp (Tree.mem_namesAt hl hname).2)
  · exact ⟨_, name, hplace, fun hends => Pattern.endsWith_of_fits hending hends hpieces hfits⟩

theorem paths?_itself (t : Tree) (fuel : Nat) (hsigns : Pattern.hasSigns path = false) :
    Pattern.paths? t (fuel + 1) path = (Pattern.pieces? path.length path).bind fun _ =>
      match t.lstat path with
      | .ok _ => some [path]
      | .error _ => some [] := by
  rw [Pattern.paths?, hsigns]
  rfl

/-- The parts of a pattern below a directory. -/
theorem paths?_parent (t : Tree) (fuel : Nat) (hsigns : ¬Pattern.hasSigns path = false)
    (hclean : Path.clean path = path) (hlast : Path.components path = init ++ [n]) (hn : Path.IsName n) :
    Pattern.paths? t (fuel + 1) path = (Pattern.pieces? path.length path).bind fun _ =>
      (Pattern.pieces? n.length n).bind fun pieces =>
        if Pattern.hasSigns (Path.parent path) = false then some (Pattern.inDirectory t pieces (Path.parent path))
        else (Pattern.paths? t fuel (Path.parent path)).map fun dirs => dirs.flatMap (Pattern.inDirectory t pieces) := by
  obtain ⟨hparent, hjoin⟩ := Path.parent_of_last hclean hlast hn
  have hcut : Pattern.cutLastName path = (Path.parent path, n) := by
    rw [hjoin, Path.join_name hn, Pattern.cutLastName_lead hn, ← Path.join_name hn, ← hjoin, hparent]
  rw [Pattern.paths?, hcut, Bool.eq_true_of_not_eq_false hsigns]
  simp only [Bool.not_eq_true', Option.bind_eq_bind, Option.map_eq_bind]
  rfl

theorem match_paths? (hending : Pattern.PlainEnding ending) (hl : t.LinkFree) (hwf : t.WellFormed) {found : List Text}
    (hclean : Path.clean path = path) (hlast : Path.components path = init ++ [n]) (hn : Path.IsName n)
    (h : Pattern.paths? t fuel path = some found) : ∀ p ∈ found, Match ending t n p := by
  intro p hp
  cases fuel with
  | zero => cases h
  | succ fuel =>
    by_cases hsigns : Pattern.hasSigns path = false
    · rw [paths?_itself t fuel hsigns] at h
      obtain ⟨-, -, h⟩ := Option.bind_eq_some_iff.mp h
      split at h
      · rename_i node hstat
        obtain rfl := Option.some.inj h
        obtain rfl := List.mem_singleton.mp hp
        obtain ⟨-, -, -, hget⟩ := Tree.find_eq_ok hl ((Tree.lstat_eq_ok_iff hl).mp hstat)
        exact ⟨hclean, hget ▸ Option.some_ne_none _, _, n, (t.place_parent hclean hlast hn).2, id⟩
      · obtain rfl := Option.some.inj h
        cases hp
    · rw [paths?_parent t fuel hsigns hclean hlast hn] at h
      obtain ⟨-, -, h⟩ := Option.bind_eq_some_iff.mp h
      obtain ⟨pieces, hpieces, h⟩ := Option.bind_eq_some_iff.mp h
      split at h
      · obtain rfl := Option.some.inj h
        exact match_inDirectory hending hl hwf hpieces hp
      · obtain ⟨dirs, -, rfl⟩ := Option.map_eq_some_iff.mp h
        obtain ⟨d, -, hp⟩ := List.mem_flatMap.mp hp
        exact match_inDirectory hending hl hwf hpieces hp

/-- A path that stands for itself is found now, and was there before, if it was found before. -/
theorem itself_eq (h : Grown endings t t') (hclean : Path.clean path = path) :
    (match t.lstat path with
      | .ok _ => some [path]
      | .error _ => some []) =
    (match t'.lstat path with
      | .ok _ => some [path]
      | .error _ => some []).map (List.filter (present t)) := by
  have hstat : ∀ {node : Node}, t.lstat path = .ok node ↔
      (∃ node', t'.lstat path = .ok node') ∧ t.get? (t.place path) = some node := by
    intro node
    simp only [Tree.lstat_eq_ok_iff h.linkFree, Tree.lstat_eq_ok_iff h.linkFree', h.find_iff hclean]
  cases hnow : t'.lstat path with
  | error e' =>
    cases hbefore : t.lstat path with
    | error e => rfl
    | ok node =>
      obtain ⟨⟨node', hfound⟩, -⟩ := hstat.mp hbefore
      rw [hnow] at hfound
      cases hfound
  | ok node' =>
    cases hget : t.get? (t.place path) with
    | none =>
      cases hbefore : t.lstat path with
      | error e => simp [present, hget]
      | ok node => simp [(hstat.mp hbefore).2] at hget
    | some node => simp [hstat.mpr ⟨⟨node', hnow⟩, hget⟩, present, hget]

/-- Of what a pattern finds now, what was there before is what it found before. -/
theorem paths?_eq (h : Grown endings t t') (hclean : Path.clean path = path) :
    Pattern.paths? t fuel path = (Pattern.paths? t' fuel path).map (·.filter (present t)) := by
  induction fuel generalizing path with
  | zero => rfl
  | succ fuel ih =>
    by_cases hsigns : Pattern.hasSigns path = false
    · rw [paths?_itself t fuel hsigns, paths?_itself t' fuel hsigns, Option.map_bind]
      exact congrArg _ (funext fun _ => h.itself_eq hclean)
    obtain ⟨init, n, hlast, hn⟩ := Pattern.exists_last_of_signs hclean hsigns
    obtain ⟨hparent, -⟩ := Path.parent_of_last hclean hlast hn
    rw [paths?_parent t fuel hsigns hclean hlast hn, paths?_parent t' fuel hsigns hclean hlast hn, Option.map_bind]
    refine congrArg _ (funext fun _ => ?_)
    rw [Function.comp_apply, Option.map_bind]
    refine congrArg _ (funext fun pieces => ?_)
    rw [Function.comp_apply]
    split
    · rw [Option.map_some, h.inDirectory_eq hparent]
    · rename_i hdirsigns
      obtain ⟨init', n', hlast', hn'⟩ := Pattern.exists_last_of_signs hparent hdirsigns
      rw [ih hparent]
      cases hdirs : Pattern.paths? t' fuel (Path.parent path) with
      | none => rfl
      | some dirs =>
        have hnone : Pattern.PlainEnding [] := ⟨rfl, List.not_mem_nil⟩
        have hmatches := match_paths? hnone h.linkFree' h.wellFormed' hparent hlast' hn' hdirs
        simp only [Option.map_some, Option.some.injEq]
        rw [List.filter_flatMap, Site.flatMap_filter fun d _ habsent => inDirectory_eq_nil h.linkFree habsent]
        exact List.flatMap_congr fun d hd => h.inDirectory_eq (hmatches d hd).clean

/-- A pattern whose last name has one of the endings finds what it found before. -/
theorem glob?_eq (h : Grown endings t t') (hending : Pattern.PlainEnding ending) (hmem : ending ∈ endings)
    (hclean : Path.clean path = path) (hlast : Path.components path = init ++ [n]) (hn : Path.IsName n)
    (hends : Text.endsWith n ending = true) : t'.glob? path = t.glob? path := by
  rw [Tree.glob?, Tree.glob?, h.paths?_eq hclean]
  cases hfound : Pattern.paths? t' (path.length + 1) path with
  | none => rfl
  | some found =>
    rw [Option.map_some, List.filter_eq_self.mpr]
    intro p hp
    obtain ⟨-, hthere, dir, name, hplace, hname⟩ :=
      match_paths? hending h.linkFree' h.wellFormed' hclean hlast hn hfound p hp
    rw [hplace, h.marked dir name ⟨ending, hmem, hname hends⟩, ← hplace, h.place_eq] at hthere
    rwa [present, Option.isSome_iff_ne_none]

end Grown

end File

end Marginalia
