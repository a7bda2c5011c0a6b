import Mathlib
import Marginalia.Proofs.File.Path
import Marginalia.Proofs.Text.Lines
import Marginalia.Url

/-!
Addresses without escapes. What is written without a percent sign or a plus sign is its own decoded form, so an address of
a scheme, a host, a path and a query is read as these four. The value of a parameter is what the first piece of the query
gives that can be read and has its name.
-/

namespace Marginalia

namespace Url

variable {part : Part} {t host path query name value k v piece : Text} {u : Url}

theorem unescape?_of_plain (hpercent : ('%' : UInt8) ∉ t) (hplus : ('+' : UInt8) ∉ t)
    (hhost : part = .host ∨ part = .zone → ∀ c ∈ t, mustEscape part c = false) : unescape? part t = some t := by
  induction t with
  | nil => rw [unescape?]
  | cons c t ih =>
    obtain ⟨hc, ht⟩ := not_or.mp (List.mem_cons.not.mp hpercent)
    obtain ⟨hc', ht'⟩ := not_or.mp (List.mem_cons.not.mp hplus)
    have hallowed : ((part == .host || part == .zone) && c < 0x80 && mustEscape part c) = false := by
      by_cases hpart : part = .host ∨ part = .zone
      · rw [hhost hpart c List.mem_cons_self, Bool.and_false]
      · rw [not_or] at hpart
        simp [hpart.1, hpart.2]
    unfold unescape?
    rw [if_neg (by simpa using Ne.symm hc), if_neg (by simp [Ne.symm hc']), hallowed, if_neg Bool.false_ne_true,
      ih ht ht' fun hpart d hd => hhost hpart d (List.mem_cons_of_mem c hd)]
    rfl

/-! ### Parameters -/

/-- A piece of a query gives a value to a name. -/
def Gives (piece name value : Text) : Prop :=
  (';' : UInt8) ∉ piece ∧ ∃ k v : Text,
    (piece = k ++ ('=' : UInt8) :: v ∧ ('=' : UInt8) ∉ k ∨ piece = k ∧ k ≠ [] ∧ ('=' : UInt8) ∉ k ∧ v = []) ∧
    unescape? .query k = some name ∧ unescape? .query v = some value

/-- The first piece of the query that gives a value to the name gives it this one. -/
def First (u : Url) (name value : Text) : Prop :=
  ∃ front piece back, Text.splitOn '&' u.query = front ++ piece :: back ∧ Gives piece name value ∧
    ∀ p ∈ front, ∀ other, ¬ Gives p name other

/-- The two sides of a piece of a query. -/
def sides (piece : Text) : Text × Text := (Text.cut? "=" piece).getD (piece, [])

theorem sides_append (h : ('=' : UInt8) ∉ k) (v : Text) : sides (k ++ ('=' : UInt8) :: v) = (k, v) := by
  rw [sides, show Text.ofString "=" = [('=' : UInt8)] by decide, Text.cut?_append h, Option.getD_some]

theorem sides_of_not_mem (h : ('=' : UInt8) ∉ k) : sides k = (k, []) := by
  rw [sides, show Text.ofString "=" = [('=' : UInt8)] by decide, Text.cut?_of_not_mem h, Option.getD_none]

theorem gives_iff : Gives piece name value ↔ piece ≠ [] ∧ (';' : UInt8) ∉ piece ∧
    unescape? .query (sides piece).1 = some name ∧ unescape? .query (sides piece).2 = some value := by
  constructor
  · rintro ⟨hsemicolon, k, v, ⟨rfl, hk⟩ | ⟨rfl, hne, hk, rfl⟩, hname, hvalue⟩
    · rw [sides_append hk]
      exact ⟨by simp, hsemicolon, hname, hvalue⟩
    · rw [sides_of_not_mem hk]
      exact ⟨hne, hsemicolon, hname, hvalue⟩
  · rintro ⟨hne, hsemicolon, hname, hvalue⟩
    refine ⟨hsemicolon, _, _, ?_, hname, hvalue⟩
    by_cases hmem : ('=' : UInt8) ∈ piece
    · obtain ⟨k, v, rfl, hk⟩ := List.eq_append_cons_of_mem hmem
      rw [sides_append hk]
      exact Or.inl ⟨rfl, hk⟩
    · rw [sides_of_not_mem hmem]
      exact Or.inr ⟨rfl, hne, hmem, rfl⟩

/-- The value that a piece gives to a name. -/
def given? (name piece : Text) : Option Text :=
  if piece.isEmpty || piece.contains ';' then none
  else match unescape? .query (sides piece).1, unescape? .query (sides piece).2 with
    | some k, some v => if k == name then some v else none
    | _, _ => none

theorem given?_eq_some_iff : given? name piece = some value ↔ Gives piece name value := by
  rw [gives_iff, given?]
  by_cases hskip : (piece.isEmpty || piece.contains ';') = true
  · rw [if_pos hskip]
    simp only [Bool.or_eq_true, List.isEmpty_iff, List.contains_iff_mem] at hskip
    exact iff_of_false (Option.some_ne_none _).symm fun h => hskip.elim h.1 h.2.1
  · rw [if_neg hskip]
    simp only [Bool.or_eq_true, List.isEmpty_iff, List.contains_iff_mem, not_or] at hskip
    split
    · rename_i k v hk hv
      rw [hk, hv]
      simp [hskip, Option.ite_none_right_eq_some]
    · rename_i hnone
      exact iff_of_false (Option.some_ne_none _).symm fun h => hnone _ _ h.2.2.1 h.2.2.2

theorem parameter?_eq_some_iff : u.parameter? name = some value ↔ u.First name value := by
  change (Text.splitOn '&' u.query).findSome? (given? name) = some value ↔ _
  rw [List.findSome?_eq_some_iff]
  refine exists_congr fun front => exists_congr fun piece => exists_congr fun back =>
    and_congr_right fun _ => and_congr given?_eq_some_iff (forall₂_congr fun p _ => ?_)
  rw [Option.eq_none_iff_forall_ne_some]
  exact forall_congr' fun other => not_congr given?_eq_some_iff

/-! ### Reading -/

/-- What stands before a question mark and behind it. -/
def halves (t : Text) : Text × Text :=
  if t.getLast? == some ('?' : UInt8) && t.count ('?' : UInt8) == 1 then (t.dropLast, [])
  else (Text.cut? "?" t).getD (t, [])

theorem halves_of_not_mem (h : ('?' : UInt8) ∉ t) : halves t = (t, []) := by
  rw [halves, List.count_eq_zero.mpr h, show Text.ofString "?" = [('?' : UInt8)] by decide, Text.cut?_of_not_mem h]
  simp

theorem halves_append (h : ('?' : UInt8) ∉ t) (hquery : ('?' : UInt8) ∉ query) :
    halves (t ++ ('?' : UInt8) :: query) = (t, query) := by
  rw [halves, show Text.ofString "?" = [('?' : UInt8)] by decide, Text.cut?_append h, Option.getD_some]
  rcases eq_or_ne query [] with rfl | hne
  · simp
  · have hlast : (t ++ ('?' : UInt8) :: query).getLast? ≠ some ('?' : UInt8) := by
      rw [List.append_cons, List.getLast?_append_of_ne_nil _ hne]
      exact fun hlast => hquery (List.mem_of_getLast? hlast)
    rw [beq_eq_false_iff_ne.mpr hlast, Bool.false_and, if_neg Bool.false_ne_true]

/-- An address with a scheme and a host is read part by part. -/
theorem parseMain?_host {scheme rest : Text} (hany : (t.any fun c : UInt8 => c < ' ' || c == 0x7f) = false)
    (hstar : (t == "*") = false) (hscheme : scheme? t = some (scheme, rest)) (hne : scheme ≠ [])
    (hhalves : halves rest = ("//" ++ (host ++ ('/' : UInt8) :: path), query))
    (hslash : ('/' : UInt8) ∉ host) (hhost : authority? host = some (none, host))
    (hpath : unescape? .path (('/' : UInt8) :: path) = some (('/' : UInt8) :: path)) :
    ∃ u, parseMain? .free t = some u ∧ u.host = host ∧ u.path = ('/' : UInt8) :: path ∧ u.query = query := by
  have hspan : Text.span (· != '/') (host ++ ('/' : UInt8) :: path) = (host, ('/' : UInt8) :: path) := by
    have hall : ∀ c ∈ host, (c != ('/' : UInt8)) = true := fun c hc => by
      rw [bne_iff_ne]
      rintro rfl
      exact hslash hc
    rw [Text.span, List.takeWhile_append_of_pos hall, List.dropWhile_append_of_pos hall]
    simp
  have hscheme' : scheme.isEmpty = false := by simpa using hne
  have hinner : Text.after? ("//" ++ (host ++ ('/' : UInt8) :: path)) "//" = some (host ++ ('/' : UInt8) :: path) :=
    Text.after?_eq_some_iff.mpr rfl
  have hrooted : (Text.ofString "//" ++ (host ++ ('/' : UInt8) :: path)).head? = some ('/' : UInt8) := rfl
  rw [halves] at hhalves
  rw [parseMain?, hany, hstar, hscheme]
  simp only [Option.pure_def, hhalves, hspan, hhost, hscheme', hrooted, Bool.false_and, Bool.false_eq_true, if_false,
    Option.bind_eq_bind, Option.bind_some, hinner, beq_self_eq_true, Bool.not_true]
  rw [if_neg (by rw [Bool.and_eq_true]; exact fun h => nomatch h.2), withPath?, hpath]
  exact ⟨_, rfl, rfl, rfl, rfl⟩

/-- Letters, digits and signs of a set. -/
def Plain (signs : String) (t : Text) : Prop := ∀ c ∈ t, Text.isAlnum c = true ∨ anyOf signs c = true

instance (signs : String) (t : Text) : Decidable (Plain signs t) := inferInstanceAs (Decidable (∀ c ∈ t, _))

theorem Plain.not_mem {signs : String} {c : UInt8} (h : Plain signs t) (hc : Text.isAlnum c = false)
    (hsign : anyOf signs c = false) : c ∉ t := by
  intro hmem
  rcases h c hmem with h | h
  · rw [hc] at h
    cases h
  · rw [hsign] at h
    cases h

theorem Plain.append {signs : String} (h : Plain signs t) (h' : Plain signs v) : Plain signs (t ++ v) := by
  intro c hc
  exact (List.mem_append.mp hc).elim (h c) (h' c)

theorem Plain.mono {signs signs' : String} (h : Plain signs t)
    (hsigns : ∀ c ∈ Text.ofString signs, anyOf signs' c = true) : Plain signs' t := by
  intro c hc
  exact (h c hc).imp_right fun hsign => hsigns c (List.contains_iff_mem.mp hsign)

theorem not_control {c : UInt8} (h : Text.isAlnum c = true) : (decide (c < ' ') || c == 0x7f) = false := by
  revert c
  decide +kernel

theorem authority?_plain (h : Plain "." host) : authority? host = some (none, host) := by
  have hat : Text.cutLast? "@" host = none := Text.cutLast?_of_not_mem (h.not_mem (by decide) (by decide))
  have hcolon : Text.cutLast? ":" host = none := Text.cutLast?_of_not_mem (h.not_mem (by decide) (by decide))
  have hbracket : (host.head? == some ('[' : UInt8)) = false := by
    rw [beq_eq_false_iff_ne]
    exact fun hhead => h.not_mem (by decide) (by decide) (List.mem_of_mem_head? hhead)
  have hself : unescape? .host host = some host := by
    refine unescape?_of_plain (h.not_mem (by decide) (by decide)) (h.not_mem (by decide) (by decide)) fun _ c hc => ?_
    rcases h c hc with hc | hc
    · unfold mustEscape
      rw [if_pos hc]
    · have hdot : ∀ c ∈ Text.ofString ".", mustEscape .host c = false := by decide +kernel
      exact hdot c (List.contains_iff_mem.mp hc)
  rw [authority?, hat]
  simp only [host?, Option.bind_eq_bind, Option.bind_some, Option.pure_def, hbracket, hcolon, hself, Bool.false_eq_true,
    if_false, Option.map_some]

/-- An address of a scheme, a host, a path and perhaps a query, none with escapes, is read as these. -/
theorem parse?_plain {scheme tail : Text} (hscheme : scheme = "http" ∨ scheme = "https") (hhost : Plain "." host)
    (hpath : Plain "-_/" path) (hquery : Plain "-_=&" query)
    (htail : tail = [] ∧ query = [] ∨ tail = ('?' : UInt8) :: query) :
    ∃ u, parse? (scheme ++ ("://" ++ (host ++ ('/' : UInt8) :: path ++ tail))) = some u ∧ u.host = host ∧
      u.path = ('/' : UInt8) :: path ∧ u.query = query := by
  have hslashed : Plain "-_/" (('/' : UInt8) :: path) :=
    List.forall_mem_cons.mpr ⟨Or.inr (by decide +kernel), hpath⟩
  have htail' : Plain "-_=&?" tail := by
    rcases htail with ⟨rfl, -⟩ | rfl
    · exact nofun
    · exact List.forall_mem_cons.mpr ⟨Or.inr (by decide +kernel), hquery.mono (by decide +kernel)⟩
  have hmain : Plain "./-_" (host ++ ('/' : UInt8) :: path) :=
    .append (hhost.mono (by decide +kernel)) (hslashed.mono (by decide +kernel))
  have hall : Plain ":/.-_=&?" (scheme ++ ("://" ++ (host ++ ('/' : UInt8) :: path ++ tail))) := by
    refine .append ?_ (.append (by decide +kernel) (.append (hmain.mono (by decide +kernel)) (htail'.mono (by decide +kernel))))
    rcases hscheme with rfl | rfl <;> decide +kernel
  have hfragment : Text.cut? "#" (scheme ++ ("://" ++ (host ++ ('/' : UInt8) :: path ++ tail))) = none :=
    Text.cut?_of_not_mem (hall.not_mem (by decide +kernel) (by decide +kernel))
  have hslashes : Plain "./-_" "//" := by decide +kernel
  have hquestion : ('?' : UInt8) ∉ Text.ofString "//" ++ (host ++ ('/' : UInt8) :: path) :=
    (hslashes.append hmain).not_mem (by decide +kernel) (by decide +kernel)
  rw [parse?, hfragment]
  refine parseMain?_host ?_ ?_
    (show scheme? _ = some (scheme, "//" ++ (host ++ ('/' : UInt8) :: path ++ tail)) from ?_) ?_ ?_
    (hhost.not_mem (by decide +kernel) (by decide +kernel)) (authority?_plain hhost)
    (unescape?_of_plain (hslashed.not_mem (by decide +kernel) (by decide +kernel))
      (hslashed.not_mem (by decide +kernel) (by decide +kernel)) nofun)
  · rw [List.any_eq_false]
    intro c hc hcontrol
    rcases hall c hc with h | h
    · rw [not_control h] at hcontrol
      cases hcontrol
    · have hsigns : ∀ c ∈ Text.ofString ":/.-_=&?", (decide (c < ' ') || c == 0x7f) = false := by decide +kernel
      rw [hsigns c (List.contains_iff_mem.mp h)] at hcontrol
      cases hcontrol
  · rcases hscheme with rfl | rfl <;> rfl
  · rcases hscheme with rfl | rfl <;> rfl
  · rcases hscheme with rfl | rfl <;> decide
  · rcases htail with ⟨rfl, rfl⟩ | rfl
    · rw [List.append_nil, halves_of_not_mem hquestion]
    · rw [← List.append_assoc, halves_append hquestion (hquery.not_mem (by decide +kernel) (by decide +kernel))]

end Url

end Marginalia
