import Mathlib
import Marginalia.File.Pattern
import Marginalia.Proofs.File.Places
import Marginalia.Proofs.Orders

/-!
What a pattern finds in a directory. A directory without signs of patterns in its path stands for itself, and the
pattern of a star and an ending finds the names in it with that ending, in order.
-/

namespace Marginalia

namespace File

namespace Tree

variable {t : Tree} {dir p : Place} {name : Text}

/-! ### Names in a directory -/

/-- A tree as it can be kept: no place twice, and no name that leads elsewhere. -/
structure WellFormed (t : Tree) : Prop where
  distinct : (t.entries.map (·.1)).Nodup
  names : ∀ e ∈ t.entries, ∀ n ∈ e.1, Path.IsName n

theorem nameIn?_eq_some_iff : nameIn? dir p = some name ↔ p = dir ++ [name] := by
  unfold nameIn?
  rcases List.eq_nil_or_concat p with rfl | ⟨init, last, rfl⟩
  · simp
  · simp [and_comm]

theorem mem_names : name ∈ t.names dir ↔ (t.get? (dir ++ [name])).isSome = true := by
  rw [get?_of_ne_nil (List.concat_ne_nil name dir)]
  simp only [names, List.mem_mergeSort, List.mem_filterMap, nameIn?_eq_some_iff, List.lookup_isSome_iff, beq_iff_eq]
  exact ⟨fun ⟨e, he, heq⟩ => ⟨e, he, heq.symm⟩, fun ⟨e, he, heq⟩ => ⟨e, he, heq.symm⟩⟩

theorem WellFormed.isName_of_mem_names (h : t.WellFormed) (hname : name ∈ t.names dir) : Path.IsName name := by
  obtain ⟨e, he, heq⟩ := List.mem_filterMap.mp (List.mem_mergeSort.mp hname)
  exact h.names e he name (by rw [nameIn?_eq_some_iff.mp heq]; simp)

/-- No name stands in a directory twice. -/
theorem WellFormed.nodup_names (h : t.WellFormed) (dir : Place) : (t.names dir).Nodup := by
  have hplaces : t.entries.filterMap (fun e => nameIn? dir e.1) = (t.entries.map (·.1)).filterMap (nameIn? dir) := by
    rw [List.filterMap_map]
    rfl
  rw [Tree.names, (List.mergeSort_perm _ _).nodup_iff, hplaces]
  refine List.Nodup.filterMap ?_ h.distinct
  intro p q name hp hq
  rw [nameIn?_eq_some_iff.mp hp, nameIn?_eq_some_iff.mp hq]

/-- The names in a directory ascend. -/
theorem WellFormed.names_ascend (h : t.WellFormed) (dir : Place) :
    (t.names dir).Pairwise fun a b => Text.order a b = .lt :=
  Text.ascends_mergeSort ((List.mergeSort_perm _ _).nodup_iff.mp (h.nodup_names dir))

end Tree

/-! ### Pieces -/

namespace Pattern

/-- A text that stands for itself in a pattern. -/
theorem pieces?_of_plain {fuel : Nat} {t : Text} (hlen : t.length ≤ fuel) (h : hasSigns t = false) :
    pieces? fuel t = some (t.map .octet) := by
  induction t generalizing fuel with
  | nil => cases fuel <;> rfl
  | cons c t ih =>
    obtain ⟨fuel, rfl⟩ : ∃ k, fuel = k + 1 := ⟨fuel - 1, by simp at hlen; omega⟩
    simp only [hasSigns, List.any_cons, Bool.or_eq_false_iff] at h
    obtain ⟨⟨⟨⟨hstar, hany⟩, hclass⟩, hescape⟩, ht⟩ := h
    simp [pieces?, hstar, hany, hclass, hescape, ih (Nat.le_of_succ_le_succ hlen) ht]

theorem pieces?_append {fuel : Nat} {t u : Text} {pieces : List Piece} (h : hasSigns t = false)
    (hu : pieces? fuel u = some pieces) : pieces? (t.length + fuel) (t ++ u) = some (t.map .octet ++ pieces) := by
  induction t with
  | nil => simpa using hu
  | cons c t ih =>
    simp only [hasSigns, List.any_cons, Bool.or_eq_false_iff] at h
    obtain ⟨⟨⟨⟨hstar, hany⟩, hclass⟩, hescape⟩, ht⟩ := h
    rw [List.length_cons, Nat.add_right_comm]
    simp [pieces?, hstar, hany, hclass, hescape, ih ht]

theorem fits_octets {t name : Text} : fits (t.map .octet) name = true ↔ name = t := by
  induction t generalizing name with
  | nil => simp [fits]
  | cons c t ih =>
    cases name with
    | nil => simp [fits]
    | cons d name => simp [fits, ih, @eq_comm _ c d]

theorem mem_tails {name rest : Text} (h : Path.separator ∉ name) : rest ∈ tails name ↔ rest <:+ name := by
  induction name with
  | nil => simp [tails]
  | cons c name ih =>
    obtain ⟨hc, hname⟩ := not_or.mp (List.mem_cons.not.mp h)
    have hne : (c == '/'.toUInt8) = false := beq_eq_false_iff_ne.mpr fun heq => hc heq.symm
    rw [tails, hne, if_neg Bool.false_ne_true, List.mem_cons, ih hname, List.suffix_cons_iff]

/-- A star and an ending fit the names with that ending. -/
theorem fits_star {name ending : Text} (h : Path.separator ∉ name) :
    fits (.star :: ending.map .octet) name = Text.endsWith name ending := by
  rw [Bool.eq_iff_iff, fits, List.any_eq_true, Text.endsWith, List.isSuffixOf_iff_suffix]
  simp only [fits_octets, mem_tails h]
  exact ⟨fun ⟨rest, hrest, heq⟩ => heq ▸ hrest, fun hsuffix => ⟨ending, hsuffix, rfl⟩⟩

theorem hasSigns_append (t u : Text) : hasSigns (t ++ u) = (hasSigns t || hasSigns u) := List.any_append

theorem hasSigns_clean {p : Text} (h : hasSigns p = false) : hasSigns (Path.clean p) = false := by
  rw [hasSigns, List.any_eq_false] at h ⊢
  intro c hc
  rcases Path.mem_of_mem_clean hc with hc | rfl | rfl
  · exact h c hc
  · decide
  · decide

/-! ### Names below a path -/

theorem hasSigns_lead {p : Text} (h : hasSigns (Path.clean p) = false) : hasSigns (Path.lead p) = false := by
  unfold Path.lead
  split
  · cases Path.isAbsolute p <;> rfl
  · rw [hasSigns_append, h]
    rfl

theorem cutLastName_lead {p n : Text} (hn : Path.IsName n) : cutLastName (Path.lead p ++ n) = (Path.clean p, n) := by
  rcases eq_or_ne (Path.components p) [] with hnil | hne
  · rw [Path.lead, if_pos hnil, cutLastName, Path.slash_eq, Path.clean_of_nil hnil]
    cases Path.isAbsolute p with
    | false =>
      rw [if_neg Bool.false_ne_true, List.nil_append, Text.cutLast?_of_not_mem hn.2.2.2]
      rfl
    | true =>
      have hcut : Text.cutLast? [Path.separator] ([] ++ Path.separator :: n) = some ([], n) :=
        Text.cutLast?_append [] hn.2.2.2
      rw [List.nil_append] at hcut
      rw [if_pos rfl, List.singleton_append, hcut]
      simp [Path.slash_eq]
  · have hclean : (Path.clean p).isEmpty = false := by
      rw [Path.clean_of_ne_nil hne]
      cases Path.isAbsolute p
      · simpa using (Path.join_components hne).1
      · rfl
    rw [Path.lead, if_neg hne, List.append_assoc, List.singleton_append, cutLastName]
    nth_rewrite 1 [Path.slash_eq]
    rw [Text.cutLast?_append _ hn.2.2.2]
    simp [hclean]

/-- A star and an ending below a path without signs find the names in that directory with the ending. -/
theorem glob?_star {t : Tree} {dir : Text} {place : Place} (hl : t.LinkFree) (hwf : t.WellFormed)
    (hdir : t.find true dir = .ok (place, .dir)) (hplain : hasSigns (Path.clean dir) = false) (ending : Text)
    (hending : hasSigns ending = false) (hname : Path.IsName (('*' : UInt8) :: ending)) :
    t.glob? (Path.join [dir, ('*' : UInt8) :: ending]) =
      some (((t.names place).filter (Text.endsWith · ending)).map (Path.lead dir ++ ·)) := by
  obtain ⟨hlook, rfl, hreach, hget⟩ := Tree.find_eq_ok hl hdir
  have hpieces : pieces? (('*' : UInt8) :: ending).length (('*' : UInt8) :: ending) =
      some (.star :: ending.map .octet) := by
    simp [pieces?, pieces?_of_plain (Nat.le_refl _) hending]
  have hwhole : pieces? (Path.lead dir ++ ('*' : UInt8) :: ending).length (Path.lead dir ++ ('*' : UInt8) :: ending) =
      some ((Path.lead dir).map .octet ++ .star :: ending.map .octet) := by
    rw [List.length_append]
    exact pieces?_append (hasSigns_lead hplain) hpieces
  have hsigns : hasSigns (Path.lead dir ++ ('*' : UInt8) :: ending) = true := by
    rw [hasSigns_append, Bool.or_eq_true]
    exact Or.inr rfl
  have hnames : t.namesAt (Path.clean dir) = t.names (t.place dir) := by
    rw [Tree.namesAt, Tree.find, Tree.locate_clean hl true hlook.clean hreach]
    simp only [hget]
  rw [Path.join_name hname, Tree.glob?, paths?]
  simp only [hwhole, hsigns, cutLastName_lead hname, hpieces, hplain, inDirectory, hnames]
  have hfits : (t.names (t.place dir)).filter (fits (.star :: ending.map .octet)) =
      (t.names (t.place dir)).filter (Text.endsWith · ending) :=
    List.filter_congr fun n hn => fits_star (hwf.isName_of_mem_names hn).2.2.2
  have hjoin : ∀ n ∈ (t.names (t.place dir)).filter (Text.endsWith · ending),
      Path.join [Path.clean dir, n] = Path.lead dir ++ n := by
    intro n hn
    rw [Path.join_name (hwf.isName_of_mem_names (List.mem_of_mem_filter hn)), Path.lead, Path.lead,
      Path.components_clean, Path.isAbsolute_clean, Path.clean_clean]
  rw [← List.map_congr_left hjoin, ← hfits]
  rfl

end Pattern

end File

end Marginalia
