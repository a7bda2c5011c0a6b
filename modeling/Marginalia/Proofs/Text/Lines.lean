import Mathlib
import Marginalia.Proofs.Text.Symbols

/-!
The lines of a text. White space of ASCII is never part of a longer character, so that it does not matter whether a line feed
is counted in when a line is trimmed. Lines are taken off from the left, and put together they are the text again.
-/

namespace Marginalia

namespace Text

variable {t u l rest front : Text} {s : Symbol} {b : UInt8}

/-! ### White space among the symbols -/

theorem Sequence.tails {n : Nat} (h : Sequence front n) : ∀ b ∈ front.tail, 0x80 ≤ b := by
  have htail : ∀ {b}, isTail b = true → 0x80 ≤ b := by
    intro b hb
    exact UInt8.le_iff_toNat_le.mpr (isTail_iff.mp hb).1
  have hsecond : ∀ {p : Prop} [Decidable p] {low b : UInt8}, 0x80 ≤ low → (if p then low else 0x80) ≤ b → 0x80 ≤ b := by
    intro p _ low b hlow hb
    split at hb
    · exact UInt8.le_trans hlow hb
    · exact hb
  cases h with
  | one => simp
  | two _ _ hb => simpa using htail hb
  | three _ _ hb _ hc => simpa using ⟨hsecond (by decide) hb, htail hc⟩
  | four _ _ hb _ hc hd => simpa using ⟨hsecond (by decide) hb, htail hc, htail hd⟩

/-- An octet of ASCII behind a text does not change what is read first. -/
theorem next?_append_ascii (hb : b < 0x80) (h : next? t = some (s, rest)) (u : Text) :
    next? (t ++ b :: u) = some (s, rest ++ b :: u) := by
  rcases next?_cases h with ⟨n, hs, hseq, rfl⟩ | ⟨a, rfl, rfl, hnone⟩
  · rw [List.append_assoc, hseq.next?, ← hs]
  · refine (next?_cons a (rest ++ b :: u)).resolve_left ?_
    rintro ⟨front, n, after, heq, hseq⟩
    rw [← List.cons_append, List.append_eq_append_iff] at heq
    rcases heq with ⟨more, rfl, hmore⟩ | ⟨more, heq, -⟩
    · -- A sequence that reaches the octet behind would have it as a tail.
      cases more with
      | nil => exact hnone _ n [] (List.append_nil _).symm (by simpa using hseq)
      | cons c more =>
        obtain ⟨rfl, -⟩ := List.cons.inj hmore
        exact absurd (hseq.tails b (by simp)) (UInt8.not_le.mpr hb)
    · exact hnone front n more heq hseq

theorem symbols_append_ascii (hb : b < 0x80) (t u : Text) : symbols (t ++ b :: u) = symbols t ++ symbols (b :: u) := by
  match hnext : next? t with
  | none =>
    match t with
    | [] => simp [symbols_nil]
    | a :: t =>
      rcases next?_cons a t with ⟨front, n, rest, heq, hseq⟩ | hstray
      · rw [heq, hseq.next?] at hnext
        cases hnext
      · rw [hstray] at hnext
        cases hnext
  | some (s, rest) =>
    have := length_of_next? hnext
    rw [symbols_of_next? hnext, symbols_of_next? (next?_append_ascii hb hnext u), symbols_append_ascii hb rest u,
      List.cons_append]
termination_by t.length

theorem symbols_ascii_cons (hb : b < 0x80) (t : Text) : symbols (b :: t) = .char (Char.ofNat b.toNat) :: symbols t :=
  symbols_of_next? ((Sequence.one hb).next? t)

theorem ascii_of_isSpace (h : isSpace b = true) :
    b < 0x80 ∧ Symbol.isSpace (.char (Char.ofNat b.toNat)) = true := by
  revert b
  decide +kernel

/-- White space at the end of a text does not matter to what is left of it without white space. -/
theorem trim_concat (h : isSpace b = true) (t : Text) : trim (t ++ [b]) = trim t := by
  obtain ⟨hb, hspace⟩ := ascii_of_isSpace h
  simp only [trim, symbols_append_ascii hb, symbols_ascii_cons hb, symbols_nil, List.dropWhile_append]
  by_cases hblank : (symbols t).dropWhile Symbol.isSpace = [] <;> simp [hblank, hspace]

theorem trim_cons (h : isSpace b = true) (t : Text) : trim (b :: t) = trim t := by
  obtain ⟨hb, hspace⟩ := ascii_of_isSpace h
  rw [trim, symbols_ascii_cons hb, List.dropWhile_cons_of_pos hspace, trim]

theorem trim_lineFeed (t : Text) : trim (t ++ [('\n' : UInt8)]) = trim t := trim_concat (by decide) t

theorem mem_of_mem_trim (h : b ∈ trim t) : b ∈ t := by
  obtain ⟨s, hs, hb⟩ := List.mem_flatMap.mp h
  have hinner := (List.dropWhile_sublist _).mem (List.mem_reverse.mp hs)
  rw [← ofSymbols_symbols t]
  exact List.mem_flatMap.mpr ⟨s, (List.dropWhile_sublist _).mem (List.mem_reverse.mp hinner), hb⟩

/-- An octet of ASCII that stands between others that are no white space is not taken off. -/
theorem mem_trim (hb : b < 0x80) (ht : trim t ≠ []) (hu : trim u ≠ []) : b ∈ trim (t ++ b :: u) := by
  obtain ⟨s, hs, hvisible⟩ := exists_not_isSpace (List.isEmpty_eq_false_iff.mpr ht)
  obtain ⟨s', hs', hvisible'⟩ := exists_not_isSpace (List.isEmpty_eq_false_iff.mpr hu)
  have hfront : ((symbols t).dropWhile Symbol.isSpace).isEmpty = false := by
    rw [List.isEmpty_eq_false_iff, ne_eq, List.dropWhile_eq_nil_iff]
    exact fun hall => by simp [hall s hs] at hvisible
  have hback : ((symbols u).reverse.dropWhile Symbol.isSpace).isEmpty = false := by
    rw [List.isEmpty_eq_false_iff, ne_eq, List.dropWhile_eq_nil_iff]
    exact fun hall => by simp [hall s' (List.mem_reverse.mpr hs')] at hvisible'
  have hoctets : (Symbol.char (Char.ofNat b.toNat)).octets = [b] := (Sequence.one hb).octets
  rw [trim, symbols_append_ascii hb, symbols_ascii_cons hb, List.dropWhile_append, hfront]
  simp only [Bool.false_eq_true, if_false, List.reverse_append, List.reverse_cons, List.append_assoc,
    List.singleton_append]
  rw [List.dropWhile_append, hback]
  simp [ofSymbols, hoctets]

/-! ### Lines -/

theorem lines_line (rest : Text) (h : ('\n' : UInt8) ∉ l) :
    lines (l ++ ('\n' : UInt8) :: rest) = (l ++ [('\n' : UInt8)]) :: lines rest := by
  induction l with
  | nil => simp [lines]
  | cons c l ih =>
    rw [List.mem_cons, not_or] at h
    simp [lines, Ne.symm h.1, ih h.2]

theorem lines_last (h : ('\n' : UInt8) ∉ t) : lines t = if t = [] then [] else [t] := by
  induction t with
  | nil => rfl
  | cons c t ih =>
    rw [List.mem_cons, not_or] at h
    rw [lines, ih h.2]
    by_cases ht : t = [] <;> simp [ht, Ne.symm h.1]

theorem flatten_lines (t : Text) : (lines t).flatten = t := by
  induction t with
  | nil => rfl
  | cons c t ih =>
    rw [lines]
    split
    · rename_i hc
      simp [ih, beq_iff_eq.mp hc]
    · split
      · rename_i hnil
        rw [hnil] at ih
        simp [← ih]
      · rename_i hcons
        rw [hcons] at ih
        simpa using ih

/-- A text is its last line, or it begins with a line and goes on behind it. -/
@[elab_as_elim]
theorem lineByLine {P : Text → Prop} (last : ∀ t, ('\n' : UInt8) ∉ t → P t)
    (line : ∀ l rest, ('\n' : UInt8) ∉ l → P rest → P (l ++ ('\n' : UInt8) :: rest)) (t : Text) : P t := by
  by_cases h : ('\n' : UInt8) ∈ t
  · obtain ⟨l, rest, heq, hl⟩ := List.eq_append_cons_of_mem h
    have hlength : rest.length < t.length := by
      rw [heq, List.length_append, List.length_cons]
      omega
    rw [heq]
    exact line l rest hl (lineByLine last line rest)
  · exact last t h
termination_by t.length

/-- Empty, or ending in a line feed. -/
def Ended (t : Text) : Prop := t = [] ∨ t.getLast? = some ('\n' : UInt8)

theorem ended_line (h : Ended rest) (l : Text) : Ended (l ++ ('\n' : UInt8) :: rest) := by
  right
  rcases h with rfl | h
  · simp
  · simp [List.getLast?_cons, h]

theorem Ended.behind (h : Ended (l ++ ('\n' : UInt8) :: rest)) : Ended rest := by
  rcases h with h | h
  · simp at h
  · cases rest with
    | nil => exact .inl rfl
    | cons c rest => exact .inr (by simpa [List.getLast?_cons_cons] using h)

theorem lines_append (h : Ended t) (u : Text) : lines (t ++ u) = lines t ++ lines u := by
  induction t using lineByLine with
  | last t hline =>
    rcases h with rfl | h
    · rfl
    · exact absurd (List.mem_of_getLast? h) hline
  | line l rest hl ih =>
    rw [List.append_assoc, List.cons_append, lines_line _ hl, lines_line _ hl, ih h.behind, List.cons_append]

/-- The lines before a line make up a text of their own, and the line ends in a line feed or is the last. -/
theorem lines_eq_append {before after : List Text} (h : lines t = before ++ l :: after) :
    Ended before.flatten ∧ lines before.flatten = before ∧ ∃ line, ('\n' : UInt8) ∉ line ∧
      (t = before.flatten ++ line ∧ l = line ∧ after = [] ∨
        ∃ rest, t = before.flatten ++ (line ++ ('\n' : UInt8) :: rest) ∧ l = line ++ [('\n' : UInt8)] ∧ after = lines rest) := by
  induction t using lineByLine generalizing before with
  | last t hline =>
    rw [lines_last hline] at h
    split_ifs at h with ht
    · simp at h
    · rcases List.append_eq_cons_iff.mp h.symm with ⟨rfl, heq⟩ | ⟨_, -, heq⟩
      · obtain ⟨rfl, rfl⟩ := List.cons.inj heq
        exact ⟨.inl rfl, rfl, l, hline, .inl ⟨rfl, rfl, rfl⟩⟩
      · simp at heq
  | line first rest hfirst ih =>
    rw [lines_line rest hfirst] at h
    rcases List.append_eq_cons_iff.mp h.symm with ⟨rfl, heq⟩ | ⟨before, rfl, heq⟩
    · obtain ⟨rfl, rfl⟩ := List.cons.inj heq
      exact ⟨.inl rfl, rfl, first, hfirst, .inr ⟨rest, rfl, rfl, rfl⟩⟩
    · obtain ⟨hended, hsame, line, hline, hend⟩ := ih heq
      have hflatten : ((first ++ [('\n' : UInt8)]) :: before).flatten = first ++ ('\n' : UInt8) :: before.flatten := by simp
      rw [hflatten]
      refine ⟨ended_line hended first, by rw [lines_line _ hfirst, hsame], line, hline, ?_⟩
      rcases hend with ⟨rfl, rfl, rfl⟩ | ⟨rest', rfl, rfl, rfl⟩
      · exact .inl ⟨by simp, rfl, rfl⟩
      · exact .inr ⟨rest', by simp, rfl, rfl⟩

/-- A line is what comes before the first line feed. -/
theorem upTo_line (hl : ('\n' : UInt8) ∉ l) (hu : u = [] ∨ u.head? = some ('\n' : UInt8)) : upTo '\n' (l ++ u) = l := by
  have hkeep : ∀ c ∈ l, (c != ('\n' : UInt8)) = true := by
    intro c hc
    exact bne_iff_ne.mpr fun heq => hl (heq ▸ hc)
  rw [upTo, List.takeWhile_append_of_pos hkeep]
  rcases hu with rfl | hu
  · simp
  · obtain ⟨rest, rfl⟩ := List.head?_eq_some_iff.mp hu
    simp

/-! ### A mark in front -/

theorem after?_eq_some_iff : after? t u = some rest ↔ t = u ++ rest := by
  induction u generalizing t with
  | nil => cases t <;> simp [after?, eq_comm]
  | cons d u ih =>
    cases t with
    | nil => simp [after?]
    | cons c t => by_cases hc : c = d <;> simp [after?, hc, ih]

theorem dropStart_cases (t u : Text) : t = u ++ dropStart t u ∨ ¬ u <+: t ∧ dropStart t u = t := by
  cases h : after? t u with
  | some rest => exact .inl (by rw [dropStart, h, Option.getD_some]; exact after?_eq_some_iff.mp h)
  | none =>
    refine .inr ⟨?_, by rw [dropStart, h, Option.getD_none]⟩
    rintro ⟨rest, heq⟩
    rw [after?_eq_some_iff.mpr heq.symm] at h
    cases h

/-! ### An octet at the ends -/

section
variable {c : UInt8}

theorem eq_replicate_append_stripLeft (c : UInt8) (t : Text) : ∃ n, t = List.replicate n c ++ stripLeft (· == c) t := by
  have hall : t.takeWhile (· == c) = List.replicate (t.takeWhile (· == c)).length c := by
    refine List.eq_replicate_iff.mpr ⟨rfl, fun d hd => ?_⟩
    have hpred := List.mem_takeWhile_imp hd
    exact beq_iff_eq.mp hpred
  exact ⟨_, hall ▸ List.takeWhile_append_dropWhile.symm⟩

theorem eq_stripRight_append_replicate (c : UInt8) (t : Text) : ∃ n, t = stripRight (· == c) t ++ List.replicate n c := by
  obtain ⟨n, hn⟩ := eq_replicate_append_stripLeft c t.reverse
  have hback := congrArg List.reverse hn
  rw [List.reverse_reverse, List.reverse_append, List.reverse_replicate] at hback
  exact ⟨n, hback⟩

theorem stripLeft_replicate_append (n : Nat) (h : c ∉ t.head?) : stripLeft (· == c) (List.replicate n c ++ t) = t := by
  rw [stripLeft, List.dropWhile_append_of_pos fun d hd => beq_iff_eq.mpr (List.eq_of_mem_replicate hd)]
  cases t with
  | nil => rfl
  | cons d t => rw [List.dropWhile_cons_of_neg (by simpa using h)]

theorem stripRight_append_replicate (n : Nat) (h : c ∉ t.getLast?) : stripRight (· == c) (t ++ List.replicate n c) = t := by
  rw [stripRight, ← stripLeft, List.reverse_append, List.reverse_replicate, stripLeft_replicate_append n (by simpa using h),
    List.reverse_reverse]

/-- What is stripped of an octet at both ends is what stands between two runs of it. -/
theorem strip_eq_iff (hne : u ≠ []) (hu : c ∉ u) : strip (· == c) t = u ↔
    ∃ m n, t = List.replicate m c ++ u ++ List.replicate n c := by
  rw [strip]
  constructor
  · rintro rfl
    obtain ⟨m, hm⟩ := eq_replicate_append_stripLeft c t
    obtain ⟨n, hn⟩ := eq_stripRight_append_replicate c (stripLeft (· == c) t)
    refine ⟨m, n, ?_⟩
    rw [List.append_assoc, ← hn]
    exact hm
  · rintro ⟨m, n, rfl⟩
    have hfirst : c ∉ (u ++ List.replicate n c).head? := by
      rw [List.head?_append_of_ne_nil _ hne]
      exact fun hhead => hu (List.mem_of_mem_head? hhead)
    rw [List.append_assoc, stripLeft_replicate_append m hfirst,
      stripRight_append_replicate n fun hlast => hu (List.mem_of_getLast? hlast)]

end

end Text

end Marginalia
