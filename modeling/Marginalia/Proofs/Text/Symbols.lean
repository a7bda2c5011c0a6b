import Mathlib
import Marginalia.Text.Symbols

/-!
The symbols of a text. They give the text back octet by octet, and symbols that stand together in a text are
the symbols of their own text. So a trimmed text neither begins nor ends with white space.
-/

namespace Marginalia.Text

/-! ### Sequences of octets -/

/-- The octets that make up a character, and its code point. -/
inductive Sequence : Text → Nat → Prop where
  | one {a : UInt8} : a < 0x80 → Sequence [a] a.toNat
  | two {a b : UInt8} : 0xc2 ≤ a → a ≤ 0xdf → isTail b = true → Sequence [a, b] (assemble (a &&& 0x1f) [b])
  | three {a b c : UInt8} : 0xe0 ≤ a → a ≤ 0xef → (if a == 0xe0 then 0xa0 else 0x80) ≤ b →
      b ≤ (if a == 0xed then 0x9f else 0xbf) → isTail c = true → Sequence [a, b, c] (assemble (a &&& 0x0f) [b, c])
  | four {a b c d : UInt8} : 0xf0 ≤ a → a ≤ 0xf4 → (if a == 0xf0 then 0x90 else 0x80) ≤ b →
      b ≤ (if a == 0xf4 then 0x8f else 0xbf) → isTail c = true → isTail d = true →
      Sequence [a, b, c, d] (assemble (a &&& 0x07) [b, c, d])

variable {t rest front : Text} {s : Symbol} {n : Nat}

/-- A sequence is read as its character, whatever follows it. -/
theorem Sequence.next? (h : Sequence front n) (rest : Text) :
    next? (front ++ rest) = some (.char (Char.ofNat n), rest) := by
  have hlow : ∀ {a m k : UInt8}, k ≤ a → m ≤ k → ¬a < m := fun h hm => UInt8.not_lt.mpr (UInt8.le_trans hm h)
  have hhigh : ∀ {a m k : UInt8}, k ≤ a → m < k → ¬a ≤ m := fun h hm => UInt8.not_le.mpr (UInt8.lt_of_lt_of_le hm h)
  cases h with
  | one ha => simp [Text.next?, ha]
  | two h1 h2 hb => simp [Text.next?, hlow h1 (m := 0x80) (by decide), h1, h2, hb]
  | three h1 h2 h3 h4 hc =>
    simp only [Text.next?, List.cons_append, List.nil_append, hlow h1 (m := 0x80) (by decide),
      hhigh h1 (m := 0xdf) (by decide), h1, h2, h3, h4, hc, if_false, if_true, Bool.and_eq_true, decide_eq_true_eq,
      and_false, and_self]
  | four h1 h2 h3 h4 hc hd =>
    simp only [Text.next?, List.cons_append, List.nil_append, hlow h1 (m := 0x80) (by decide),
      hhigh h1 (m := 0xdf) (by decide), hhigh h1 (m := 0xef) (by decide), h1, h2, h3, h4, hc, hd, if_false, if_true,
      Bool.and_eq_true, decide_eq_true_eq, and_false, and_self]

/-- A text begins with the sequence of a character, or its first octet is a stray. -/
theorem next?_cons (a : UInt8) (t : Text) :
    (∃ front n rest, a :: t = front ++ rest ∧ Sequence front n) ∨ next? (a :: t) = some (.stray a, t) := by
  simp only [Text.next?, Bool.and_eq_true, decide_eq_true_eq]
  by_cases h1 : a < 0x80
  · exact .inl ⟨[a], _, t, rfl, .one h1⟩
  rw [if_neg h1]
  by_cases h2 : 0xc2 ≤ a ∧ a ≤ 0xdf
  · rw [if_pos h2]
    match t with
    | [] => exact .inr rfl
    | b :: t' =>
      by_cases hb : isTail b = true
      · exact .inl ⟨[a, b], _, t', rfl, .two h2.1 h2.2 hb⟩
      · exact .inr (if_neg hb)
  rw [if_neg h2]
  by_cases h3 : 0xe0 ≤ a ∧ a ≤ 0xef
  · rw [if_pos h3]
    match t with
    | [] => exact .inr rfl
    | [_] => exact .inr rfl
    | b :: c :: t' =>
      by_cases h : ((if a == 0xe0 then 0xa0 else 0x80) ≤ b ∧ b ≤ if a == 0xed then 0x9f else 0xbf) ∧ isTail c = true
      · exact .inl ⟨[a, b, c], _, t', rfl, .three h3.1 h3.2 h.1.1 h.1.2 h.2⟩
      · exact .inr (if_neg h)
  rw [if_neg h3]
  by_cases h4 : 0xf0 ≤ a ∧ a ≤ 0xf4
  · rw [if_pos h4]
    match t with
    | [] => exact .inr rfl
    | [_] => exact .inr rfl
    | [_, _] => exact .inr rfl
    | b :: c :: d :: t' =>
      by_cases h : (((if a == 0xf0 then 0x90 else 0x80) ≤ b ∧ b ≤ if a == 0xf4 then 0x8f else 0xbf) ∧
          isTail c = true) ∧ isTail d = true
      · exact .inl ⟨[a, b, c, d], _, t', rfl, .four h4.1 h4.2 h.1.1.1 h.1.1.2 h.1.2 h.2⟩
      · exact .inr (if_neg h)
  · exact .inr (if_neg h4)

/-! ### The octets of a character -/

theorem toNat_and_low (a : UInt8) {k : Nat} (hk : k < 8) :
    (a &&& UInt8.ofNat (2 ^ k - 1)).toNat = a.toNat % 2 ^ k := by
  have hlt : 2 ^ k < 2 ^ 8 := Nat.pow_lt_pow_right (by omega) hk
  have hsize : 2 ^ 8 = UInt8.size := rfl
  rw [UInt8.toNat_and, UInt8.toNat_ofNat_of_lt' (by omega), Nat.and_two_pow_sub_one_eq_mod]

/-- The code point of a sequence in numbers: `k` low bits of the first octet, then six of each tail. -/
theorem assemble_eq (a : UInt8) {k : Nat} (hk : k < 8) (tails : Text) :
    assemble (a &&& UInt8.ofNat (2 ^ k - 1)) tails
      = tails.foldl (fun n b => n * 64 + b.toNat % 64) (a.toNat % 2 ^ k) := by
  have hsix : ∀ b : UInt8, (b &&& 0x3f).toNat = b.toNat % 64 := fun b => toNat_and_low b (k := 6) (by decide)
  simp only [assemble, hsix, toNat_and_low a hk]

theorem isTail_iff {b : UInt8} : isTail b = true ↔ 0x80 ≤ b.toNat ∧ b.toNat ≤ 0xbf := by
  simp [isTail, UInt8.le_iff_toNat_le]

theorem val_ofNat (h : n.isValidChar) : (Char.ofNat n).val.toNat = n := by
  rw [Char.ofNat, dif_pos h]
  exact UInt32.toNat_ofNatLT

theorem ofNat_eq_iff {a : UInt8} : UInt8.ofNat n = a ↔ n % 256 = a.toNat := by
  rw [← UInt8.toNat_inj, UInt8.toNat_ofNat']

/-- A character that was read is written with the octets it was read from. -/
theorem Sequence.octets (h : Sequence front n) : (Symbol.char (Char.ofNat n)).octets = front := by
  cases h with
  | @one a ha =>
    have hlt : a.toNat < 128 := UInt8.lt_iff_toNat_lt.mp ha
    rw [Symbol.octets, String.utf8EncodeChar, val_ofNat (Or.inl (by omega)), if_pos (by omega), UInt8.ofNat_toNat]
  | @two a b h1 h2 hb =>
    obtain ⟨hb1, hb2⟩ := isTail_iff.mp hb
    have h1 : 0xc2 ≤ a.toNat := UInt8.le_iff_toNat_le.mp h1
    have h2 : a.toNat ≤ 0xdf := UInt8.le_iff_toNat_le.mp h2
    have hn : assemble (a &&& 0x1f) [b] = a.toNat % 32 * 64 + b.toNat % 64 := assemble_eq a (k := 5) (by decide) _
    rw [hn, Symbol.octets, String.utf8EncodeChar, val_ofNat (Or.inl (by omega)), if_neg (by omega), if_pos (by omega)]
    simp only [List.cons.injEq, ofNat_eq_iff, and_true]
    omega
  | @three a b c h1 h2 h3 h4 hc =>
    obtain ⟨hc1, hc2⟩ := isTail_iff.mp hc
    have h1 : 0xe0 ≤ a.toNat := UInt8.le_iff_toNat_le.mp h1
    have h2 : a.toNat ≤ 0xef := UInt8.le_iff_toNat_le.mp h2
    have hb : (a.toNat = 0xe0 → 0xa0 ≤ b.toNat) ∧ 0x80 ≤ b.toNat ∧ (a.toNat = 0xed → b.toNat ≤ 0x9f) ∧
        b.toNat ≤ 0xbf := by
      simp only [UInt8.le_iff_toNat_le, beq_iff_eq, ← UInt8.toNat_inj] at h3 h4
      split at h3 <;> split at h4 <;> simp_all <;> omega
    have hn : assemble (a &&& 0x0f) [b, c] = (a.toNat % 16 * 64 + b.toNat % 64) * 64 + c.toNat % 64 :=
      assemble_eq a (k := 4) (by decide) _
    have hvalid : Nat.isValidChar ((a.toNat % 16 * 64 + b.toNat % 64) * 64 + c.toNat % 64) := by
      unfold Nat.isValidChar
      omega
    rw [hn, Symbol.octets, String.utf8EncodeChar, val_ofNat hvalid, if_neg (by omega), if_neg (by omega),
      if_pos (by omega)]
    simp only [List.cons.injEq, ofNat_eq_iff, and_true]
    omega
  | @four a b c d h1 h2 h3 h4 hc hd =>
    obtain ⟨hc1, hc2⟩ := isTail_iff.mp hc
    obtain ⟨hd1, hd2⟩ := isTail_iff.mp hd
    have h1 : 0xf0 ≤ a.toNat := UInt8.le_iff_toNat_le.mp h1
    have h2 : a.toNat ≤ 0xf4 := UInt8.le_iff_toNat_le.mp h2
    have hb : (a.toNat = 0xf0 → 0x90 ≤ b.toNat) ∧ 0x80 ≤ b.toNat ∧ (a.toNat = 0xf4 → b.toNat ≤ 0x8f) ∧
        b.toNat ≤ 0xbf := by
      simp only [UInt8.le_iff_toNat_le, beq_iff_eq, ← UInt8.toNat_inj] at h3 h4
      split at h3 <;> split at h4 <;> simp_all <;> omega
    have hn : assemble (a &&& 0x07) [b, c, d]
        = ((a.toNat % 8 * 64 + b.toNat % 64) * 64 + c.toNat % 64) * 64 + d.toNat % 64 :=
      assemble_eq a (k := 3) (by decide) _
    have hvalid : Nat.isValidChar (((a.toNat % 8 * 64 + b.toNat % 64) * 64 + c.toNat % 64) * 64 + d.toNat % 64) := by
      unfold Nat.isValidChar
      omega
    rw [hn, Symbol.octets, String.utf8EncodeChar, val_ofNat hvalid, if_neg (by omega), if_neg (by omega),
      if_neg (by omega)]
    simp only [List.cons.injEq, ofNat_eq_iff, and_true]
    omega

/-! ### Symbol by symbol -/

theorem symbols_nil : symbols [] = [] := by
  rw [symbols]
  rfl

theorem symbols_of_next? (h : next? t = some (s, rest)) : symbols t = s :: symbols rest := by
  rw [symbols]
  split
  · rename_i hnone
    rw [h] at hnone
    cases hnone
  · rename_i s' rest' hsome
    rw [h] at hsome
    cases hsome
    rfl

/-- The first symbol is a character read from its sequence, or an octet that begins none. -/
theorem next?_cases (h : next? t = some (s, rest)) :
    (∃ n, s = .char (Char.ofNat n) ∧ Sequence s.octets n ∧ t = s.octets ++ rest) ∨
    (∃ a, s = .stray a ∧ t = a :: rest ∧ ∀ front n after, t = front ++ after → ¬Sequence front n) := by
  match t, h with
  | a :: t, h =>
    by_cases hseq : ∃ front n after, a :: t = front ++ after ∧ Sequence front n
    · obtain ⟨front, n, after, heq, hfront⟩ := hseq
      rw [heq, hfront.next?] at h
      cases h
      rw [hfront.octets]
      exact .inl ⟨n, rfl, hfront, heq⟩
    · obtain hstray := (next?_cons a t).resolve_left hseq
      rw [hstray] at h
      cases h
      exact .inr ⟨a, rfl, rfl, fun front n after heq hfront => hseq ⟨front, n, after, heq, hfront⟩⟩

theorem octets_append (h : next? t = some (s, rest)) : s.octets ++ rest = t := by
  rcases next?_cases h with ⟨n, -, -, rfl⟩ | ⟨a, rfl, rfl, -⟩
  · rfl
  · rfl

/-- What is read first does not depend on how far the text goes on behind it. -/
theorem next?_of_append {t u : Text} (h : next? (s.octets ++ (t ++ u)) = some (s, t ++ u)) :
    next? (s.octets ++ t) = some (s, t) := by
  rcases next?_cases h with ⟨n, hs, hseq, -⟩ | ⟨a, rfl, -, hnone⟩
  · rw [hseq.next?, ← hs]
  · refine (next?_cons a t).resolve_left ?_
    rintro ⟨front, n, after, heq, hseq⟩
    refine hnone front n (after ++ u) ?_ hseq
    rw [← List.append_assoc front, ← heq]
    rfl

theorem ofSymbols_cons (s : Symbol) (ss : List Symbol) : ofSymbols (s :: ss) = s.octets ++ ofSymbols ss :=
  List.flatMap_cons

theorem ofSymbols_append (ss ss' : List Symbol) : ofSymbols (ss ++ ss') = ofSymbols ss ++ ofSymbols ss' :=
  List.flatMap_append

/-- Nothing of a text is lost in its symbols. -/
theorem ofSymbols_symbols (t : Text) : ofSymbols (symbols t) = t := by
  match h : next? t with
  | none =>
    match t with
    | [] =>
      rw [symbols_nil]
      rfl
    | a :: t =>
      rcases next?_cons a t with ⟨front, n, rest, heq, hseq⟩ | hstray
      · rw [heq, hseq.next?] at h
        cases h
      · rw [hstray] at h
        cases h
  | some (s, rest) =>
    have := length_of_next? h
    rw [symbols_of_next? h, ofSymbols_cons, ofSymbols_symbols rest, octets_append h]
termination_by t.length

/-- A text with symbols begins with the first of them. -/
theorem next?_of_symbols {ss : List Symbol} (h : symbols t = s :: ss) :
    ∃ rest, next? t = some (s, rest) ∧ symbols rest = ss := by
  rw [symbols] at h
  split at h
  · cases h
  · rename_i s' rest hnext
    cases h
    exact ⟨rest, hnext, rfl⟩

/-- The last symbols of a text are the symbols of their own text. -/
theorem symbols_ofSymbols_right {before ss : List Symbol} (h : symbols t = before ++ ss) :
    symbols (ofSymbols ss) = ss := by
  induction before generalizing t with
  | nil =>
    rw [List.nil_append] at h
    rw [← h, ofSymbols_symbols]
  | cons s before ih =>
    obtain ⟨rest, -, hrest⟩ := next?_of_symbols h
    exact ih hrest

/-- The first symbols of a text are the symbols of their own text. -/
theorem symbols_ofSymbols_left {ss behind : List Symbol} (h : symbols t = ss ++ behind) :
    symbols (ofSymbols ss) = ss := by
  induction ss generalizing t with
  | nil => exact symbols_nil
  | cons s ss ih =>
    rw [List.cons_append] at h
    obtain ⟨rest, hnext, hrest⟩ := next?_of_symbols h
    have hsplit : rest = ofSymbols ss ++ ofSymbols behind := by
      rw [← ofSymbols_append, ← hrest, ofSymbols_symbols]
    have hfirst : next? (s.octets ++ ofSymbols ss) = some (s, ofSymbols ss) := by
      refine next?_of_append (u := ofSymbols behind) ?_
      rw [← hsplit, octets_append hnext, hnext]
    rw [ofSymbols_cons, symbols_of_next? hfirst, ih hrest]

/-! ### Trimmed texts -/

/-- Neither the first nor the last symbol is white space. -/
def isTrimmed (t : Text) : Bool := !(symbols t).head?.any Symbol.isSpace && !(symbols t).getLast?.any Symbol.isSpace

/-- The symbols without white space at their end, and that white space. -/
theorem eq_kept_append (inner : List Symbol) :
    inner = (inner.reverse.dropWhile Symbol.isSpace).reverse ++ (inner.reverse.takeWhile Symbol.isSpace).reverse := by
  rw [← List.reverse_append, List.takeWhile_append_dropWhile, List.reverse_reverse]

theorem symbols_trim (t : Text) :
    symbols (trim t) = (((symbols t).dropWhile Symbol.isSpace).reverse.dropWhile Symbol.isSpace).reverse := by
  have hinner := symbols_ofSymbols_right (List.takeWhile_append_dropWhile (p := Symbol.isSpace) (l := symbols t)).symm
  exact symbols_ofSymbols_left (hinner.trans (eq_kept_append _))

theorem head?_dropWhile_any {α : Type} (p : α → Bool) (l : List α) : (l.dropWhile p).head?.any p = false := by
  have h := List.head?_dropWhile_not p l
  cases hhead : (l.dropWhile p).head? with
  | none => rfl
  | some x =>
    rw [hhead] at h
    simpa using h

theorem isTrimmed_trim (t : Text) : isTrimmed (trim t) = true := by
  rw [isTrimmed, symbols_trim]
  have hhead := head?_dropWhile_any Symbol.isSpace (symbols t)
  generalize (symbols t).dropWhile Symbol.isSpace = inner at hhead ⊢
  have hlast := head?_dropWhile_any Symbol.isSpace inner.reverse
  rw [← List.getLast?_reverse] at hlast
  -- What is kept is a beginning of `inner`, so it begins with the same symbol.
  have hfirst : ((inner.reverse.dropWhile Symbol.isSpace).reverse).head?.any Symbol.isSpace = false := by
    cases hkept : (inner.reverse.dropWhile Symbol.isSpace).reverse with
    | nil => rfl
    | cons s kept =>
      have hsplit := eq_kept_append inner
      rw [hkept] at hsplit
      rw [hsplit] at hhead
      exact hhead
  rw [hfirst, hlast]
  rfl

/-- A text that has more than white space has a symbol that is not white space. -/
theorem exists_not_isSpace (h : (trim t).isEmpty = false) : ∃ s ∈ symbols t, s.isSpace = false := by
  by_contra hall
  have hnil : (symbols t).dropWhile Symbol.isSpace = [] :=
    List.dropWhile_eq_nil_iff.mpr fun s hs => eq_true_of_ne_false fun hs' => hall ⟨s, hs, hs'⟩
  simp [trim, hnil, ofSymbols] at h

end Marginalia.Text
