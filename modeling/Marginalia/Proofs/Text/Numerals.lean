import Mathlib
import Marginalia.Text.Basic

/-!
Numbers as digits. The digits of a number have its value, and zeros in front of them change neither that nor, up to a
width, their number. A run of decimal digits is less than the power of ten that its length gives.
-/

namespace Marginalia.Text

variable {b n w : Nat} {t u : Text}

theorem hexValue_digitChar {d : Nat} (h : d < 16) : hexValue (Nat.digitChar d).toUInt8 = d := by
  interval_cases d <;> rfl

theorem isHex_digitChar {d : Nat} (h : d < 16) : isHex (Nat.digitChar d).toUInt8 = true := by
  interval_cases d <;> rfl

theorem isDigit_digitChar {d : Nat} (h : d < 10) : isDigit (Nat.digitChar d).toUInt8 = true := by
  interval_cases d <;> rfl

/-! ### Values -/

theorem digitsValue_concat (b : Nat) (t : Text) (c : UInt8) :
    digitsValue b (t ++ [c]) = digitsValue b t * b + hexValue c := by
  rw [digitsValue, List.foldl_append]
  rfl

theorem digitsValue_zeros (b k : Nat) (t : Text) : digitsValue b (List.replicate k '0'.toUInt8 ++ t) = digitsValue b t := by
  induction k with
  | zero => rfl
  | succ k ih =>
    rw [List.replicate_succ, List.cons_append, digitsValue, List.foldl_cons, Nat.zero_mul]
    exact ih

theorem hexValue_lt_ten {c : UInt8} (h : isDigit c = true) : hexValue c < 10 := by
  simp only [isDigit, Bool.and_eq_true, decide_eq_true_eq] at h
  have hlow : (48 : UInt8) ≤ c := h.1
  have hhigh : c ≤ (57 : UInt8) := h.2
  rw [hexValue, isDigit, decide_eq_true h.1, decide_eq_true h.2, Bool.and_self, if_pos rfl]
  change (c - 48).toNat < 10
  rw [UInt8.le_iff_toNat_le] at hlow hhigh
  rw [UInt8.toNat_sub_of_le c 48 (UInt8.le_iff_toNat_le.mpr hlow)]
  simp only [UInt8.reduceToNat] at hlow hhigh ⊢
  omega

theorem digitsValue_lt (h : ∀ c ∈ t, isDigit c = true) : digitsValue 10 t < 10 ^ t.length := by
  induction t using List.reverseRecOn with
  | nil => exact Nat.one_pos
  | append_singleton t c ih =>
    have hvalue := ih fun d hd => h d (List.mem_append_left _ hd)
    have hlast := hexValue_lt_ten (h c (List.mem_append_right _ (List.mem_singleton_self c)))
    rw [digitsValue_concat, List.length_append, List.length_singleton, Nat.pow_succ]
    omega

/-! ### The digits of a number -/

theorem digitsValue_toDigits (h1 : 1 < b) (h16 : b ≤ 16) (n : Nat) :
    digitsValue b ((Nat.toDigits b n).map Char.toUInt8) = n := by
  induction n using Nat.strong_induction_on with
  | _ n ih =>
    rcases Nat.lt_or_ge n b with hlt | hge
    · rw [Nat.toDigits_of_lt_base hlt]
      simp only [digitsValue, List.map_cons, List.map_nil, List.foldl_cons, List.foldl_nil,
        hexValue_digitChar (hlt.trans_le h16), Nat.zero_mul, Nat.zero_add]
    · have hmod : n % b < 16 := (Nat.mod_lt n (by omega)).trans_le h16
      rw [Nat.toDigits_of_base_le h1 hge, List.map_append, List.map_singleton, digitsValue_concat,
        ih (n / b) (Nat.div_lt_self (by omega) h1), hexValue_digitChar hmod, Nat.mul_comm, Nat.div_add_mod]

theorem exists_of_mem_toDigits (h1 : 1 < b) {c : Char} (hc : c ∈ Nat.toDigits b n) : ∃ d < b, c = Nat.digitChar d := by
  induction n using Nat.strong_induction_on with
  | _ n ih =>
    rcases Nat.lt_or_ge n b with hlt | hge
    · rw [Nat.toDigits_of_lt_base hlt, List.mem_singleton] at hc
      exact ⟨n, hlt, hc⟩
    · rw [Nat.toDigits_of_base_le h1 hge, List.mem_append, List.mem_singleton] at hc
      rcases hc with hc | hc
      · exact ih (n / b) (Nat.div_lt_self (by omega) h1) hc
      · exact ⟨n % b, Nat.mod_lt n (by omega), hc⟩

/-- The digits of a number above zero begin with another digit than zero. -/
theorem head?_toDigits_ne (h1 : 1 < b) (h16 : b ≤ 16) (hn : 0 < n) :
    ((Nat.toDigits b n).map Char.toUInt8).head? ≠ some '0'.toUInt8 := by
  induction n using Nat.strong_induction_on with
  | _ n ih =>
    rcases Nat.lt_or_ge n b with hlt | hge
    · rw [Nat.toDigits_of_lt_base hlt]
      intro hhead
      have hvalue := congrArg hexValue (Option.some.inj hhead)
      rw [hexValue_digitChar (hlt.trans_le h16)] at hvalue
      exact absurd hvalue (Nat.ne_of_gt hn)
    · rw [Nat.toDigits_of_base_le h1 hge, List.map_append, List.head?_append_of_ne_nil _ (by simp [Nat.toDigits_ne_nil])]
      exact ih (n / b) (Nat.div_lt_self hn h1) (Nat.div_pos hge (by omega))

theorem length_padLeft_toDigits (h1 : 1 < b) (hw : 0 < w) (h : n < b ^ w) (fill : UInt8) :
    (padLeft w fill ((Nat.toDigits b n).map Char.toUInt8)).length = w := by
  have hlength := (Nat.length_toDigits_le_iff h1 hw).mpr h
  rw [padLeft, List.length_append, List.length_replicate, List.length_map]
  omega

/-! ### Decimal numbers -/

theorem ofNat_eq (n : Nat) : ofNat n = (Nat.toDigits 10 n).map Char.toUInt8 := by
  have hchars : (toString n).toList = Nat.toDigits 10 n := String.toList_ofList
  rw [ofNat, ofString, hchars, List.map_eq_flatMap]
  refine List.flatMap_congr fun c hc => ?_
  obtain ⟨d, hd, rfl⟩ := exists_of_mem_toDigits (by decide) hc
  interval_cases d <;> rfl

theorem isDigit_of_mem_ofNat {c : UInt8} (h : c ∈ ofNat n) : isDigit c = true := by
  rw [ofNat_eq] at h
  obtain ⟨_, hc, rfl⟩ := List.mem_map.mp h
  obtain ⟨d, hd, rfl⟩ := exists_of_mem_toDigits (by decide) hc
  exact isDigit_digitChar hd

theorem digitsValue_ofNat (n : Nat) : digitsValue 10 (ofNat n) = n := by
  rw [ofNat_eq, digitsValue_toDigits (by decide) (by decide)]

theorem ofNat_ne_nil (n : Nat) : ofNat n ≠ [] := by
  rw [ofNat_eq]
  simp [Nat.toDigits_ne_nil]

theorem length_padNat (hw : 0 < w) (h : n < 10 ^ w) : (padNat w n).length = w := by
  rw [padNat, ofNat_eq, length_padLeft_toDigits (by decide) hw h]

theorem digitsValue_padNat (w n : Nat) : digitsValue 10 (padNat w n) = n := by
  rw [padNat, padLeft, digitsValue_zeros, digitsValue_ofNat]

theorem isDigit_of_mem_padNat {c : UInt8} (h : c ∈ padNat w n) : isDigit c = true := by
  rcases List.mem_append.mp h with h | h
  · rw [List.eq_of_mem_replicate h]
    rfl
  · exact isDigit_of_mem_ofNat h

/-! ### ASCII -/

/-- Are all octets those of ASCII characters? -/
def isAscii (t : Text) : Bool := t.all (· < 0x80)

theorem isAscii_append (t u : Text) : isAscii (t ++ u) = (isAscii t && isAscii u) := List.all_append

theorem isAscii_of_digits (h : ∀ c ∈ t, isDigit c = true) : isAscii t = true := by
  refine List.all_eq_true.mpr fun c hc => decide_eq_true ?_
  have hc := h c hc
  simp only [isDigit, Bool.and_eq_true, decide_eq_true_eq] at hc
  exact UInt8.lt_of_le_of_lt hc.2 (by decide)

theorem isAscii_padNat (w n : Nat) : isAscii (padNat w n) = true := isAscii_of_digits fun _ hc => isDigit_of_mem_padNat hc

end Marginalia.Text
