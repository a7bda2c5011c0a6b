import Mathlib
import Marginalia.Calendar.Format
import Marginalia.Calendar.Internet
import Marginalia.Proofs.Calendar.Civil
import Marginalia.Proofs.Text.Lines
import Marginalia.Proofs.Text.Numerals

/-!
The internet date and time can be read back. It has room for years of four digits and for whole minutes of distance from
universal time below a day; a clock whose distance has seconds besides is written as if it had none, and the instant that
is read is off by them.
-/

namespace Marginalia

namespace Moment

variable {w n : Nat}

theorem digits?_padNat (hw : 0 < w) (h : n < 10 ^ w) (rest : Text) :
    digits? w (Text.padNat w n ++ rest) = some (n, rest) := by
  have hlength := Text.length_padNat hw h
  have htake : (Text.padNat w n ++ rest).take w = Text.padNat w n := List.take_left' hlength
  have hdigits : (Text.padNat w n).all Text.isDigit = true :=
    List.all_eq_true.mpr fun c hc => Text.isDigit_of_mem_padNat hc
  rw [digits?, htake, hlength, hdigits, beq_self_eq_true, Bool.and_self, if_pos rfl, Text.digitsValue_padNat,
    List.drop_left' hlength]

theorem hour?_padNat (h : n < 100) (rest : Text) : hour? (Text.padNat 2 n ++ rest) = some (n, rest) := by
  rw [hour?, digits?_padNat (by decide) (by omega)]
  rfl

/-- A moment as its written form tells it: the clock shows the same, but its distance has no seconds. -/
def told (m : Moment) : Moment := ⟨m.seconds + m.offset.tmod 60, m.nano, m.offset - m.offset.tmod 60⟩

theorem octet?_append {c : UInt8} {sign : Text} (h : sign = [c]) (rest : Text) : octet? c (sign ++ rest) = some rest := by
  rw [h, List.singleton_append, octet?, beq_self_eq_true, if_pos rfl]

/-! ### The fraction -/

/-- A text that goes on neither with a digit nor with a point or comma. -/
def EndsFraction (t : Text) : Prop := t.head?.all (fun c => !Text.isDigit c && c != '.' && c != ',') = true

theorem fraction_of_ends {t : Text} (h : EndsFraction t) : fraction t = (0, t) := by
  match t, h with
  | [], _ => rfl
  | [_], _ => rfl
  | c :: d :: t, h =>
    simp only [EndsFraction, List.head?_cons, Option.all_some, Bool.and_eq_true, bne_iff_ne] at h
    rw [fraction, beq_false_of_ne h.1.2, beq_false_of_ne h.2]
    rfl

theorem takeWhile_digits {ds rest : Text} (hds : ∀ c ∈ ds, Text.isDigit c = true) (hrest : EndsFraction rest) :
    (ds ++ rest).takeWhile Text.isDigit = ds ∧ (ds ++ rest).dropWhile Text.isDigit = rest := by
  rw [List.takeWhile_append_of_pos hds, List.dropWhile_append_of_pos hds]
  match rest, hrest with
  | [], _ => simp
  | c :: rest, h =>
    simp only [EndsFraction, List.head?_cons, Option.all_some, Bool.and_eq_true, Bool.not_eq_true'] at h
    simp [h.1.1]

theorem nanos_stripRight {t : Text} (h : t.length = 9) : nanos (Text.stripRight (· == '0') t) = Text.digitsValue 10 t := by
  obtain ⟨k, hk⟩ := Text.eq_stripRight_append_replicate '0' t
  have hlength := congrArg List.length hk
  rw [List.length_append, List.length_replicate, h] at hlength
  rw [nanos, List.take_append, List.take_of_length_le (by omega), List.take_replicate]
  conv_rhs => rw [hk]
  congr 3
  omega

theorem isDigit_of_mem_fraction {m : Moment} {c : UInt8} (hc : c ∈ Text.stripRight (· == '0') (Text.padNat 9 m.nano)) :
    Text.isDigit c = true := by
  obtain ⟨k, hk⟩ := Text.eq_stripRight_append_replicate '0' (Text.padNat 9 m.nano)
  exact Text.isDigit_of_mem_padNat (n := m.nano) (w := 9) (hk ▸ List.mem_append_left _ hc)

theorem fraction_fractionText {m : Moment} (h : m.nano < 1000000000) {rest : Text} (hrest : EndsFraction rest) :
    fraction (m.fractionText ++ rest) = (m.nano, rest) := by
  unfold fractionText
  split
  · rename_i hzero
    rw [List.nil_append, fraction_of_ends hrest, beq_iff_eq.mp hzero]
  rename_i hne
  have hvalue : nanos (Text.stripRight (· == '0') (Text.padNat 9 m.nano)) = m.nano := by
    rw [nanos_stripRight (Text.length_padNat (by decide) h), Text.digitsValue_padNat]
  have hdigits : ∀ c ∈ Text.stripRight (· == '0') (Text.padNat 9 m.nano), Text.isDigit c = true :=
    fun c hc => isDigit_of_mem_fraction hc
  generalize Text.stripRight (· == '0') (Text.padNat 9 m.nano) = ds at hvalue hdigits
  match ds, hvalue, hdigits with
  | [], hvalue, _ => exact absurd (beq_iff_eq.mpr hvalue.symm) hne
  | d :: ds, hvalue, hdigits =>
    obtain ⟨htake, hdrop⟩ := takeWhile_digits hdigits hrest
    rw [List.cons_append] at htake hdrop
    rw [List.cons_append, List.cons_append, fraction, hdigits d List.mem_cons_self, htake, hdrop, hvalue]
    rfl

/-! ### The zone -/

theorem zone?_offset {sign : UInt8} (hsign : sign = '+' ∨ sign = '-') {h n : Nat} (hh : h < 24) (hn : n < 60) :
    zone? (sign :: (Text.padNat 2 h ++ (":" ++ Text.padNat 2 n))) =
      some (if sign == '-' then -((h * 60 + n) * 60 : Int) else (h * 60 + n) * 60) := by
  have hhours := digits?_padNat (w := 2) (n := h) (by decide) (by omega)
  have hminutes := digits?_padNat (w := 2) (n := n) (by decide) (by omega) []
  rw [List.append_nil] at hminutes
  have hrange : (([] : Text).isEmpty && decide (h ≤ 24) && decide (n ≤ 60)) = true := by
    rw [List.isEmpty_nil, decide_eq_true (by omega), decide_eq_true (by omega)]
    rfl
  have hzed : (sign == 'Z') = false := by rcases hsign with rfl | rfl <;> rfl
  have hsigned : (sign == '+' || sign == '-') = true := by rcases hsign with rfl | rfl <;> rfl
  simp only [zone?, hzed, hsigned, hhours, octet?_append (show Text.ofString ":" = [(':' : UInt8)] by decide), hminutes,
    hrange, Bool.false_eq_true, if_false, if_true, Option.bind_eq_bind, Option.bind_some]

theorem zone?_zoneText {m : Moment} (h : m.offset.natAbs < 86400) : zone? m.zoneText = some m.told.offset := by
  unfold zoneText
  split
  · rename_i hzero
    rw [told, beq_iff_eq.mp hzero]
    rfl
  have hhours : m.offset.natAbs / 60 / 60 < 24 := by omega
  have hminutes : m.offset.natAbs / 60 % 60 < 60 := by omega
  rw [offsetText, List.append_assoc, List.append_assoc]
  rcases lt_or_ge m.offset 0 with hneg | hpos
  · have htold : m.told.offset = -(m.offset.natAbs / 60 * 60 : Int) := by
      obtain ⟨k, hk⟩ : ∃ k : Int, m.offset = -k := ⟨-m.offset, by omega⟩
      simp only [told, hk, Int.neg_tmod, Int.tmod_eq_emod_of_nonneg (show 0 ≤ k by omega)]
      omega
    rw [if_pos hneg, show Text.ofString "-" = [('-' : UInt8)] by decide, List.singleton_append,
      zone?_offset (.inr rfl) hhours hminutes, if_pos (by decide), htold]
    simp only [Option.some.injEq]
    omega
  · have htold : m.told.offset = m.offset.natAbs / 60 * 60 := by
      simp only [told, Int.tmod_eq_emod_of_nonneg hpos]
      omega
    rw [if_neg (by omega), show Text.ofString "+" = [('+' : UInt8)] by decide, List.singleton_append,
      zone?_offset (.inl rfl) hhours hminutes, if_neg (by decide), htold]
    simp only [Option.some.injEq]
    omega

theorem endsFraction_zoneText (m : Moment) : EndsFraction m.zoneText := by
  unfold zoneText offsetText
  split
  · rfl
  · split <;> rfl

/-! ### The whole -/

/-- There is room for the moment in its written form. -/
structure Writable (m : Moment) : Prop where
  year : 0 ≤ m.civil.year ∧ m.civil.year ≤ 9999
  offset : m.offset.natAbs < 86400

/-- What a clock shows, with the fraction and the zone behind it, is read as the moment at which it shows that. -/
theorem parseInternet?_clock {c : Civil} (hvalid : c.Valid) {year : Nat} (hyear : c.year = year) (hroom : year < 10000)
    {tail zone : Text} {offset : Int} (htail : fraction tail = (c.nano, zone)) (hzone : zone? zone = some offset) :
    parseInternet? (Text.padNat 4 year ++ ("-" ++ (Text.padNat 2 c.month ++ ("-" ++ (Text.padNat 2 c.day ++ ("T" ++
      (Text.padNat 2 c.hour ++ (":" ++ (Text.padNat 2 c.minute ++ (":" ++ (Text.padNat 2 c.second ++ tail))))))))))) =
      some (c.moment offset) := by
  obtain ⟨hmonth, hday, hhour, hminute, hsecond⟩ := hvalid
  have hlast := Calendar.daysIn_le c.month c.year
  have hdash := octet?_append (show Text.ofString "-" = [('-' : UInt8)] by decide)
  have hcolon := octet?_append (show Text.ofString ":" = [(':' : UInt8)] by decide)
  have htee := octet?_append (show Text.ofString "T" = [('T' : UInt8)] by decide)
  have hread := fun (n : Nat) (hn : n < 60) => digits?_padNat (w := 2) (n := n) (by decide) (by omega)
  rw [parseInternet?, digits?_padNat (by decide) (by omega), Option.bind_eq_bind, Option.bind_some]
  simp only [hdash, hcolon, htee, hread c.month (by omega), hread c.day (by omega), hread c.minute hminute,
    hread c.second hsecond, hour?_padNat (n := c.hour) (by omega), htail, hzone, Option.bind_eq_bind, Option.bind_some]
  rw [← hyear, if_pos]
  simp only [hmonth, hday, hhour, hminute, hsecond, decide_true, Bool.and_self]

theorem internetText_eq {m : Moment} (h : 0 ≤ m.civil.year) :
    m.internetText = Text.padNat 4 m.civil.year.natAbs ++ ("-" ++ (Text.padNat 2 m.civil.month ++ ("-" ++
      (Text.padNat 2 m.civil.day ++ ("T" ++ (Text.padNat 2 m.civil.hour ++ (":" ++ (Text.padNat 2 m.civil.minute ++ (":" ++
        (Text.padNat 2 m.civil.second ++ (m.fractionText ++ m.zoneText))))))))))) := by
  have hpositive : Text.ofString (if m.civil.year < 0 then "-" else "") = [] := by
    rw [if_neg (by omega)]
    rfl
  simp only [internetText, dateText, timeText, minuteText, yearText, hpositive, List.nil_append, List.append_assoc]

theorem civil_moment_told (m : Moment) : m.civil.moment m.told.offset = m.told := by
  have hclock := congrArg seconds m.civil_moment
  simp only [Civil.moment] at hclock
  simp only [Civil.moment, told, mk.injEq]
  exact ⟨by omega, rfl, trivial⟩

/-- The written form of a moment is read as what it tells. -/
theorem parseInternet?_internetText {m : Moment} (h : m.Writable) (hnano : m.nano < 1000000000) :
    parseInternet? m.internetText = some m.told := by
  have hroom := h.year
  rw [internetText_eq hroom.1, parseInternet?_clock m.civil_valid (Int.natAbs_of_nonneg hroom.1).symm (by omega)
    (fraction_fractionText hnano m.endsFraction_zoneText) (zone?_zoneText h.offset), civil_moment_told]

/-- A moment whose written form tells all of it. -/
structure Portable (m : Moment) : Prop extends m.Writable where
  minutes : 60 ∣ m.offset

theorem told_eq_iff {m : Moment} : m.told = m ↔ 60 ∣ m.offset := by
  rw [Int.dvd_iff_tmod_eq_zero]
  constructor
  · intro h
    have hseconds := congrArg seconds h
    simp only [told] at hseconds
    omega
  · intro h
    rw [told, h, Int.add_zero, Int.sub_zero]

theorem isAscii_fractionText (m : Moment) : m.fractionText.isAscii = true := by
  have hdigits : (Text.stripRight (· == '0') (Text.padNat 9 m.nano)).isAscii = true :=
    Text.isAscii_of_digits fun _ hc => isDigit_of_mem_fraction (m := m) hc
  unfold fractionText
  split
  · rfl
  · generalize Text.stripRight (· == '0') (Text.padNat 9 m.nano) = ds at hdigits
    exact Bool.and_eq_true_iff.mpr ⟨rfl, hdigits⟩

theorem isAscii_zoneText (m : Moment) : m.zoneText.isAscii = true := by
  have hcolon : (Text.ofString ":").isAscii = true := by decide
  unfold zoneText
  split
  · rfl
  · rw [offsetText]
    split <;>
      rw [Text.isAscii_append, Text.isAscii_append, Text.isAscii_append, Text.isAscii_padNat, Text.isAscii_padNat, hcolon] <;>
      decide

theorem isAscii_internetText (m : Moment) : m.internetText.isAscii = true := by
  have hdash : (Text.ofString "-").isAscii = true := by decide
  have hcolon : (Text.ofString ":").isAscii = true := by decide
  have htee : (Text.ofString "T").isAscii = true := by decide
  have hyear : (Text.ofString (if m.civil.year < 0 then "-" else "")).isAscii = true := by split <;> decide
  simp only [internetText, dateText, timeText, minuteText, yearText, Text.isAscii_append, Text.isAscii_padNat, hdash,
    hcolon, htee, hyear, isAscii_fractionText, isAscii_zoneText, Bool.and_self]

end Moment

end Marginalia
