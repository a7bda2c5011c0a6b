import Mathlib
import Marginalia.Calendar.FreeForm
import Marginalia.Proofs.Calendar.Internet

/-!
What can be read from a date in free form. The fraction of a second is less than a second, however it was written.
Years and distances from universal time have no such bound.
-/

namespace Marginalia

namespace Moment

theorem nanos_lt {ds : Text} (h : ∀ c ∈ ds, Text.isDigit c = true) : nanos ds < 1000000000 := by
  have hall : ∀ c ∈ (ds ++ List.replicate 9 '0'.toUInt8).take 9, Text.isDigit c = true := by
    intro c hc
    rcases List.mem_append.mp (List.mem_of_mem_take hc) with hc | hc
    · exact h c hc
    · rw [List.eq_of_mem_replicate hc]
      rfl
  have hlength : ((ds ++ List.replicate 9 '0'.toUInt8).take 9).length = 9 := by
    rw [List.length_take, List.length_append, List.length_replicate]
    omega
  have hvalue := Text.digitsValue_lt hall
  rwa [hlength] at hvalue

theorem fraction_lt (t : Text) : (fraction t).1 < 1000000000 := by
  unfold fraction
  split
  · split
    · exact nanos_lt fun c hc => List.mem_takeWhile_imp hc
    · exact Nat.succ_pos _
  · exact Nat.succ_pos _

end Moment

namespace Layout

variable {p p' : Parts} {rest t t' : Text} {m : Moment}

theorem fractionNanos?_lt {n : Nat} (h : fractionNanos? t = some n) : n < 1000000000 := by
  unfold fractionNanos? at h
  split at h
  · simp only at h
    split at h
    · rename_i hdigits
      obtain rfl := Option.some.inj h
      exact Moment.nanos_lt (List.all_eq_true.mp (Bool.and_eq_true_iff.mp hdigits).2)
    · cases h
  · cases h

/-- Reading one field keeps the fraction below a second. -/
theorem readField_nano {field : Field} (hp : p.nano < 1000000000)
    (h : readField field rest t p = some (p', t')) : p'.nano < 1000000000 := by
  cases field with
  | second f =>
    have := Moment.fraction_lt
    simp only [readField] at h
    grind
  | fraction n =>
    simp only [readField] at h
    split at h
    · cases h
    · obtain ⟨nano, hnano, heq⟩ := Option.map_eq_some_iff.mp h
      obtain rfl := (Prod.mk.inj heq).1
      exact fractionNanos?_lt hnano
  | someFraction =>
    have := Moment.fraction_lt t
    simp only [readField] at h
    grind
  | _ =>
    -- The other fields leave it alone.
    simp only [readField] at h
    grind [= Option.map_eq_some_iff]

theorem readParts_nano {fuel : Nat} {layout value : Text} (hp : p.nano < 1000000000)
    (h : readParts fuel layout value p = some p') : p'.nano < 1000000000 := by
  induction fuel generalizing layout value p with
  | zero => cases h
  | succ fuel ih =>
    simp only [readParts] at h
    split at h
    · cases h
    · split at h
      · obtain rfl := Option.some.inj h
        exact hp
      · cases h
    · split at h
      · rename_i hfield
        exact ih (readField_nano hp hfield) h
      · cases h

theorem moment?_nano (h : p.moment? = some m) : m.nano = p.nano := by
  simp only [Parts.moment?] at h
  split at h
  · obtain ⟨date, -, h⟩ := Option.bind_eq_some_iff.mp h
    grind [Civil.moment]
  · obtain ⟨date, -, h⟩ := Option.bind_eq_some_iff.mp h
    grind [Civil.moment]

theorem read_nano {layout value : Text} (h : read layout value = some m) : m.nano < 1000000000 := by
  obtain ⟨p, hp, hm⟩ := Option.bind_eq_some_iff.mp h
  rw [moment?_nano hm]
  exact readParts_nano (Nat.succ_pos _) hp

end Layout

namespace Sketch

variable {s : Sketch} {t : Text} {m : Moment}

theorem ofNanos_nano (n : Int) : (ofNanos n).nano < 1000000000 := by
  have := Int.fmod_lt_of_pos (Int.bmod n (2 * Text.signedLimit)) (show (0 : Int) < 1000000000 by decide)
  simp only [ofNanos]
  omega

theorem ofDigits_nano (h : s.ofDigits = .moment m) : m.nano < 1000000000 := by
  have := ofNanos_nano
  simp only [ofDigits] at h
  grind

theorem conclude_nano {i : Nat} (h : s.conclude i = .moment m) : m.nano < 1000000000 := by
  unfold conclude at h
  split at h
  · exact ofDigits_nano h
  all_goals cases h

theorem sketch_nano (h : sketch t = .moment m) : m.nano < 1000000000 := by
  unfold sketch at h
  simp only at h
  split at h
  · cases h
  · cases h
  · cases h
  · split at h
    · exact conclude_nano h
    · split at h
      · cases h
      · cases h
      · cases h
      · split at h
        · exact conclude_nano h
        · cases h

theorem read_nano (h : s.read = some m) : m.nano < 1000000000 := by
  unfold read at h
  extract_lets custom value whole layout at h
  split at h
  · exact Layout.read_nano h
  · exact Layout.read_nano h

end Sketch

namespace Moment

variable {t : Text} {m : Moment}

theorem parseWithin_nano {fuel : Nat} (h : parseWithin fuel t = some m) : m.nano < 1000000000 := by
  induction fuel generalizing t with
  | zero => cases h
  | succ fuel ih =>
    simp only [parseWithin] at h
    split at h
    · rename_i hsketch
      obtain rfl := Option.some.inj h
      exact Sketch.sketch_nano hsketch
    · exact Sketch.read_nano h
    · exact ih h
    · cases h

theorem parseFreeForm?_nano (h : parseFreeForm? t = some m) : m.nano < 1000000000 := parseWithin_nano h

end Moment

end Marginalia
