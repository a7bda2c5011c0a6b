import Mathlib
import Marginalia.Json
import Marginalia.Proofs.Text.Numerals
import Marginalia.Proofs.Text.Symbols

/-!
Reading data. The reader takes the form without blanks that data is written in, and nothing that is not JSON: all signs
that must be escaped are, numbers have no zeros in front, and nothing follows the value. What is written is read back as
it was, where the texts in it are well-formed.
-/

namespace Marginalia

namespace Text

theorem isWellFormed_of_isAscii {t : Text} (h : t.isAscii = true) : t.isWellFormed = true := by
  induction t with
  | nil =>
    rw [isWellFormed, symbols_nil]
    rfl
  | cons c t ih =>
    simp only [isAscii, List.all_cons, Bool.and_eq_true, decide_eq_true_eq] at h
    have hnext : next? (c :: t) = some (.char (Char.ofNat c.toNat), t) := by
      rw [next?.eq_def]
      exact if_pos h.1
    rw [isWellFormed, symbols_of_next? hnext, List.all_cons]
    exact ih h.2

end Text

namespace Json

/-! ### The reader -/

/-- Data as it is read. -/
inductive Value where
  | string (t : Text)
  | number (i : Int)
  | list (values : List Value)
  | record (fields : List (Text × Value))

/-- The octet that an escape of one letter stands for. -/
def shortEscape? (c : UInt8) : Option UInt8 :=
  if c == '"' || c == '\\' || c == '/' then some c
  else if c == 'n' then some '\n'
  else if c == 'r' then some '\r'
  else if c == 't' then some '\t'
  else if c == 'b' then some '\x08'
  else if c == 'f' then some '\x0c'
  else none

/-- The character that an escape of four digits stands for. Halves of characters are not taken. -/
def codeText? (digits : Text) : Option Text :=
  if digits.all Text.isHex && decide (Text.digitsValue 16 digits).isValidChar then
    some (Text.ofChar (Char.ofNat (Text.digitsValue 16 digits)))
  else none

/-- A text in front of one that was read. -/
def follow (u : Text) (found : Option (Text × Text)) : Option (Text × Text) := found.map fun (v, rest) => (u ++ v, rest)

/-- The text up to the quote that ends it, and what follows the quote. -/
def quoted? : Text → Option (Text × Text)
  | [] => none
  | c :: t =>
    if c == '"' then some ([], t)
    else if c == '\\' then
      match t with
      | [] => none
      | d :: t =>
        if d == 'u' then
          match t with
          | h :: i :: j :: k :: t => (codeText? [h, i, j, k]).bind fun u => follow u (quoted? t)
          | _ => none
        else (shortEscape? d).bind fun e => follow [e] (quoted? t)
    else if c < 0x20 then none
    else follow [c] (quoted? t)

/-- A string, and the rest. -/
def string? (t : Text) : Option (Text × Text) :=
  match t with
  | [] => none
  | c :: t => if c == '"' then (quoted? t).filter fun (u, _) => u.isWellFormed else none

/-- A number without a sign, and the rest. -/
def natural? (t : Text) : Option (Nat × Text) :=
  let (digits, rest) := Text.span Text.isDigit t
  if digits.isEmpty || (1 < digits.length && digits.head? == some '0'.toUInt8) then none
  else some (Text.digitsValue 10 digits, rest)

/-- A whole number, and the rest. -/
def number? (t : Text) : Option (Int × Text) :=
  match Text.after? t "-" with
  | some t => (natural? t).map fun (n, rest) => (-n, rest)
  | none => (natural? t).map fun (n, rest) => (n, rest)

section
variable {α : Type} (close : UInt8) (item : Text → Option (α × Text))

/-- One thing or more, with commas between them, up to a closing sign; the number bounds the things. -/
def more? : (fuel : Nat) → Text → Option (List α × Text)
  | 0, _ => none
  | fuel + 1, t =>
    match item t with
    | some (x, c :: rest) =>
      if c == close then some ([x], rest)
      else if c == ',' then (more? fuel rest).map fun (xs, rest) => (x :: xs, rest)
      else none
    | _ => none

/-- Things with commas between them up to a closing sign. -/
def items? (t : Text) : Option (List α × Text) :=
  match t with
  | [] => none
  | c :: rest => if c == close then some ([], rest) else more? close item t.length t

end

/-- A name and a value. -/
def member? (value : Text → Option (Value × Text)) (t : Text) : Option ((Text × Value) × Text) := do
  let (name, t) ← string? t
  let t ← Text.after? t ":"
  let (v, t) ← value t
  return ((name, v), t)

/-- A value and the rest; the number bounds how deep values stand in each other. -/
def value? : (fuel : Nat) → Text → Option (Value × Text)
  | 0, _ => none
  | _ + 1, [] => none
  | fuel + 1, c :: t =>
    if c == '"' then (string? (c :: t)).map fun (u, rest) => (.string u, rest)
    else if c == '[' then (items? ']' (value? fuel) t).map fun (vs, rest) => (.list vs, rest)
    else if c == '\x7b' then (items? '\x7d' (member? (value? fuel)) t).map fun (fs, rest) => (.record fs, rest)
    else (number? (c :: t)).map fun (i, rest) => (.number i, rest)

/-- Reads a text that is one value. -/
def read? (t : Text) : Option Value :=
  match value? t.length t with
  | some (v, []) => some v
  | _ => none

namespace Value

/-- The value of a field. -/
def field? (v : Value) (name : Text) : Option Value :=
  match v with
  | .record fields => fields.lookup name
  | _ => none

/-- The text in a field. -/
def text? (v : Value) (name : Text) : Option Text :=
  match v.field? name with
  | some (.string t) => some t
  | _ => none

/-- The text in a field that is left out if its text is empty. -/
def textOrEmpty? (v : Value) (name : Text) : Option Text :=
  match v.field? name with
  | some (.string t) => some t
  | some _ => none
  | none => some []

/-- The number in a field. -/
def number? (v : Value) (name : Text) : Option Int :=
  match v.field? name with
  | some (.number i) => some i
  | _ => none

/-- The list in a field. -/
def list? (v : Value) (name : Text) : Option (List Value) :=
  match v.field? name with
  | some (.list vs) => some vs
  | _ => none

end Value

/-! ### Strings -/

variable {t u rest : Text}

theorem follow_follow (u v : Text) (found : Option (Text × Text)) : follow u (follow v found) = follow (u ++ v) found := by
  simp only [follow, Option.map_map]
  congr 1
  funext ⟨w, rest⟩
  simp [List.append_assoc]

/-- An octet that stands for itself in a string. -/
def PlainOctet (b : UInt8) : Prop := b ≠ '"' ∧ b ≠ '\\' ∧ ¬b < 0x20

theorem quoted?_plain (h : ∀ b ∈ u, PlainOctet b) (rest : Text) : quoted? (u ++ rest) = follow u (quoted? rest) := by
  induction u with
  | nil => cases hrest : quoted? rest <;> simp [follow, hrest]
  | cons b u ih =>
    obtain ⟨hquote, hslash, hlow⟩ := h b List.mem_cons_self
    rw [List.cons_append, quoted?.eq_def]
    simp only [beq_false_of_ne hquote, beq_false_of_ne hslash, hlow, Bool.false_eq_true, if_false]
    rw [ih fun c hc => h c (List.mem_cons_of_mem b hc), follow_follow]
    rfl

theorem plainOctet_ofNat {n : Nat} (hhigh : n < 0x100) (hlow : 0x20 ≤ n) (hquote : n ≠ 0x22) (hslash : n ≠ 0x5c) :
    PlainOctet (UInt8.ofNat n) := by
  have hn : (UInt8.ofNat n).toNat = n := UInt8.toNat_ofNat_of_lt' hhigh
  refine ⟨fun heq => hquote ?_, fun heq => hslash ?_, fun hlt => ?_⟩
  · rw [← hn, heq]
    rfl
  · rw [← hn, heq]
    rfl
  · rw [UInt8.lt_iff_toNat_lt, hn] at hlt
    exact absurd hlt (Nat.not_lt_of_le hlow)

theorem plainOctet_of_mem {c : Char} (h : isPlain c = true) : ∀ b ∈ Text.ofChar c, PlainOctet b := by
  simp only [isPlain, Bool.and_eq_true, decide_eq_true_eq, bne_iff_ne] at h
  obtain ⟨⟨⟨⟨⟨⟨⟨hlow, hquote⟩, hslash⟩, -⟩, -⟩, -⟩, -⟩, -⟩ := h
  have hne : ∀ d : Char, c ≠ d → c.toNat ≠ d.toNat := fun d hd heq => hd (Char.toNat_inj.mp heq)
  have hquote := hne _ hquote
  have hslash := hne _ hslash
  have hval : c.val.toNat = c.toNat := rfl
  intro b hb
  rw [Text.ofChar, String.utf8EncodeChar, hval] at hb
  split at hb
  · obtain rfl := List.mem_singleton.mp hb
    exact plainOctet_ofNat (by omega) hlow hquote hslash
  -- The octets of a longer sequence are beyond ASCII.
  · split at hb
    · simp only [List.mem_cons, List.not_mem_nil, or_false] at hb
      rcases hb with rfl | rfl <;> apply plainOctet_ofNat <;> omega
    · split at hb
      · simp only [List.mem_cons, List.not_mem_nil, or_false] at hb
        rcases hb with rfl | rfl | rfl <;> apply plainOctet_ofNat <;> omega
      · simp only [List.mem_cons, List.not_mem_nil, or_false] at hb
        rcases hb with rfl | rfl | rfl | rfl <;> apply plainOctet_ofNat <;> omega

theorem quoted?_codeEscape {n : Nat} (h : n < 0x10000) (hvalid : n.isValidChar) (rest : Text) :
    quoted? (codeEscape n ++ rest) = follow (Text.ofChar (Char.ofNat n)) (quoted? rest) := by
  have hlength := Text.length_padLeft_toDigits (b := 16) (w := 4) (by decide) (by decide) h '0'
  have hvalue : Text.digitsValue 16 (Text.padLeft 4 '0' (Text.ofNatHex n)) = n := by
    rw [Text.padLeft, Text.digitsValue_zeros, Text.ofNatHex, Text.digitsValue_toDigits (by decide) (by decide)]
  have hhex : (Text.padLeft 4 '0' (Text.ofNatHex n)).all Text.isHex = true := by
    refine List.all_eq_true.mpr fun c hc => ?_
    rcases List.mem_append.mp hc with hc | hc
    · rw [List.eq_of_mem_replicate hc]
      rfl
    · obtain ⟨_, hdigit, rfl⟩ := List.mem_map.mp hc
      obtain ⟨d, hd, rfl⟩ := Text.exists_of_mem_toDigits (by decide) hdigit
      exact Text.isHex_digitChar hd
  rw [codeEscape]
  rw [← Text.ofNatHex] at hlength
  generalize Text.padLeft 4 '0' (Text.ofNatHex n) = digits at hlength hvalue hhex
  obtain ⟨i, j, k, l, rfl⟩ := List.length_eq_four.mp hlength
  have hcode : codeText? [i, j, k, l] = some (Text.ofChar (Char.ofNat n)) := by
    rw [codeText?, hhex, hvalue, decide_eq_true hvalid]
    rfl
  have hread : quoted? (Text.ofString "\\u" ++ [i, j, k, l] ++ rest) =
      (codeText? [i, j, k, l]).bind fun u => follow u (quoted? rest) := by
    conv_lhs => rw [quoted?.eq_def]
    rfl
  rw [hread, hcode]
  rfl

theorem quoted?_short {d e : UInt8} (hd : (d == 'u') = false) (he : shortEscape? d = some e) (rest : Text) :
    quoted? ('\\'.toUInt8 :: d :: rest) = follow [e] (quoted? rest) := by
  rw [quoted?.eq_def]
  simp only [hd, he]
  rfl

/-- A character that is not plain is one of few. -/
theorem toNat_lt_of_not_isPlain {c : Char} (h : isPlain c = false) : c.toNat < 0x10000 := by
  simp only [isPlain, Bool.and_eq_false_iff, decide_eq_false_iff_not, bne_eq_false_iff_eq] at h
  obtain ((((((hlow | rfl) | rfl) | rfl) | rfl) | rfl) | rfl) | rfl := h
  · omega
  all_goals decide

theorem quoted?_escapeChar (c : Char) (rest : Text) :
    quoted? (escapeChar c ++ rest) = follow (Text.ofChar c) (quoted? rest) := by
  by_cases hshort : c = '"' ∨ c = '\\' ∨ c = '\n' ∨ c = '\r' ∨ c = '\t' ∨ c = '\x08' ∨ c = '\x0c'
  · rcases hshort with rfl | rfl | rfl | rfl | rfl | rfl | rfl <;> exact quoted?_short rfl rfl rest
  simp only [not_or] at hshort
  obtain ⟨hquote, hslash, hfeed, hreturn, htab, hback, hform⟩ := hshort
  have hescape : escapeChar c = if isPlain c then Text.ofChar c else codeEscape c.toNat := by
    simp only [escapeChar, beq_false_of_ne hquote, beq_false_of_ne hslash, beq_false_of_ne hfeed,
      beq_false_of_ne hreturn, beq_false_of_ne htab, beq_false_of_ne hback, beq_false_of_ne hform, Bool.or_self,
      Bool.false_eq_true, if_false]
  rw [hescape]
  split
  · rename_i hplain
    exact quoted?_plain (plainOctet_of_mem hplain) rest
  · rename_i hplain
    rw [quoted?_codeEscape (toNat_lt_of_not_isPlain (Bool.eq_false_of_not_eq_true hplain)) c.valid, Char.ofNat_toNat]

theorem quoted?_quote (rest : Text) : quoted? ('"'.toUInt8 :: rest) = some ([], rest) := by
  rw [quoted?.eq_def]
  rfl

theorem quoted?_symbols {ss : List Text.Symbol} (h : ∀ s ∈ ss, ∃ c, s = .char c) (rest : Text) :
    quoted? (ss.flatMap escapeSymbol ++ '"'.toUInt8 :: rest) = some (Text.ofSymbols ss, rest) := by
  induction ss with
  | nil => exact quoted?_quote rest
  | cons s ss ih =>
    obtain ⟨c, rfl⟩ := h s List.mem_cons_self
    rw [List.flatMap_cons, escapeSymbol, List.append_assoc, quoted?_escapeChar,
      ih fun u hu => h u (List.mem_cons_of_mem _ hu), Text.ofSymbols_cons]
    rfl

theorem exists_char_of_isWellFormed (h : t.isWellFormed = true) : ∀ s ∈ Text.symbols t, ∃ c, s = .char c := by
  intro s hs
  have hchar := List.all_eq_true.mp h s hs
  cases s with
  | char c => exact ⟨c, rfl⟩
  | stray b => cases hchar

theorem string_eq (t : Text) :
    string t = '"'.toUInt8 :: ((Text.symbols t).flatMap escapeSymbol ++ ['"'.toUInt8]) := rfl

/-- A string that was written is read back. -/
theorem string?_string (h : t.isWellFormed = true) (rest : Text) : string? (string t ++ rest) = some (t, rest) := by
  have hread := quoted?_symbols (exists_char_of_isWellFormed h) rest
  rw [Text.ofSymbols_symbols] at hread
  rw [string_eq, List.cons_append, List.append_assoc, List.singleton_append, string?, beq_self_eq_true, if_pos rfl,
    hread, Option.filter_some]
  exact if_pos h

/-! ### Numbers -/

/-- A text that does not go on with a digit. -/
def Stops (rest : Text) : Prop := rest.head?.any Text.isDigit = false

theorem natural?_ofNat (n : Nat) (hrest : Stops rest) : natural? (Text.ofNat n ++ rest) = some (n, rest) := by
  have hdigits : ∀ c ∈ Text.ofNat n, Text.isDigit c = true := fun c hc => Text.isDigit_of_mem_ofNat hc
  have hspan : Text.span Text.isDigit (Text.ofNat n ++ rest) = (Text.ofNat n, rest) := by
    rw [Text.span, List.takeWhile_append_of_pos hdigits, List.dropWhile_append_of_pos hdigits]
    cases rest with
    | nil => simp
    | cons c rest =>
      have hc : Text.isDigit c = false := hrest
      simp [hc]
  have hfirst : ((Text.ofNat n).isEmpty || (decide (1 < (Text.ofNat n).length) &&
      (Text.ofNat n).head? == some '0'.toUInt8)) = false := by
    rw [List.isEmpty_eq_false_iff.mpr (Text.ofNat_ne_nil n), Bool.false_or]
    rcases Nat.eq_zero_or_pos n with rfl | hn
    · rfl
    · have hhead := Text.head?_toDigits_ne (b := 10) (by decide) (by decide) hn
      rw [← Text.ofNat_eq] at hhead
      rw [beq_false_of_ne hhead, Bool.and_false]
  rw [natural?, hspan]
  simp only [hfirst, Text.digitsValue_ofNat, Bool.false_eq_true, if_false]

theorem after?_sign (c : Char) (rest : Text) : Text.after? (c.toUInt8 :: rest) [c.toUInt8] = some rest := by
  rw [Text.after?, beq_self_eq_true, if_pos rfl]
  cases rest <;> rfl

/-- Digits have no sign in front. -/
theorem after?_ofNat (n : Nat) (rest : Text) : Text.after? (Text.ofNat n ++ rest) ['-'.toUInt8] = none := by
  have hdigits : ∀ c ∈ Text.ofNat n, Text.isDigit c = true := fun c hc => Text.isDigit_of_mem_ofNat hc
  match hn : Text.ofNat n, hdigits with
  | [], _ => exact absurd hn (Text.ofNat_ne_nil n)
  | c :: t, hdigits =>
    have hc : (c == '-') = false := by
      refine beq_false_of_ne ?_
      rintro rfl
      exact absurd (hdigits _ List.mem_cons_self) (by decide)
    rw [List.cons_append, Text.after?, hc]
    rfl

theorem number?_number (i : Int) (hrest : Stops rest) : number? (number i ++ rest) = some (i, rest) := by
  have hread := natural?_ofNat i.natAbs hrest
  rw [number?, number, Text.ofInt, show Text.ofString "-" = ['-'.toUInt8] by decide]
  rcases lt_or_ge i 0 with hneg | hpos
  · rw [if_pos hneg, List.cons_append, after?_sign]
    simp only [hread, Option.map_some, Option.some.injEq, Prod.mk.injEq, and_true]
    omega
  · rw [if_neg (by omega), after?_ofNat]
    simp only [hread, Option.map_some, Option.some.injEq, Prod.mk.injEq, and_true]
    omega

/-! ### Lists -/

section
variable {α : Type} {close : UInt8} {item : Text → Option (α × Text)} {ts : List Text} {xs : List α}

/-- A text is read as a thing, whatever follows that is no digit. -/
def ReadsAs (item : Text → Option (α × Text)) (t : Text) (x : α) : Prop :=
  ∀ rest, Stops rest → item (t ++ rest) = some (x, rest)

theorem join_cons_cons (t u : Text) (ts : List Text) :
    Text.join "," (t :: u :: ts) = t ++ ','.toUInt8 :: Text.join "," (u :: ts) := by
  rw [Text.join, List.intersperse_cons_cons, List.flatten_cons, List.flatten_cons]
  rfl

theorem join_singleton (t : Text) : Text.join "," [t] = t := by
  rw [Text.join, List.intersperse_singleton, List.flatten_singleton]

theorem more?_join (hclose : close ≠ ',' ∧ Text.isDigit close = false) {t : Text} {x : α} (ht : ReadsAs item t x)
    (hts : List.Forall₂ (ReadsAs item) ts xs) (fuel : Nat) (hfuel : ts.length < fuel) (rest : Text) :
    more? close item fuel (Text.join "," (t :: ts) ++ close :: rest) = some (x :: xs, rest) := by
  induction hts generalizing t x fuel with
  | nil =>
    obtain ⟨fuel, rfl⟩ : ∃ k, fuel = k + 1 := ⟨fuel - 1, by omega⟩
    rw [join_singleton, more?, ht (close :: rest) hclose.2]
    simp only [beq_self_eq_true, if_true]
  | @cons u y us ys hu hus ih =>
    obtain ⟨fuel, rfl⟩ : ∃ k, fuel = k + 1 := ⟨fuel - 1, by omega⟩
    have hnext := ih hu fuel (by simpa using hfuel)
    have hstops : Stops (','.toUInt8 :: (Text.join "," (u :: us) ++ close :: rest)) := rfl
    rw [join_cons_cons, List.append_assoc, more?, List.cons_append, ht _ hstops]
    simp only [beq_false_of_ne hclose.1.symm, hnext, beq_self_eq_true, Bool.false_eq_true, if_false, if_true,
      Option.map_some]

theorem length_le_join (ts : List Text) : ts.length ≤ (Text.join "," ts).length + 1 := by
  induction ts with
  | nil => exact Nat.zero_le _
  | cons t ts ih =>
    cases ts with
    | nil => simp
    | cons u ts =>
      rw [join_cons_cons]
      simp only [List.length_cons, List.length_append] at ih ⊢
      omega

theorem length_le_join_of_mem {t : Text} (h : t ∈ ts) : t.length ≤ (Text.join "," ts).length := by
  induction ts with
  | nil => cases h
  | cons u ts ih =>
    cases ts with
    | nil =>
      obtain rfl := List.mem_singleton.mp h
      rw [join_singleton]
    | cons v ts =>
      rw [join_cons_cons, List.length_append, List.length_cons]
      rcases List.mem_cons.mp h with rfl | h
      · omega
      · have := ih h
        omega

theorem exists_join_cons (t : Text) (ts : List Text) : ∃ tail, Text.join "," (t :: ts) = t ++ tail := by
  cases ts with
  | nil => exact ⟨[], by rw [join_singleton, List.append_nil]⟩
  | cons u ts => exact ⟨_, join_cons_cons t u ts⟩

/-- Things that are read one by one are read as a list, if no thing begins with the closing sign. -/
theorem items?_join (close : UInt8) (hclose : close ≠ ',' ∧ Text.isDigit close = false)
    (hnone : ∀ t, item (close :: t) = none) (hnil : item [] = none) (hts : List.Forall₂ (ReadsAs item) ts xs)
    (rest : Text) : items? close item (Text.join "," ts ++ close :: rest) = some (xs, rest) := by
  cases hts with
  | nil =>
    rw [show Text.join "," [] = [] from rfl, List.nil_append, items?, beq_self_eq_true, if_pos rfl]
  | @cons t x ts xs ht hts =>
    have hfuel : ts.length < (Text.join "," (t :: ts) ++ close :: rest).length := by
      have := length_le_join (t :: ts)
      simp only [List.length_cons, List.length_append] at this ⊢
      omega
    have hread := more?_join hclose ht hts _ hfuel rest
    obtain ⟨tail, htail⟩ := exists_join_cons t ts
    have hfirst := ht [] rfl
    rw [List.append_nil] at hfirst
    match t, hfirst with
    | [], hfirst => exact absurd (hnil.symm.trans hfirst) nofun
    | c :: t, hfirst =>
      have hopen : c ≠ close := by
        rintro rfl
        exact absurd ((hnone t).symm.trans hfirst) nofun
      rw [htail, List.cons_append, List.cons_append] at hread ⊢
      rw [items?, beq_false_of_ne hopen]
      exact hread

end

/-! ### Values -/

/-- A text is read as a value, whatever follows that is no digit. -/
def Reads (t : Text) (v : Value) : Prop := ∀ fuel, t.length ≤ fuel → ReadsAs (value? fuel) t v

theorem value?_nil (fuel : Nat) : value? fuel [] = none := by
  cases fuel <;> rfl

theorem value?_close (fuel : Nat) (t : Text) : value? fuel (']'.toUInt8 :: t) = none := by
  cases fuel <;> rfl

theorem reads_string (h : t.isWellFormed = true) : Reads (string t) (.string t) := by
  intro fuel hfuel rest _
  have hread := string?_string h rest
  rw [string_eq, List.length_cons] at hfuel
  obtain ⟨fuel, rfl⟩ : ∃ k, fuel = k + 1 := ⟨fuel - 1, by omega⟩
  rw [string_eq, List.cons_append] at hread ⊢
  rw [value?, beq_self_eq_true, if_pos rfl, hread]
  rfl

theorem value?_number {c : UInt8} (hc : c = '-' ∨ Text.isDigit c = true) (fuel : Nat) (t : Text) :
    value? (fuel + 1) (c :: t) = (number? (c :: t)).map fun (i, rest) => (.number i, rest) := by
  have hne : ∀ d : UInt8, (d = '-' ∨ Text.isDigit d = true) → d ≠ '"' ∧ d ≠ '[' ∧ d ≠ '\x7b' := by
    rintro d hd
    refine ⟨?_, ?_, ?_⟩ <;> rintro rfl <;> revert hd <;> decide
  obtain ⟨hquote, hbracket, hbrace⟩ := hne c hc
  rw [value?, beq_false_of_ne hquote, beq_false_of_ne hbracket, beq_false_of_ne hbrace]
  rfl

theorem reads_number (i : Int) : Reads (number i) (.number i) := by
  intro fuel hfuel rest hrest
  have hread := number?_number i hrest
  obtain ⟨c, t, hnumber, hc⟩ : ∃ c t, number i = c :: t ∧ (c = '-' ∨ Text.isDigit c = true) := by
    rw [number, Text.ofInt]
    split
    · exact ⟨_, _, rfl, .inl rfl⟩
    · obtain ⟨c, t, hdigits⟩ := List.exists_cons_of_ne_nil (Text.ofNat_ne_nil i.natAbs)
      exact ⟨c, t, hdigits, .inr (Text.isDigit_of_mem_ofNat (hdigits ▸ List.mem_cons_self))⟩
  obtain ⟨fuel, rfl⟩ : ∃ k, fuel = k + 1 := ⟨fuel - 1, by
    rw [hnumber, List.length_cons] at hfuel
    omega⟩
  rw [hnumber, List.cons_append] at hread ⊢
  rw [value?_number hc, hread]
  rfl

/-- What is read one by one within a text is read with as much fuel as the whole text has octets. -/
theorem forall₂_readsAs {β : Type} {R : Text → β → Prop} (item : Nat → Text → Option (β × Text)) {ts : List Text}
    {xs : List β} (h : List.Forall₂ R ts xs)
    (hitem : ∀ t x, R t x → ∀ fuel, t.length ≤ fuel → ReadsAs (item fuel) t x) {fuel : Nat}
    (hfuel : (Text.join "," ts).length ≤ fuel) : List.Forall₂ (ReadsAs (item fuel)) ts xs := by
  have hmem : ∀ t ∈ ts, t.length ≤ fuel := fun t ht => (length_le_join_of_mem ht).trans hfuel
  refine ((List.forall₂_and_left _ _).mpr ⟨hmem, h⟩).imp ?_
  rintro t x ⟨hlength, hx⟩
  exact hitem t x hx fuel hlength

theorem array_eq (ts : List Text) : array ts = '['.toUInt8 :: (Text.join "," ts ++ [']'.toUInt8]) := rfl

theorem reads_array {ts : List Text} {vs : List Value} (h : List.Forall₂ Reads ts vs) : Reads (array ts) (.list vs) := by
  intro fuel hfuel rest _
  rw [array_eq, List.length_cons, List.length_append] at hfuel
  obtain ⟨fuel, rfl⟩ : ∃ k, fuel = k + 1 := ⟨fuel - 1, by omega⟩
  have hitems : List.Forall₂ (ReadsAs (value? fuel)) ts vs := forall₂_readsAs value? h (fun _ _ hx => hx) (by omega)
  have hread := items?_join ']' ⟨by decide, by decide⟩ (value?_close fuel) (value?_nil fuel) hitems rest
  rw [array_eq, List.cons_append, List.append_assoc, value?, if_neg (by decide), beq_self_eq_true, if_pos rfl,
    List.singleton_append, hread]
  rfl

/-- A name and a value with a colon between them. -/
def memberText (f : Text × Text) : Text := string f.1 ++ ":" ++ f.2

/-- A name and a text for a value, as which it is read. -/
structure ReadsField (f : Text × Text) (g : Text × Value) : Prop where
  name : f.1 = g.1
  wellFormed : f.1.isWellFormed = true
  value : Reads f.2 g.2

theorem readsField_of_reads (name : Text) {value : Text} {v : Value} (hname : name.isAscii = true) (h : Reads value v) :
    ReadsField (name, value) (name, v) := ⟨rfl, Text.isWellFormed_of_isAscii hname, h⟩

theorem ReadsField.member {f : Text × Text} {g : Text × Value} (h : ReadsField f g) {fuel : Nat}
    (hfuel : (memberText f).length ≤ fuel) : ReadsAs (member? (value? fuel)) (memberText f) g := by
  intro rest hrest
  rw [memberText, List.length_append] at hfuel
  have hvalue := h.value fuel (by omega) rest hrest
  have hcolon := after?_sign ':' (f.2 ++ rest)
  rw [memberText, List.append_assoc, List.append_assoc, member?, string?_string h.wellFormed, Option.bind_eq_bind,
    Option.bind_some]
  simp only [show Text.ofString ":" = [':'.toUInt8] by decide, List.singleton_append, hcolon, hvalue, h.name,
    Option.bind_eq_bind, Option.bind_some]
  rfl

theorem object_eq (fs : List (Text × Text)) :
    object fs = '\x7b'.toUInt8 :: (Text.join "," (fs.map memberText) ++ ['\x7d'.toUInt8]) := rfl

theorem member?_of_string? {value : Text → Option (Value × Text)} (h : string? t = none) : member? value t = none := by
  rw [member?, h]
  rfl

theorem reads_object {fs : List (Text × Text)} {gs : List (Text × Value)} (h : List.Forall₂ ReadsField fs gs) :
    Reads (object fs) (.record gs) := by
  intro fuel hfuel rest _
  rw [object_eq, List.length_cons, List.length_append] at hfuel
  obtain ⟨fuel, rfl⟩ : ∃ k, fuel = k + 1 := ⟨fuel - 1, by omega⟩
  have hmembers : List.Forall₂ (fun t g => ∃ f, ReadsField f g ∧ t = memberText f) (fs.map memberText) gs :=
    List.forall₂_map_left_iff.mpr (h.imp fun f g hfg => ⟨f, hfg, rfl⟩)
  have hitems : List.Forall₂ (ReadsAs (member? (value? fuel))) (fs.map memberText) gs := by
    refine forall₂_readsAs (fun fuel => member? (value? fuel)) hmembers ?_ (by omega)
    rintro _ g ⟨f, hfg, rfl⟩ fuel hfuel
    exact hfg.member hfuel
  have hread := items?_join '\x7d' ⟨by decide, by decide⟩ (fun t => member?_of_string? rfl)
    (member?_of_string? rfl) hitems rest
  rw [object_eq, List.cons_append, List.append_assoc, value?, if_neg (by decide), if_neg (by decide),
    beq_self_eq_true, if_pos rfl, List.singleton_append, hread]
  rfl

theorem read?_of_reads {v : Value} (h : Reads t v) : read? t = some v := by
  have hread := h t.length le_rfl [] rfl
  rw [List.append_nil] at hread
  rw [read?, hread]

end Json

end Marginalia
