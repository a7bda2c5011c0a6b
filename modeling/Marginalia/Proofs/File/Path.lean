import Mathlib
import Marginalia.File.Path

/-!
What cleaning makes of a path. The components of a path are proper names behind some double dots, which only a path
without a root can have. Cleaning changes no components, and proper names joined to a path come behind its
components.
-/

namespace Marginalia

/-! ### Splitting and joining -/

namespace Text

variable {sep : UInt8}

theorem splitOn_ne_nil (sep : UInt8) (t : Text) : splitOn sep t ≠ [] := by
  fun_cases splitOn sep t <;> simp

theorem splitOn_of_not_mem {t : Text} (h : sep ∉ t) : splitOn sep t = [t] := by
  induction t with
  | nil => rfl
  | cons c t ih =>
    obtain ⟨hc, ht⟩ := not_or.mp (List.mem_cons.not.mp h)
    have hne : (c == sep) = false := beq_eq_false_iff_ne.mpr fun heq => hc heq.symm
    simp only [splitOn, hne, ih ht, Bool.false_eq_true, if_false]

theorem splitOn_append (sep : UInt8) (a b : Text) :
    splitOn sep (a ++ sep :: b) = splitOn sep a ++ splitOn sep b := by
  induction a with
  | nil => simp only [List.nil_append, splitOn, beq_self_eq_true, if_true, List.singleton_append]
  | cons c a ih =>
    simp only [List.cons_append, splitOn, ih]
    split
    · rfl
    · cases h : splitOn sep a with
      | nil => exact absurd h (splitOn_ne_nil sep a)
      | cons p ps => rfl

theorem splitOn_append_of_not_mem {a b p : Text} {ps : List Text} (h : sep ∉ a) (hb : splitOn sep b = p :: ps) :
    splitOn sep (a ++ b) = (a ++ p) :: ps := by
  induction a with
  | nil => exact hb
  | cons c a ih =>
    obtain ⟨hc, ha⟩ := not_or.mp (List.mem_cons.not.mp h)
    have hne : (c == sep) = false := beq_eq_false_iff_ne.mpr fun heq => hc heq.symm
    simp only [List.cons_append, splitOn, hne, ih ha, Bool.false_eq_true, if_false]

theorem not_mem_of_mem_splitOn {t p : Text} (h : p ∈ splitOn sep t) : sep ∉ p := by
  induction t generalizing p with
  | nil => simp only [splitOn, List.mem_singleton] at h; simp [h]
  | cons c t ih =>
    simp only [splitOn] at h
    split at h
    · rcases List.mem_cons.mp h with rfl | h
      · exact List.not_mem_nil
      · exact ih h
    · rename_i hc
      have hne : sep ≠ c := fun heq => hc (beq_iff_eq.mpr heq.symm)
      cases hsplit : splitOn sep t with
      | nil => exact absurd hsplit (splitOn_ne_nil sep t)
      | cons q qs =>
        simp only [hsplit, List.mem_cons] at h ih
        rcases h with rfl | h
        · exact List.mem_cons.not.mpr (not_or.mpr ⟨hne, ih (Or.inl rfl)⟩)
        · exact ih (Or.inr h)

@[simp] theorem join_nil (s : Text) : join s [] = [] := rfl

@[simp] theorem join_singleton (s t : Text) : join s [t] = t := List.append_nil t

theorem join_cons {s t : Text} {ts : List Text} (h : ts ≠ []) : join s (t :: ts) = t ++ s ++ join s ts := by
  cases ts with
  | nil => exact absurd rfl h
  | cons u us => simp [join]

theorem exists_join_cons (s t : Text) (ts : List Text) : ∃ rest, join s (t :: ts) = t ++ rest := by
  rcases eq_or_ne ts [] with rfl | hts
  · exact ⟨[], by rw [join_singleton, List.append_nil]⟩
  · exact ⟨s ++ join s ts, by rw [join_cons hts, List.append_assoc]⟩

theorem join_append {s : Text} {ts us : List Text} (ht : ts ≠ []) (hu : us ≠ []) :
    join s (ts ++ us) = join s ts ++ s ++ join s us := by
  induction ts with
  | nil => exact absurd rfl ht
  | cons t ts ih =>
    rcases eq_or_ne ts [] with rfl | hts
    · rw [List.singleton_append, join_cons hu, join_singleton]
    · rw [List.cons_append, join_cons (List.append_ne_nil_of_left_ne_nil hts us), ih hts, join_cons hts]
      simp only [List.append_assoc]

/-- Splitting undoes joining, part by part. -/
theorem splitOn_join {ts : List Text} (h : ts ≠ []) :
    splitOn sep (join [sep] ts) = ts.flatMap (splitOn sep) := by
  induction ts with
  | nil => exact absurd rfl h
  | cons t ts ih =>
    rcases eq_or_ne ts [] with rfl | hts
    · simp
    · rw [join_cons hts, List.append_assoc, List.singleton_append, splitOn_append, ih hts, List.flatMap_cons]

theorem splitOn_join_of_not_mem {ts : List Text} (h : ts ≠ []) (hsep : ∀ t ∈ ts, sep ∉ t) :
    splitOn sep (join [sep] ts) = ts := by
  rw [splitOn_join h]
  induction ts with
  | nil => exact absurd rfl h
  | cons t ts ih =>
    rw [List.flatMap_cons, splitOn_of_not_mem (hsep t List.mem_cons_self)]
    rcases eq_or_ne ts [] with rfl | hts
    · rfl
    · rw [ih hts fun u hu => hsep u (List.mem_cons_of_mem t hu)]
      rfl

/-- Joining undoes splitting. -/
theorem join_splitOn (sep : UInt8) (t : Text) : join [sep] (splitOn sep t) = t := by
  induction t with
  | nil => rfl
  | cons c t ih =>
    rw [splitOn]
    split
    · rename_i hc
      rw [join_cons (splitOn_ne_nil sep t), ih, ← beq_iff_eq.mp hc]
      rfl
    · cases hsplit : splitOn sep t with
      | nil => exact absurd hsplit (splitOn_ne_nil sep t)
      | cons p ps =>
        rw [hsplit] at ih
        simp only
        rcases eq_or_ne ps [] with rfl | hps
        · rw [join_singleton] at ih ⊢
          rw [ih]
        · rw [join_cons hps] at ih ⊢
          rw [List.cons_append, List.cons_append, ih]

theorem join_take_prefix (s : Text) (ts : List Text) (j : Nat) : join s (ts.take j) <+: join s ts := by
  rcases eq_or_ne (ts.take j) [] with htake | htake
  · rw [htake]
    exact List.nil_prefix
  rcases eq_or_ne (ts.drop j) [] with hdrop | hdrop
  · rw [List.take_of_length_le (List.drop_eq_nil_iff.mp hdrop)]
  · nth_rewrite 2 [← List.take_append_drop j ts]
    rw [join_append htake hdrop, List.append_assoc]
    exact List.prefix_append _ _

theorem mem_of_mem_splitOn {t p : Text} {c : UInt8} (h : p ∈ splitOn sep t) (hc : c ∈ p) : c ∈ t := by
  induction t generalizing p with
  | nil =>
    rw [splitOn, List.mem_singleton] at h
    rwa [h] at hc
  | cons d t ih =>
    rw [splitOn] at h
    split at h
    · rcases List.mem_cons.mp h with rfl | h
      · cases hc
      · exact List.mem_cons_of_mem d (ih h hc)
    · cases hsplit : splitOn sep t with
      | nil => exact absurd hsplit (splitOn_ne_nil sep t)
      | cons q qs =>
        simp only [hsplit, List.mem_cons] at h ih
        rcases h with rfl | h
        · exact List.mem_cons.mpr ((List.mem_cons.mp hc).imp_right fun hc => ih (Or.inl rfl) hc)
        · exact List.mem_cons_of_mem d (ih (Or.inr h) hc)

theorem mem_of_mem_join {s : Text} {ts : List Text} {c : UInt8} (h : c ∈ join s ts) : c ∈ s ∨ ∃ t ∈ ts, c ∈ t := by
  induction ts with
  | nil => cases h
  | cons t ts ih =>
    rcases eq_or_ne ts [] with rfl | hts
    · exact Or.inr ⟨t, List.mem_cons_self, by simpa using h⟩
    · rw [join_cons hts, List.mem_append, List.mem_append] at h
      rcases h with (h | h) | h
      · exact Or.inr ⟨t, List.mem_cons_self, h⟩
      · exact Or.inl h
      · exact (ih h).imp_right fun ⟨u, hu, hc⟩ => ⟨u, List.mem_cons_of_mem t hu, hc⟩

/-- How long texts are together, with one octet behind each. -/
def extent (ts : List Text) : Nat := (ts.map fun t => t.length + 1).sum

theorem extent_cons (t : Text) (ts : List Text) : extent (t :: ts) = t.length + 1 + extent ts := List.sum_cons

theorem extent_splitOn (sep : UInt8) (t : Text) : extent (splitOn sep t) = t.length + 1 := by
  induction t with
  | nil => rfl
  | cons c t ih =>
    rw [splitOn]
    split
    · rw [extent_cons, ih, List.length_cons, List.length_nil]
      omega
    · cases hsplit : splitOn sep t with
      | nil => exact absurd hsplit (splitOn_ne_nil sep t)
      | cons p ps =>
        rw [hsplit, extent_cons] at ih
        rw [extent_cons, List.length_cons, List.length_cons]
        omega

theorem length_join {ts : List Text} (h : ts ≠ []) : (join [sep] ts).length + 1 = extent ts := by
  induction ts with
  | nil => exact absurd rfl h
  | cons t ts ih =>
    rcases eq_or_ne ts [] with rfl | hts
    · simp [extent]
    · rw [join_cons hts, extent_cons, ← ih hts]
      simp
      omega

theorem cut?_of_not_mem {t : Text} (h : sep ∉ t) : cut? [sep] t = none := by
  induction t with
  | nil => rfl
  | cons c t ih =>
    obtain ⟨hc, ht⟩ := not_or.mp (List.mem_cons.not.mp h)
    simp [cut?, after?, Ne.symm hc, ih ht]

theorem cut?_append {a : Text} (h : sep ∉ a) (b : Text) : cut? [sep] (a ++ sep :: b) = some (a, b) := by
  induction a with
  | nil => simp [cut?, after?]
  | cons c a ih =>
    obtain ⟨hc, ha⟩ := not_or.mp (List.mem_cons.not.mp h)
    simp [cut?, after?, Ne.symm hc, ih ha]

theorem cutLast?_of_not_mem {t : Text} (h : sep ∉ t) : cutLast? [sep] t = none := by
  rw [cutLast?, List.reverse_singleton, cut?_of_not_mem (List.mem_reverse.not.mpr h)]
  rfl

theorem cutLast?_append (a : Text) {b : Text} (h : sep ∉ b) : cutLast? [sep] (a ++ sep :: b) = some (a, b) := by
  rw [cutLast?, List.reverse_singleton, List.reverse_append, List.reverse_cons, List.append_assoc,
    List.singleton_append, cut?_append (List.mem_reverse.not.mpr h)]
  simp

end Text

/-! ### Components -/

namespace Path

theorem slash_eq : Text.ofString "/" = [separator] := by decide

theorem isAbsolute_name_append {n : Text} (hne : n ≠ []) (hsep : separator ∉ n) (rest : Text) :
    isAbsolute (n ++ rest) = false := by
  obtain ⟨c, n, rfl⟩ := List.exists_cons_of_ne_nil hne
  have hc : c ≠ separator := fun heq => hsep (heq ▸ List.mem_cons_self)
  simp [isAbsolute, hc]

theorem push_stay {rooted : Bool} {n : Text} (h : n = [] ∨ n = ".") (done : List Text) : push rooted done n = done := by
  rcases h with rfl | rfl <;> rfl

theorem push_isName {rooted : Bool} {done : List Text} {n : Text} (h : IsName n) : push rooted done n = n :: done := by
  obtain ⟨hne, hdot, hdots, -⟩ := h
  simp [push, hne, hdot, hdots]

theorem push_up {n : Text} (h : n ≠ "..") (done : List Text) : push false (n :: done) ".." = done := by
  have hdots : Text.ofString ".." ≠ [] ∧ Text.ofString ".." ≠ Text.ofString "." := by decide
  simp [push, h, hdots]

theorem foldl_push_names {rooted : Bool} {names : List Text} (h : ∀ n ∈ names, IsName n) (done : List Text) :
    names.foldl (push rooted) done = names.reverse ++ done := by
  induction names generalizing done with
  | nil => rfl
  | cons n names ih =>
    rw [List.foldl_cons, push_isName (h n List.mem_cons_self), ih fun m hm => h m (List.mem_cons_of_mem n hm)]
    simp

/-- Cleaned components, latest first: names on top of double dots, which are not there below a root. -/
def Cleaned (rooted : Bool) (done : List Text) : Prop :=
  ∃ names k, done = names ++ List.replicate k (Text.ofString "..") ∧ (∀ n ∈ names, IsName n) ∧
    (rooted = true → k = 0)

theorem cleaned_push {rooted : Bool} {done : List Text} {n : Text} (h : Cleaned rooted done) (hn : separator ∉ n) :
    Cleaned rooted (push rooted done n) := by
  obtain ⟨names, k, rfl, hnames, hk⟩ := h
  unfold push
  split
  · exact ⟨names, k, rfl, hnames, hk⟩
  rename_i hstays
  simp only [Bool.or_eq_true, beq_iff_eq, not_or] at hstays
  split
  · rename_i hup
    obtain rfl := beq_iff_eq.mp hup
    -- Double dots take the name on top away; without one they stay, unless there is a root.
    cases names with
    | cons m names =>
      have hm : (m == Text.ofString "..") = false := beq_eq_false_iff_ne.mpr (hnames m List.mem_cons_self).2.2.1
      simp only [List.cons_append, hm, Bool.false_eq_true, if_false]
      exact ⟨names, k, rfl, fun x hx => hnames x (List.mem_cons_of_mem m hx), hk⟩
    | nil =>
      cases rooted with
      | true => rw [hk rfl]; exact ⟨[], 0, rfl, by simp, fun _ => rfl⟩
      | false =>
        refine ⟨[], k + 1, ?_, by simp, nofun⟩
        cases k <;> simp [List.replicate_succ]
  · rename_i hup
    refine ⟨n :: names, k, rfl, ?_, hk⟩
    intro m hm
    rcases List.mem_cons.mp hm with rfl | hm
    · exact ⟨hstays.1, hstays.2, fun heq => hup (beq_iff_eq.mpr heq), hn⟩
    · exact hnames m hm

theorem cleaned_foldl {rooted : Bool} {names done : List Text} (h : Cleaned rooted done)
    (hn : ∀ n ∈ names, separator ∉ n) : Cleaned rooted (names.foldl (push rooted) done) := by
  induction names generalizing done with
  | nil => exact h
  | cons n names ih =>
    exact ih (cleaned_push h (hn n List.mem_cons_self)) fun m hm => hn m (List.mem_cons_of_mem n hm)

theorem cleaned_components (p : Text) : Cleaned (isAbsolute p) (components p).reverse := by
  rw [components, List.reverse_reverse]
  exact cleaned_foldl ⟨[], 0, rfl, by simp, fun _ => rfl⟩ fun n hn => Text.not_mem_of_mem_splitOn hn

theorem push_dots (k : Nat) :
    push false (List.replicate k (Text.ofString "..")) ".." = List.replicate (k + 1) (Text.ofString "..") := by
  have hne : Text.ofString ".." ≠ [] ∧ Text.ofString ".." ≠ Text.ofString "." := by decide
  cases k <;> simp [push, hne, List.replicate_succ]

theorem foldl_push_dots (k j : Nat) :
    (List.replicate j (Text.ofString "..")).foldl (push false) (List.replicate k (Text.ofString "..")) =
      List.replicate (k + j) (Text.ofString "..") := by
  induction j generalizing k with
  | zero => rfl
  | succ j ih => rw [List.replicate_succ, List.foldl_cons, push_dots, ih, Nat.add_right_comm, Nat.add_assoc]

/-- Components that are clean stay as they are. -/
theorem foldl_push_cleaned {rooted : Bool} {done : List Text} (h : Cleaned rooted done) :
    done.reverse.foldl (push rooted) [] = done := by
  obtain ⟨names, k, rfl, hnames, hk⟩ := h
  have hdots : (List.replicate k (Text.ofString "..")).foldl (push rooted) [] =
      List.replicate k (Text.ofString "..") := by
    cases rooted with
    | true => rw [hk rfl]; rfl
    | false => simpa using foldl_push_dots 0 k
  rw [List.reverse_append, List.reverse_replicate, List.foldl_append, hdots,
    foldl_push_names fun n hn => hnames n (List.mem_reverse.mp hn), List.reverse_reverse]

/-! ### Names put behind names -/

theorem push_up_names {names : List Text} (h : ∀ n ∈ names, IsName n) :
    push true names.reverse ".." = names.dropLast.reverse := by
  have hdots : Text.ofString ".." ≠ [] ∧ Text.ofString ".." ≠ Text.ofString "." := by decide
  rcases List.eq_nil_or_concat names with rfl | ⟨init, last, rfl⟩
  · simp [push, hdots]
  · have hlast : last ≠ ".." := (h last (by simp)).2.2.1
    simp [push, hdots, hlast]

theorem isName_push {done : List Text} {n : Text} (h : ∀ m ∈ done, IsName m) (hn : separator ∉ n) :
    ∀ m ∈ push true done n, IsName m := by
  have hdone : Cleaned true done := ⟨done, 0, (List.append_nil done).symm, h, fun _ => rfl⟩
  obtain ⟨names, k, heq, hnames, hk⟩ := cleaned_push hdone hn
  rw [heq, hk rfl]
  simpa using hnames

theorem isName_foldl_push {names done : List Text} (h : ∀ m ∈ done, IsName m) (hn : ∀ n ∈ names, separator ∉ n) :
    ∀ m ∈ names.foldl (push true) done, IsName m := by
  induction names generalizing done with
  | nil => exact h
  | cons n names ih =>
    exact ih (isName_push h (hn n List.mem_cons_self)) fun m hm => hn m (List.mem_cons_of_mem n hm)

/-- A name that is cleaned away among others is cleaned away behind names as well. -/
theorem foldl_push_push {done acc : List Text} {n : Text} (hacc : Cleaned false acc) :
    (push false acc n).reverse.foldl (push true) done = push true (acc.reverse.foldl (push true) done) n := by
  obtain ⟨names, k, rfl, hnames, -⟩ := hacc
  by_cases hstay : n = [] ∨ n = "."
  · rw [push_stay hstay, push_stay hstay]
  obtain ⟨hne, hdot⟩ := not_or.mp hstay
  by_cases hup : n = ".."
  · subst hup
    cases names with
    | nil =>
      rw [List.nil_append, push_dots, List.reverse_replicate, List.reverse_replicate, List.replicate_succ',
        List.foldl_append]
      rfl
    | cons m names =>
      obtain ⟨hmne, hmdot, hmdots, hmsep⟩ := hnames m List.mem_cons_self
      have hdots : Text.ofString ".." ≠ [] ∧ Text.ofString ".." ≠ Text.ofString "." := by decide
      rw [List.cons_append, push_up hmdots, List.reverse_cons, List.foldl_append, List.foldl_cons, List.foldl_nil,
        push_isName ⟨hmne, hmdot, hmdots, hmsep⟩]
      simp [push, hdots, hmdots]
  · have hpush : push false (names ++ List.replicate k (Text.ofString "..")) n =
        n :: (names ++ List.replicate k (Text.ofString "..")) := by
      simp [push, hne, hdot, hup]
    rw [hpush, List.reverse_cons, List.foldl_append]
    rfl

theorem foldl_push_foldl {done acc names : List Text} (hacc : Cleaned false acc) (hn : ∀ n ∈ names, separator ∉ n) :
    (names.foldl (push false) acc).reverse.foldl (push true) done =
      names.foldl (push true) (acc.reverse.foldl (push true) done) := by
  induction names generalizing acc with
  | nil => rfl
  | cons n names ih =>
    rw [List.foldl_cons, ih (cleaned_push hacc (hn n List.mem_cons_self)) fun m hm => hn m (List.mem_cons_of_mem n hm),
      foldl_push_push hacc, List.foldl_cons]

/-- The components of a path lead from a place to where the path leads. -/
theorem foldl_push_components {p : Text} {done : List Text} (h : isAbsolute p = true → done = []) :
    (components p).foldl (push true) done = (Text.splitOn separator p).foldl (push true) done := by
  have hsep : ∀ n ∈ Text.splitOn separator p, separator ∉ n := fun n hn => Text.not_mem_of_mem_splitOn hn
  cases habs : isAbsolute p with
  | false =>
    have hempty : Cleaned false [] := ⟨[], 0, rfl, nofun, nofun⟩
    rw [components, habs, foldl_push_foldl hempty hsep]
    rfl
  | true =>
    have hnames : ∀ m ∈ (Text.splitOn separator p).foldl (push true) [], IsName m :=
      isName_foldl_push (fun _ hm => absurd hm List.not_mem_nil) hsep
    rw [h habs, components, habs, foldl_push_names fun n hn => hnames n (List.mem_reverse.mp hn)]
    simp

theorem ne_nil_of_mem_components {p n : Text} (h : n ∈ components p) : n ≠ [] ∧ separator ∉ n := by
  obtain ⟨names, k, heq, hnames, -⟩ := cleaned_components p
  have hmem : n ∈ names ++ List.replicate k (Text.ofString "..") := heq ▸ List.mem_reverse.mpr h
  rcases List.mem_append.mp hmem with hmem | hmem
  · exact ⟨(hnames n hmem).1, (hnames n hmem).2.2.2⟩
  · rw [List.eq_of_mem_replicate hmem]
    decide

/-- Components joined again: not empty, and without a root. -/
theorem join_components {p : Text} (h : components p ≠ []) :
    Text.join "/" (components p) ≠ [] ∧ isAbsolute (Text.join "/" (components p)) = false := by
  have hall := fun n => ne_nil_of_mem_components (p := p) (n := n)
  generalize components p = cs at h hall
  obtain ⟨n, cs, rfl⟩ := List.exists_cons_of_ne_nil h
  obtain ⟨hne, hsep⟩ := hall n List.mem_cons_self
  obtain ⟨rest, hrest⟩ := Text.exists_join_cons (Text.ofString "/") n cs
  rw [hrest]
  exact ⟨List.append_ne_nil_of_left_ne_nil hne rest, isAbsolute_name_append hne hsep rest⟩

theorem splitOn_join_components {p : Text} (h : components p ≠ []) :
    Text.splitOn separator (Text.join "/" (components p)) = components p := by
  rw [slash_eq]
  exact Text.splitOn_join_of_not_mem h fun n hn => (ne_nil_of_mem_components hn).2

theorem isAbsolute_append {p : Text} (h : p ≠ []) (q : Text) : isAbsolute (p ++ q) = isAbsolute p := by
  cases p with
  | nil => exact absurd rfl h
  | cons c p => rfl

theorem clean_of_nil {p : Text} (h : components p = []) :
    clean p = if isAbsolute p then Text.ofString "/" else Text.ofString "." := by
  simp [clean, h, slash_eq]

theorem clean_of_ne_nil {p : Text} (h : components p ≠ []) :
    clean p = if isAbsolute p then separator :: Text.join "/" (components p) else Text.join "/" (components p) := by
  simp [clean, (join_components h).1]

theorem isAbsolute_clean (p : Text) : isAbsolute (clean p) = isAbsolute p := by
  rcases eq_or_ne (components p) [] with hnil | hne
  · rw [clean_of_nil hnil]
    cases isAbsolute p <;> decide
  · rw [clean_of_ne_nil hne]
    cases isAbsolute p
    · exact (join_components hne).2
    · rfl

theorem clean_ne_nil (p : Text) : clean p ≠ [] := by
  rcases eq_or_ne (components p) [] with hnil | hne
  · rw [clean_of_nil hnil]
    cases isAbsolute p <;> decide
  · rw [clean_of_ne_nil hne]
    split
    · exact List.cons_ne_nil _ _
    · exact (join_components hne).1

/-- Cleaning changes no components. -/
theorem components_clean (p : Text) : components (clean p) = components p := by
  rcases eq_or_ne (components p) [] with hnil | hne
  · rw [clean_of_nil hnil, hnil]
    split <;> decide
  · have hclean := foldl_push_cleaned (cleaned_components p)
    rw [List.reverse_reverse] at hclean
    rw [clean_of_ne_nil hne]
    split
    · -- Below a root the split path begins with an empty name, which is skipped.
      rename_i habs
      rw [habs] at hclean
      have hsplit : Text.splitOn separator (separator :: Text.join "/" (components p)) = [] :: components p := by
        rw [Text.splitOn, splitOn_join_components hne, if_pos (beq_self_eq_true _)]
      have hskip : push true [] [] = [] := rfl
      have hroot : isAbsolute (separator :: Text.join "/" (components p)) = true := rfl
      rw [components, hroot, hsplit, List.foldl_cons, hskip, hclean, List.reverse_reverse]
    · rename_i habs
      rw [components, (join_components hne).2, splitOn_join_components hne, ← Bool.eq_false_of_not_eq_true habs,
        hclean, List.reverse_reverse]

theorem clean_clean (p : Text) : clean (clean p) = clean p := by
  rw [clean, components_clean, isAbsolute_clean, clean]

/-- A clean path is told by its components. -/
theorem eq_of_components {p q : Text} (hp : clean p = p) (hq : clean q = q) (habs : isAbsolute p = isAbsolute q)
    (h : components p = components q) : p = q := by
  rw [← hp, ← hq, clean, clean, h, habs]

/-- Names joined to a path, before cleaning. -/
theorem join_eq_clean {p : Text} {names : List Text} (h : names ≠ []) (hnames : ∀ n ∈ names, n ≠ []) :
    join (p :: names) =
      clean (if p = [] then Text.join "/" names else p ++ separator :: Text.join "/" names) := by
  have hfilter : names.filter (!·.isEmpty) = names :=
    List.filter_eq_self.mpr fun n hn => by simp [hnames n hn]
  obtain ⟨m, ms, rfl⟩ := List.exists_cons_of_ne_nil h
  rcases eq_or_ne p [] with rfl | hp
  · rw [join, List.filter_cons_of_neg (by simp), hfilter, if_pos rfl]
  · rw [join, List.filter_cons_of_pos (by simp [hp]), hfilter, if_neg hp]
    simp [Text.join_cons, slash_eq]

theorem clean_join {p : Text} {names : List Text} (h : names ≠ []) (hnames : ∀ n ∈ names, n ≠ []) :
    clean (join (p :: names)) = join (p :: names) := by
  rw [join_eq_clean h hnames, clean_clean]

/-- Names joined to a path come behind its components. -/
theorem components_join {p : Text} {names : List Text} (h : names ≠ []) (hnames : ∀ n ∈ names, IsName n) :
    components (join (p :: names)) = components p ++ names := by
  have hsplit : Text.splitOn separator (Text.join "/" names) = names := by
    rw [slash_eq]
    exact Text.splitOn_join_of_not_mem h fun n hn => (hnames n hn).2.2.2
  rw [join_eq_clean h fun n hn => (hnames n hn).1, components_clean]
  split
  · rename_i hp
    have hnil : components p = [] := hp ▸ rfl
    rw [components, hsplit, foldl_push_names hnames, hnil]
    simp
  · rename_i hp
    rw [components, Text.splitOn_append, List.foldl_append, hsplit, foldl_push_names hnames, isAbsolute_append hp,
      components]
    simp

/-! ### What a clean path holds -/

theorem push_subset {rooted : Bool} {done : List Text} {n m : Text} (h : m ∈ push rooted done n) :
    m = n ∨ m ∈ done := by
  unfold push at h
  split at h
  · exact Or.inr h
  split at h
  · split at h
    · split at h
      · cases h
      · exact Or.inl (List.mem_singleton.mp h)
    · split at h
      · exact List.mem_cons.mp h
      · exact Or.inr (List.mem_cons_of_mem _ h)
  · exact List.mem_cons.mp h

theorem foldl_push_subset {rooted : Bool} {names done : List Text} {m : Text}
    (h : m ∈ names.foldl (push rooted) done) : m ∈ names ∨ m ∈ done := by
  induction names generalizing done with
  | nil => exact Or.inr h
  | cons n names ih =>
    rcases ih h with hm | hm
    · exact Or.inl (List.mem_cons_of_mem n hm)
    · rcases push_subset hm with rfl | hm
      · exact Or.inl List.mem_cons_self
      · exact Or.inr hm

theorem mem_splitOn_of_mem_components {p n : Text} (h : n ∈ components p) : n ∈ Text.splitOn separator p :=
  (foldl_push_subset (List.mem_reverse.mp h)).resolve_right List.not_mem_nil

theorem extent_push_le (rooted : Bool) (done : List Text) (n : Text) :
    Text.extent (push rooted done n) ≤ Text.extent done + (n.length + 1) := by
  unfold push
  split
  · omega
  split
  · split
    · split <;> simp [Text.extent]
    · split <;> simp only [Text.extent_cons] <;> omega
  · rw [Text.extent_cons]
    omega

theorem extent_foldl_push_le (rooted : Bool) (names done : List Text) :
    Text.extent (names.foldl (push rooted) done) ≤ Text.extent done + Text.extent names := by
  induction names generalizing done with
  | nil => exact Nat.le_add_right _ _
  | cons n names ih =>
    have hn := extent_push_le rooted done n
    have hnames := ih (push rooted done n)
    rw [List.foldl_cons, Text.extent_cons]
    omega

/-- Components are together no longer than their path; what stands before a root counts for nothing. -/
theorem extent_components_le (p : Text) :
    Text.extent (components p) + (if isAbsolute p then 1 else 0) ≤ p.length + 1 := by
  have hreverse : Text.extent (components p) =
      Text.extent ((Text.splitOn separator p).foldl (push (isAbsolute p)) []) := by
    rw [components, Text.extent, List.map_reverse, List.sum_reverse, Text.extent]
  have hnil : Text.extent [] = 0 := rfl
  rw [hreverse]
  cases habs : isAbsolute p with
  | false =>
    have h := extent_foldl_push_le false (Text.splitOn separator p) []
    rw [Text.extent_splitOn] at h
    simpa [hnil] using h
  | true =>
    obtain ⟨rest, rfl⟩ := List.head?_eq_some_iff.mp (beq_iff_eq.mp habs)
    have h := extent_foldl_push_le true (Text.splitOn separator rest) []
    rw [Text.extent_splitOn] at h
    have hskip : push true [] [] = [] := rfl
    rw [Text.splitOn, if_pos (beq_self_eq_true _), List.foldl_cons, List.length_cons, hskip]
    simpa [hnil] using h

theorem length_clean_le {p : Text} (hp : p ≠ []) : (clean p).length ≤ p.length := by
  rcases eq_or_ne (components p) [] with hnil | hne
  · have hone : (clean p).length = 1 := by
      rw [clean_of_nil hnil]
      cases isAbsolute p <;> rfl
    exact hone.trans_le (List.length_pos_of_ne_nil hp)
  · have hjoin : (Text.join "/" (components p)).length + 1 = Text.extent (components p) := by
      rw [slash_eq]
      exact Text.length_join hne
    have hextent := extent_components_le p
    rw [clean_of_ne_nil hne]
    cases habs : isAbsolute p with
    | false =>
      rw [habs, if_neg Bool.false_ne_true] at hextent
      simp only [Bool.false_eq_true, if_false]
      omega
    | true =>
      rw [habs, if_pos rfl] at hextent
      simp only [if_true, List.length_cons]
      omega

theorem mem_of_mem_clean {p : Text} {c : UInt8} (h : c ∈ clean p) : c ∈ p ∨ c = separator ∨ c = '.' := by
  rcases eq_or_ne (components p) [] with hnil | hne
  · rw [clean_of_nil hnil] at h
    split at h
    · rw [slash_eq] at h
      exact Or.inr (Or.inl (List.mem_singleton.mp h))
    · exact Or.inr (Or.inr (List.mem_singleton.mp h))
  · have hjoin : c ∈ Text.join "/" (components p) → c ∈ p ∨ c = separator ∨ c = '.' := by
      intro hc
      rcases Text.mem_of_mem_join hc with hc | ⟨n, hn, hc⟩
      · rw [slash_eq] at hc
        exact Or.inr (Or.inl (List.mem_singleton.mp hc))
      · exact Or.inl (Text.mem_of_mem_splitOn (mem_splitOn_of_mem_components hn) hc)
    rw [clean_of_ne_nil hne] at h
    split at h
    · exact (List.mem_cons.mp h).elim (fun hc => Or.inr (Or.inl hc)) hjoin
    · exact hjoin h

/-! ### Names below a path -/

/-- What stands before the names below a path. -/
def lead (p : Text) : Text :=
  if components p = [] then (if isAbsolute p then [separator] else []) else clean p ++ [separator]

theorem join_name {p n : Text} (hn : IsName n) : join [p, n] = lead p ++ n := by
  have hnames : ∀ m ∈ [n], IsName m := List.forall_mem_singleton.mpr hn
  have hcomponents := components_join (p := p) (List.cons_ne_nil n []) hnames
  have hclean := clean_join (p := p) (List.cons_ne_nil n []) (List.forall_mem_singleton.mpr hn.1)
  have habs : isAbsolute (join [p, n]) = isAbsolute p := by
    rw [join_eq_clean (List.cons_ne_nil n []) (List.forall_mem_singleton.mpr hn.1), isAbsolute_clean,
      Text.join_singleton]
    split
    · rename_i hp
      rw [hp, ← List.append_nil n, isAbsolute_name_append hn.1 hn.2.2.2]
      rfl
    · rename_i hp
      exact isAbsolute_append hp _
  rw [← hclean, clean_of_ne_nil (by simp [hcomponents]), hcomponents, habs, lead]
  rcases eq_or_ne (components p) [] with hnil | hne
  · rw [if_pos hnil, hnil, List.nil_append, Text.join_singleton]
    cases isAbsolute p <;> rfl
  · rw [if_neg hne, clean_of_ne_nil hne, Text.join_append hne (List.cons_ne_nil n []), Text.join_singleton, slash_eq]
    cases isAbsolute p <;> simp

theorem isAbsolute_join {p : Text} {names : List Text} (hp : p ≠ []) (h : names ≠ []) (hnames : ∀ n ∈ names, n ≠ []) :
    isAbsolute (join (p :: names)) = isAbsolute p := by
  rw [join_eq_clean h hnames, isAbsolute_clean, if_neg hp, isAbsolute_append hp]

end Path

end Marginalia
