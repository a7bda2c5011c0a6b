import Mathlib
import Marginalia.RenderCache

/-!
What a cache of renderings holds, told from its whole history. A source is touched when it is set, and when it is asked
for and found. The cache holds the sources touched last, as many as it has room for: a source is found if it has been
set and fewer others than there is room for were touched since it was touched itself, and what is found is what it was
set to last.
-/

namespace Marginalia.RenderCache

/-- A call of a cache. -/
inductive Access where
  | set (source out : Text)
  | get (source : Text)
deriving DecidableEq, Repr

namespace Access

def source : Access → Text
  | .set source _ => source
  | .get source => source

/-- The source that a call touches, from the call and its answer. -/
def touched? : Access × Option Text → Option Text
  | (.set source _, _) => some source
  | (.get source, some _) => some source
  | (.get _, none) => none

/-- What a source was set to last; the latest call comes first. -/
def lastSet? (source : Text) : List Access → Option Text
  | [] => none
  | .set s out :: older => if s = source then some out else lastSet? source older
  | .get _ :: older => lastSet? source older

end Access

/-- What a call answers, and the cache behind it. -/
def answer (c : RenderCache) : Access → Option Text × RenderCache
  | .set source out => (none, c.store source out)
  | .get source => c.lookup source

/-- A cache with all that has happened to it: the calls with their answers, the latest first. -/
structure Chronicle where
  cache : RenderCache
  past : List (Access × Option Text) := []

namespace Chronicle

def next (h : Chronicle) (call : Access) : Chronicle :=
  ⟨(h.cache.answer call).2, (call, (h.cache.answer call).1) :: h.past⟩

/-- A cache of some size after calls in order. -/
def after (size : Int) (calls : List Access) : Chronicle := calls.foldl next ⟨ofSize size, []⟩

/-- The calls, the latest first. -/
def calls (h : Chronicle) : List Access := h.past.map Prod.fst

/-- The sources touched, the latest first. -/
def touches (h : Chronicle) : List Text := h.past.filterMap Access.touched?

/-- The touches since a source was touched last, all of other sources. -/
def touchedSince (h : Chronicle) (source : Text) : List Text := h.touches.takeWhile (· != source)

end Chronicle

/-! ### Each source at its latest place -/

/-- Each text of a list once, where it stands first. -/
def firsts : List Text → List Text
  | [] => []
  | s :: older => s :: (firsts older).filter (· != s)

theorem mem_firsts {s : Text} {l : List Text} : s ∈ firsts l ↔ s ∈ l := by
  induction l with
  | nil => exact Iff.rfl
  | cons a l ih =>
    by_cases h : s = a
    · simp [firsts, h]
    · simp [firsts, ih, h]

theorem nodup_firsts (l : List Text) : (firsts l).Nodup := by
  induction l with
  | nil => exact List.nodup_nil
  | cons a l ih => exact List.nodup_cons.mpr ⟨by simp, ih.filter _⟩

/-- Another source is no end of the touches since a source. -/
theorem takeWhile_firsts (s : Text) (l : List Text) :
    (firsts l).takeWhile (· != s) = firsts (l.takeWhile (· != s)) := by
  induction l with
  | nil => rfl
  | cons a l ih =>
    by_cases h : a = s
    · simp [firsts, h]
    have hfilter : ((firsts l).filter (· != a)).takeWhile (· != s) = ((firsts l).takeWhile (· != s)).filter (· != a) := by
      rw [List.takeWhile_filter]
      congr 2
      funext x
      by_cases hx : x = a
      · simp [hx, h]
      · simp [hx]
    rw [firsts, List.takeWhile_cons_of_pos (by simpa using h), hfilter, ih,
      List.takeWhile_cons_of_pos (by simpa using h), firsts]

theorem length_firsts (l : List Text) : (firsts l).length = l.toFinset.card := by
  rw [← List.toFinset_card_of_nodup (nodup_firsts l)]
  congr 1
  ext s
  simp [mem_firsts]

theorem mem_take_iff {l : List Text} (hl : l.Nodup) {s : Text} {n : Nat} :
    s ∈ l.take n ↔ s ∈ l ∧ (l.takeWhile (· != s)).length < n := by
  induction l generalizing n with
  | nil => simp
  | cons a l ih =>
    obtain ⟨ha, hl⟩ := List.nodup_cons.mp hl
    cases n with
    | zero => simp
    | succ n =>
      by_cases h : s = a
      · simp [h]
      · rw [List.take_succ_cons, List.mem_cons, List.mem_cons, ih hl,
          List.takeWhile_cons_of_pos (by simpa using Ne.symm h), List.length_cons, Nat.add_lt_add_iff_right]
        simp [h]

/-- Where a source moves to the front, it does not matter whether the others are counted off before. -/
theorem take_filter_take {l : List Text} (hl : l.Nodup) (s : Text) (n : Nat) :
    (s :: (l.take n).filter (· != s)).take n = (s :: l.filter (· != s)).take n := by
  cases n with
  | zero => rfl
  | succ n =>
    rw [List.take_succ_cons, List.take_succ_cons]
    congr 1
    induction l generalizing n with
    | nil => rfl
    | cons a l ih =>
      obtain ⟨ha, hl⟩ := List.nodup_cons.mp hl
      by_cases h : a = s
      · subst h
        have hall : l.filter (· != a) = l := List.filter_eq_self.mpr fun x hx => by
          simpa using fun heq : x = a => ha (heq ▸ hx)
        have htake : (l.take n).filter (· != a) = l.take n := List.filter_eq_self.mpr fun x hx => by
          simpa using fun heq : x = a => ha (heq ▸ List.mem_of_mem_take hx)
        rw [List.take_succ_cons, List.filter_cons_of_neg (by simp), List.filter_cons_of_neg (by simp), hall, htake,
          List.take_take, Nat.min_self]
      · rw [List.take_succ_cons, List.filter_cons_of_pos (by simpa using h),
          List.filter_cons_of_pos (by simpa using h)]
        cases n with
        | zero => rfl
        | succ n => rw [List.take_succ_cons, List.take_succ_cons, ih hl]

/-! ### What the cache holds -/

/-- An entry that is found leaves one entry less. -/
theorem length_others_lt {entries : List (Digest × Text)} {k : Digest} {found : Digest × Text}
    (h : entries.find? (·.1 == k) = some found) : (entries.filter (!·.1 == k)).length < entries.length :=
  List.length_filter_lt_length_iff_exists.mpr
    ⟨found, List.mem_of_find?_eq_some h, by simpa using List.find?_some h⟩

section Entries

variable {sources : Set Text} {l : List Text} {f : Text → Text} {source : Text}

/-- The entry of a source. -/
def entry (f : Text → Text) (source : Text) : Digest × Text := (Digest.sha256 source, f source)

theorem find?_entries (hdigest : sources.InjOn Digest.sha256) (hl : ∀ s ∈ l, s ∈ sources) (hsource : source ∈ sources) :
    (l.map (entry f)).find? (·.1 == Digest.sha256 source) = if source ∈ l then some (entry f source) else none := by
  induction l with
  | nil => rfl
  | cons a l ih =>
    obtain ⟨ha, hl⟩ := List.forall_mem_cons.mp hl
    by_cases h : a = source
    · simp [entry, h]
    · have hne : ¬Digest.sha256 a = Digest.sha256 source := fun heq => h (hdigest ha hsource heq)
      rw [List.map_cons, List.find?_cons_of_neg (by simpa [entry] using hne), ih hl]
      simp [Ne.symm h]

theorem filter_entries (hdigest : sources.InjOn Digest.sha256) (hl : ∀ s ∈ l, s ∈ sources) (hsource : source ∈ sources) :
    (l.map (entry f)).filter (!·.1 == Digest.sha256 source) = (l.filter (· != source)).map (entry f) := by
  rw [List.filter_map]
  congr 1
  refine List.filter_congr fun s hs => ?_
  have hiff : Digest.sha256 s = Digest.sha256 source ↔ s = source := hdigest.eq_iff (hl s hs) hsource
  show (!Digest.sha256 s == Digest.sha256 source) = (s != source)
  rw [bne, Bool.not_inj_iff, Bool.eq_iff_iff, beq_iff_eq, beq_iff_eq, hiff]

end Entries

namespace Chronicle

variable {sources : Set Text} {c : Chronicle} {capacity : Nat} {source : Text}

/-- What a source was set to last; a source that was never set has no entry. -/
def value (h : Chronicle) (source : Text) : Text := (Access.lastSet? source h.calls).getD []

/-- The cache holds the sources touched last, each with what it was set to last. -/
structure Holds (h : Chronicle) (sources : Set Text) (capacity : Nat) : Prop where
  capacity_eq : h.cache.capacity = capacity
  entries_eq : h.cache.entries = ((firsts h.touches).take capacity).map (entry h.value)
  set : ∀ s ∈ h.touches, (Access.lastSet? s h.calls).isSome
  mem : ∀ s ∈ h.touches, s ∈ sources

namespace Holds

theorem start (sources : Set Text) (size : Int) :
    Holds ⟨ofSize size, []⟩ sources (if size ≤ 0 then defaultCapacity else size.toNat) :=
  ⟨rfl, by simp [ofSize, Recent.empty, touches, firsts], nofun, nofun⟩

theorem mem_kept (h : Holds c sources capacity) {s : Text} (hs : s ∈ (firsts c.touches).take capacity) : s ∈ sources :=
  h.mem s (mem_firsts.mp (List.mem_of_mem_take hs))

theorem length_le (h : Holds c sources capacity) : c.cache.entries.length ≤ capacity := by
  rw [h.entries_eq, List.length_map, List.length_take]
  exact Nat.min_le_left _ _

/-- What is found for a source, and that it is found if it is among the sources touched last. -/
theorem find? (h : Holds c sources capacity) (hdigest : sources.InjOn Digest.sha256) (hsource : source ∈ sources) :
    c.cache.entries.find? (·.1 == Digest.sha256 source) =
      if source ∈ (firsts c.touches).take capacity then some (entry c.value source) else none := by
  rw [h.entries_eq, find?_entries hdigest (fun _ => h.mem_kept) hsource]

/-- A source that is touched moves to the front, and the last one goes if there are too many. -/
theorem moved (h : Holds c sources capacity) (hdigest : sources.InjOn Digest.sha256) (hsource : source ∈ sources)
    {f : Text → Text} (hf : ∀ s, s ≠ source → f s = c.value s) :
    (entry f source :: c.cache.entries.filter (!·.1 == Digest.sha256 source)).take capacity =
      ((firsts (source :: c.touches)).take capacity).map (entry f) := by
  have hothers : (((firsts c.touches).take capacity).filter (· != source)).map (entry c.value) =
      (((firsts c.touches).take capacity).filter (· != source)).map (entry f) := by
    refine List.map_congr_left fun s hs => ?_
    have hne : s ≠ source := by simpa using (List.mem_filter.mp hs).2
    rw [entry, entry, hf s hne]
  rw [h.entries_eq, filter_entries hdigest (fun _ => h.mem_kept) hsource, hothers, ← List.map_cons, ← List.map_take,
    take_filter_take (nodup_firsts _)]
  rfl

theorem set_next (h : Holds c sources capacity) (hdigest : sources.InjOn Digest.sha256) (hsource : source ∈ sources)
    (out : Text) : Holds (c.next (.set source out)) sources capacity := by
  have htouches : (c.next (.set source out)).touches = source :: c.touches := rfl
  have hlast (s : Text) : Access.lastSet? s (c.next (.set source out)).calls =
      if source = s then some out else Access.lastSet? s c.calls := rfl
  refine ⟨h.capacity_eq, ?_, fun s hs => ?_, ?_⟩
  · have hvalue : (c.next (.set source out)).value source = out := by rw [value, hlast, if_pos rfl]; rfl
    have hmoved := h.moved hdigest hsource (f := (c.next (.set source out)).value) fun s hs => by
      rw [value, hlast, if_neg (Ne.symm hs), value]
    rw [entry, hvalue] at hmoved
    rw [htouches, ← hmoved]
    show List.take c.cache.capacity _ = _
    rw [h.capacity_eq]
  · rw [hlast]
    split
    · rfl
    · rename_i hne
      rw [htouches] at hs
      exact h.set s ((List.mem_cons.mp hs).resolve_left (Ne.symm hne))
  · rw [htouches]
    exact List.forall_mem_cons.mpr ⟨hsource, h.mem⟩

theorem get_next (h : Holds c sources capacity) (hdigest : sources.InjOn Digest.sha256) (hsource : source ∈ sources) :
    Holds (c.next (.get source)) sources capacity := by
  have hvalue : (c.next (.get source)).value = c.value := rfl
  have hfind := h.find? hdigest hsource
  by_cases hkept : source ∈ (firsts c.touches).take capacity
  · rw [if_pos hkept] at hfind
    have hlook : c.cache.answer (.get source) = (some (c.value source), { c.cache with
        entries := entry c.value source :: c.cache.entries.filter (!·.1 == Digest.sha256 source) }) := by
      simp only [answer, lookup, Recent.get, hfind]
      rfl
    have htouches : (c.next (.get source)).touches = source :: c.touches := by
      simp only [next, touches, hlook, List.filterMap_cons, Access.touched?]
    have hknown : source ∈ c.touches := mem_firsts.mp (List.mem_of_mem_take hkept)
    refine ⟨?_, ?_, ?_, ?_⟩
    · simp only [next, hlook, h.capacity_eq]
    · have hlength : (entry c.value source :: c.cache.entries.filter (!·.1 == Digest.sha256 source)).length ≤ capacity :=
        (length_others_lt hfind).trans_le h.length_le
      rw [htouches, hvalue, ← h.moved hdigest hsource fun _ _ => rfl, List.take_of_length_le hlength]
      simp only [next, hlook]
    · rw [htouches]
      exact List.forall_mem_cons.mpr ⟨h.set source hknown, h.set⟩
    · rw [htouches]
      exact List.forall_mem_cons.mpr ⟨hsource, h.mem⟩
  · rw [if_neg hkept] at hfind
    have hlook : c.cache.answer (.get source) = (none, c.cache) := by
      simp only [answer, lookup, Recent.get, hfind]
    have htouches : (c.next (.get source)).touches = c.touches := by
      simp only [next, touches, hlook, List.filterMap_cons, Access.touched?]
    refine ⟨?_, ?_, ?_, ?_⟩
    · simp only [next, hlook, h.capacity_eq]
    · rw [htouches, hvalue, ← h.entries_eq]
      simp only [next, hlook]
    · rw [htouches]
      exact h.set
    · rw [htouches]
      exact h.mem

theorem next (h : Holds c sources capacity) (hdigest : sources.InjOn Digest.sha256) {call : Access}
    (hsource : call.source ∈ sources) : Holds (c.next call) sources capacity := by
  cases call with
  | set source out => exact h.set_next hdigest hsource out
  | get source => exact h.get_next hdigest hsource

theorem run (h : Holds c sources capacity) (hdigest : sources.InjOn Digest.sha256) {calls : List Access}
    (hcalls : ∀ call ∈ calls, call.source ∈ sources) : Holds (calls.foldl Chronicle.next c) sources capacity := by
  induction calls generalizing c with
  | nil => exact h
  | cons call calls ih =>
    obtain ⟨hcall, hcalls⟩ := List.forall_mem_cons.mp hcalls
    exact ih (h.next hdigest hcall) hcalls

/-- A source is among those touched last if fewer others than there is room for were touched since. -/
theorem mem_kept_iff : source ∈ (firsts c.touches).take capacity ↔
    source ∈ c.touches ∧ (c.touchedSince source).toFinset.card < capacity := by
  rw [mem_take_iff (nodup_firsts _), mem_firsts, takeWhile_firsts, length_firsts, touchedSince]

end Holds

theorem calls_foldl (c : Chronicle) (calls : List Access) :
    (calls.foldl next c).calls = calls.reverse ++ c.calls := by
  induction calls generalizing c with
  | nil => rfl
  | cons call calls ih =>
    rw [List.foldl_cons, ih, List.reverse_cons, List.append_assoc]
    rfl

theorem calls_after (size : Int) (calls : List Access) : (after size calls).calls = calls.reverse := by
  rw [after, calls_foldl]
  exact List.append_nil _

end Chronicle

theorem Access.lastSet?_isSome_iff {source : Text} {calls : List Access} :
    (lastSet? source calls).isSome ↔ ∃ out, .set source out ∈ calls := by
  induction calls with
  | nil => simp [lastSet?]
  | cons call older ih =>
    cases call with
    | get s => simp [lastSet?, ih]
    | set s out =>
      by_cases h : s = source
      · simp [lastSet?, h]
      · simp [lastSet?, ih, h, Ne.symm h]

/-- A source that was set has been touched. -/
theorem Chronicle.mem_touches {c : Chronicle} {source out : Text} (h : .set source out ∈ c.calls) :
    source ∈ c.touches := by
  obtain ⟨⟨call, given⟩, hmem, rfl⟩ := List.mem_map.mp h
  exact List.mem_filterMap.mpr ⟨_, hmem, rfl⟩

/-! ### Room -/

/-- A cache has no more entries than it has room for. -/
def Chronicle.Fits (c : Chronicle) (capacity : Nat) : Prop :=
  c.cache.capacity = capacity ∧ c.cache.size ≤ capacity

namespace Chronicle.Fits

variable {c : Chronicle} {capacity : Nat}

theorem next (h : c.Fits capacity) (call : Access) : (c.next call).Fits capacity := by
  obtain ⟨rfl, hsize⟩ := h
  cases call with
  | set source out => exact ⟨rfl, List.length_take_le _ _⟩
  | get source =>
    show ((c.cache.lookup source).2).capacity = _ ∧ ((c.cache.lookup source).2).size ≤ _
    unfold lookup Recent.get
    split
    · rename_i found hfound
      exact ⟨rfl, (length_others_lt hfound).trans_le hsize⟩
    · exact ⟨rfl, hsize⟩

theorem run (h : c.Fits capacity) (calls : List Access) : (calls.foldl Chronicle.next c).Fits capacity := by
  induction calls generalizing c with
  | nil => exact h
  | cons call calls ih => exact ih (h.next call)

end Chronicle.Fits

/-! ### Every history -/

/-- Whatever is set and asked for, a cache never has more entries than room. A source is found if it has been set and
fewer others than there is room for were touched since it was touched last, and what is found is what it was set to
last, unless two sources of the history have the same digest. -/
theorem holds_recent (size : Int) (calls : List Access) :
    let capacity := if size ≤ 0 then 500 else size.toNat
    let c := Chronicle.after size calls
    c.cache.size ≤ capacity ∧
    ∀ source, {s | s = source ∨ s ∈ calls.map Access.source}.InjOn Digest.sha256 →
      ((c.cache.lookup source).1.isSome ↔
        (∃ out, .set source out ∈ calls) ∧ (c.touchedSince source).toFinset.card < capacity) ∧
      ∀ out, (c.cache.lookup source).1 = some out → Access.lastSet? source calls.reverse = some out := by
  intro capacity c
  have hfits : c.Fits capacity := Chronicle.Fits.run ⟨rfl, Nat.zero_le _⟩ calls
  refine ⟨hfits.2, fun source hdigest => ?_⟩
  have hholds : c.Holds {s | s = source ∨ s ∈ calls.map Access.source} capacity :=
    (Chronicle.Holds.start _ size).run hdigest fun call hcall => Or.inr (List.mem_map_of_mem hcall)
  have hcalls : c.calls = calls.reverse := Chronicle.calls_after size calls
  have hset : source ∈ c.touches ↔ ∃ out, .set source out ∈ calls := by
    constructor
    · intro htouched
      obtain ⟨out, hout⟩ := Access.lastSet?_isSome_iff.mp (hholds.set source htouched)
      exact ⟨out, List.mem_reverse.mp (hcalls ▸ hout)⟩
    · rintro ⟨out, hout⟩
      exact Chronicle.mem_touches (hcalls ▸ List.mem_reverse.mpr hout)
  have hself : source ∈ {s | s = source ∨ s ∈ calls.map Access.source} := Or.inl rfl
  have hfind := hholds.find? hdigest hself
  rw [← hset, ← Chronicle.Holds.mem_kept_iff]
  unfold lookup Recent.get
  rw [hfind]
  by_cases hkept : source ∈ (firsts c.touches).take capacity
  · rw [if_pos hkept]
    refine ⟨iff_of_true rfl hkept, fun out hout => ?_⟩
    obtain ⟨last, hlast⟩ := Option.isSome_iff_exists.mp (hholds.set source (mem_firsts.mp (List.mem_of_mem_take hkept)))
    obtain rfl : last = out := by
      rw [← Option.some.inj hout, entry, Chronicle.value, hlast]
      rfl
    rw [← hcalls, hlast]
  · rw [if_neg hkept]
    exact ⟨iff_of_false nofun hkept, nofun⟩

/-- A cache with room for two of three sources; the first one is asked for before the third one comes. -/
def threeSources : List Access := [.set "a" "x", .set "b" "y", .get "a", .set "c" "z", .get "b"]

theorem threeSources_recent :
    ((Chronicle.after 2 threeSources).cache.lookup "a").1 = some "x" ∧
    ((Chronicle.after 2 threeSources).cache.lookup "b").1 = none := by
  have hab : Digest.sha256 "a" ≠ Digest.sha256 "b" := by decide +kernel
  have hac : Digest.sha256 "a" ≠ Digest.sha256 "c" := by decide +kernel
  have hbc : Digest.sha256 "b" ≠ Digest.sha256 "c" := by decide +kernel
  have hall : ({Text.ofString "a", Text.ofString "b", Text.ofString "c"} : Set Text).InjOn Digest.sha256 := by
    rintro x (rfl | rfl | rfl) y (rfl | rfl | rfl) heq
    exacts [rfl, absurd heq hab, absurd heq hac, absurd heq.symm hab, rfl, absurd heq hbc, absurd heq.symm hac,
      absurd heq.symm hbc, rfl]
  have hsources (source : Text) (hsource : source ∈ ({Text.ofString "a", Text.ofString "b"} : Set Text)) :
      {s | s = source ∨ s ∈ threeSources.map Access.source}.InjOn Digest.sha256 := by
    refine hall.mono fun s hs => ?_
    simp only [threeSources, List.map_cons, List.map_nil, Access.source, List.mem_cons, List.not_mem_nil, or_false,
      Set.mem_ofPred_eq] at hs
    rcases hs with rfl | rfl | rfl | rfl | rfl | rfl
    · rcases hsource with rfl | rfl <;> simp
    all_goals simp
  constructor
  · obtain ⟨hfound, hvalue⟩ := (holds_recent 2 threeSources).2 "a" (hsources _ (by simp))
    have hrecent : ((Chronicle.after 2 threeSources).touchedSince "a").toFinset.card < 2 := by decide +kernel
    obtain ⟨out, hout⟩ := Option.isSome_iff_exists.mp (hfound.mpr ⟨⟨"x", by simp [threeSources]⟩, hrecent⟩)
    rw [hout, ← hvalue out hout]
    rfl
  · obtain ⟨hfound, -⟩ := (holds_recent 2 threeSources).2 "b" (hsources _ (by simp))
    have hothers : ¬((Chronicle.after 2 threeSources).touchedSince "b").toFinset.card < 2 := by decide +kernel
    exact Option.not_isSome_iff_eq_none.mp fun h => hothers (hfound.mp h).2

end Marginalia.RenderCache
