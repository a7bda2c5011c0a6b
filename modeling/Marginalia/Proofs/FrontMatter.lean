import Mathlib
import Marginalia.FrontMatter
import Marginalia.Proofs.File.Path
import Marginalia.Proofs.Text.Lines

/-!
Where a file is taken apart. A block of settings is found exactly if the text is put together like one: a delimiter, lines
that are none, and a delimiter. There is one way only to see it so, and the body is all that is left behind, octet by octet.
-/

namespace Marginalia

namespace FrontMatter

variable {data text first settings close tail first' settings' close' tail' : Text} {lines before after : List Text}

/-! ### Delimiters -/

theorem isDelimiter_iff {line : Text} : isDelimiter line = true ↔ Text.trim line = "---" := by
  rw [isDelimiter, beq_iff_eq]

theorem isDelimiter_lineFeed (line : Text) : isDelimiter (line ++ [('\n' : UInt8)]) = isDelimiter line := by
  rw [isDelimiter, isDelimiter, Text.trim_lineFeed]

theorem atDelimiter?_eq_some_iff : atDelimiter? lines = some (before, after) ↔
    ∃ line, lines = before ++ line :: after ∧ isDelimiter line = true ∧ ∀ l ∈ before, isDelimiter l = false := by
  induction lines generalizing before with
  | nil => simp [atDelimiter?]
  | cons l lines ih =>
    rw [atDelimiter?]
    by_cases hl : isDelimiter l = true
    · rw [if_pos hl]
      constructor
      · rintro ⟨⟩
        exact ⟨l, rfl, hl, by simp⟩
      · rintro ⟨line, heq, -, hplain⟩
        cases before with
        | nil =>
          obtain ⟨-, rfl⟩ := List.cons.inj heq
          rfl
        | cons b before =>
          obtain ⟨rfl, -⟩ := List.cons.inj heq
          simp [hl] at hplain
    · rw [if_neg hl, Option.map_eq_some_iff]
      constructor
      · rintro ⟨⟨before, after⟩, hfound, ⟨⟩⟩
        obtain ⟨line, rfl, hline, hplain⟩ := ih.mp hfound
        exact ⟨line, rfl, hline, by simpa [hl] using hplain⟩
      · rintro ⟨line, heq, hline, hplain⟩
        cases before with
        | nil =>
          obtain ⟨rfl, -⟩ := List.cons.inj heq
          exact absurd hline hl
        | cons b before =>
          obtain ⟨rfl, rfl⟩ := List.cons.inj heq
          exact ⟨(before, after), ih.mpr ⟨line, rfl, hline, fun l hl => hplain l (List.mem_cons_of_mem _ hl)⟩, rfl⟩

/-- No line of the text is a delimiter. -/
def Undelimited (t : Text) : Prop := ∀ line ∈ Text.splitOn '\n' t, Text.trim line ≠ "---"

theorem undelimited_iff : Undelimited text ↔ ∀ line ∈ Text.lines text, isDelimiter line = false := by
  unfold Undelimited
  induction text using Text.lineByLine with
  | last t hline =>
    have hblank : Text.trim [] ≠ "---" := by decide +kernel
    rw [Text.splitOn_of_not_mem hline, Text.lines_last hline]
    by_cases ht : t = [] <;> simp [ht, hblank, isDelimiter]
  | line l rest hl ih =>
    rw [Text.splitOn_append, Text.splitOn_of_not_mem hl, Text.lines_line rest hl]
    simp only [List.singleton_append, List.forall_mem_cons, ih, isDelimiter_lineFeed]
    simp [isDelimiter]

/-! ### Blocks -/

/-- A line that is three hyphens, apart from white space around them. -/
structure Delimiter (line : Text) : Prop where
  plain : ('\n' : UInt8) ∉ line
  hyphens : Text.trim line = "---"

/-- The text begins with settings between two delimiters. -/
structure Block (text first settings close tail : Text) : Prop where
  text_eq : text = first ++ ('\n' : UInt8) :: (settings ++ close ++ tail)
  opens : Delimiter first
  closes : Delimiter close
  ended : Text.Ended settings
  undelimited : Undelimited settings
  tail_line : tail = [] ∨ tail.head? = some ('\n' : UInt8)

theorem Delimiter.ne_nil (h : Delimiter close) : close ≠ [] := by
  rintro rfl
  exact absurd h.hyphens (by decide +kernel)

theorem delimiter_iff {line : Text} (h : ('\n' : UInt8) ∉ line) : Delimiter line ↔ isDelimiter line = true :=
  ⟨fun hline => isDelimiter_iff.mpr hline.hyphens, fun hline => ⟨h, isDelimiter_iff.mp hline⟩⟩

namespace Block

theorem atDelimiter? (h : Block text first settings close tail) :
    FrontMatter.atDelimiter? (Text.lines (settings ++ close ++ tail)) =
      some (Text.lines settings, Text.lines (tail.drop 1)) := by
  have hplain := undelimited_iff.mp h.undelimited
  have hcloses := isDelimiter_iff.mpr h.closes.hyphens
  rw [List.append_assoc, Text.lines_append h.ended, atDelimiter?_eq_some_iff]
  rcases h.tail_line with rfl | htail
  · refine ⟨close, ?_, hcloses, hplain⟩
    simp [Text.lines_last h.closes.plain, h.closes.ne_nil, Text.lines]
  · obtain ⟨body, rfl⟩ := List.head?_eq_some_iff.mp htail
    refine ⟨close ++ [('\n' : UInt8)], ?_, (isDelimiter_lineFeed close).trans hcloses, hplain⟩
    rw [Text.lines_line body h.closes.plain, List.drop_one, List.tail_cons]

theorem split (h : Block (Text.dropStart data byteOrderMark) first settings close tail) :
    FrontMatter.split data = ⟨some settings, tail.drop 1⟩ := by
  have hopens : isDelimiter (first ++ [('\n' : UInt8)]) = true := by
    rw [isDelimiter_lineFeed, isDelimiter_iff, h.opens.hyphens]
  have hlines : Text.lines (Text.dropStart data byteOrderMark) =
      (first ++ [('\n' : UInt8)]) :: Text.lines (settings ++ close ++ tail) := by
    rw [h.text_eq, Text.lines_line _ h.opens.plain]
  have hsearch := h.atDelimiter?
  rw [List.append_assoc] at hlines hsearch
  simp [FrontMatter.split, hlines, hopens, hsearch, Text.flatten_lines]

theorem first_eq (h : Block text first settings close tail) : first = Text.upTo '\n' text := by
  rw [h.text_eq, Text.upTo_line h.opens.plain (.inr rfl)]

/-- There is one way only to see a text as one with a block. -/
theorem unique (h : Block text first settings close tail) (h' : Block text first' settings' close' tail') :
    first' = first ∧ settings' = settings ∧ close' = close ∧ tail' = tail := by
  obtain rfl : first' = first := h'.first_eq.trans h.first_eq.symm
  have hrest := List.append_cancel_left (h'.text_eq.symm.trans h.text_eq)
  rw [List.cons.injEq, and_iff_right rfl] at hrest
  have hlines := h'.atDelimiter?.symm.trans ((congrArg _ (congrArg _ hrest)).trans h.atDelimiter?)
  obtain rfl : settings' = settings := by
    rw [← Text.flatten_lines settings', (Prod.mk.inj (Option.some.inj hlines)).1, Text.flatten_lines]
  rw [List.append_assoc, List.append_assoc, List.append_cancel_left_eq] at hrest
  obtain rfl : close' = close := by
    rw [← Text.upTo_line h'.closes.plain h'.tail_line, hrest, Text.upTo_line h.closes.plain h.tail_line]
  exact ⟨rfl, rfl, rfl, List.append_cancel_left hrest⟩

end Block

/-- A text without a block is all body. -/
theorem split_of_not_block
    (h : ∀ first settings close tail, ¬ Block (Text.dropStart data byteOrderMark) first settings close tail) :
    split data = ⟨none, Text.dropStart data byteOrderMark⟩ := by
  unfold split
  generalize Text.dropStart data byteOrderMark = text at h
  by_cases hfeed : ('\n' : UInt8) ∈ text
  swap
  · have hlast : text.getLast? ≠ some ('\n' : UInt8) := fun hlast => hfeed (List.mem_of_getLast? hlast)
    rcases eq_or_ne text [] with rfl | hne
    · rfl
    · simp [Text.lines_last hfeed, hne, hlast]
  obtain ⟨first, rest, rfl, hfirst⟩ := List.eq_append_cons_of_mem hfeed
  cases hopens : isDelimiter first with
  | false => simp [Text.lines_line rest hfirst, isDelimiter_lineFeed, hopens]
  | true =>
    cases hsearch : atDelimiter? (Text.lines rest) with
    | none => simp [Text.lines_line rest hfirst, isDelimiter_lineFeed, hopens, hsearch]
    | some parts =>
      -- The delimiter that was found would close a block.
      obtain ⟨before, after⟩ := parts
      obtain ⟨closing, hlines, hclosing, hplain⟩ := atDelimiter?_eq_some_iff.mp hsearch
      obtain ⟨hended, hsame, close, hclose, hend⟩ := Text.lines_eq_append hlines
      have hblock : ∀ tail, rest = before.flatten ++ close ++ tail → isDelimiter close = true →
          tail = [] ∨ tail.head? = some ('\n' : UInt8) → False := by
        rintro tail rfl hcloses htail
        exact h first before.flatten close tail ⟨rfl, (delimiter_iff hfirst).mpr hopens, (delimiter_iff hclose).mpr hcloses,
          hended, undelimited_iff.mpr (hsame.symm ▸ hplain), htail⟩
      rcases hend with ⟨hrest, rfl, -⟩ | ⟨body, hrest, rfl, -⟩
      · exact (hblock [] (by rw [hrest, List.append_nil]) hclosing (.inl rfl)).elim
      · rw [isDelimiter_lineFeed] at hclosing
        exact (hblock (('\n' : UInt8) :: body) (by rw [hrest, List.append_assoc]) hclosing (.inr rfl)).elim

/-- What is put together of delimiters, settings and a body is taken apart again. -/
theorem split_joined (settings body : Text) (hended : Text.Ended settings) (hplain : Undelimited settings) :
    split (("---\n" : Text) ++ settings ++ ("---\n" : Text) ++ body) = ⟨some settings, body⟩ := by
  have hhyphens : Delimiter "---" := ⟨by decide, by decide +kernel⟩
  have hopen : Text.ofString "---\n" = Text.ofString "---" ++ [('\n' : UInt8)] := by decide
  have hblock : Block (Text.ofString "---" ++ ('\n' : UInt8) :: (settings ++ Text.ofString "---" ++ ('\n' : UInt8) :: body))
      "---" settings "---" (('\n' : UInt8) :: body) := ⟨rfl, hhyphens, hhyphens, hended, hplain, .inr rfl⟩
  have hdata : Text.ofString "---\n" ++ settings ++ Text.ofString "---\n" ++ body =
      Text.ofString "---" ++ ('\n' : UInt8) :: (settings ++ Text.ofString "---" ++ ('\n' : UInt8) :: body) := by
    simp [hopen]
  generalize hsame : Text.ofString "---" ++ ('\n' : UInt8) :: (settings ++ Text.ofString "---" ++ ('\n' : UInt8) :: body) = text
    at hblock hdata
  have hunmarked : Text.dropStart text byteOrderMark = text := by
    rw [← hsame]
    rfl
  rw [hdata, Block.split (hunmarked.symm ▸ hblock), List.drop_one, List.tail_cons]

/-- The body is the end of the file as it was. -/
theorem exists_front (data : Text) : ∃ front, data = front ++ (split data).body := by
  obtain ⟨front, hfront⟩ : ∃ front, data = front ++ Text.dropStart data byteOrderMark := by
    rcases Text.dropStart_cases data byteOrderMark with hmark | ⟨-, hmark⟩
    · exact ⟨byteOrderMark, hmark⟩
    · exact ⟨[], hmark.symm⟩
  by_cases hblock : ∃ first settings close tail, Block (Text.dropStart data byteOrderMark) first settings close tail
  · obtain ⟨first, settings, close, tail, hblock⟩ := hblock
    rw [hblock.split]
    refine ⟨front ++ (first ++ ('\n' : UInt8) :: (settings ++ close ++ tail.take 1)), ?_⟩
    calc
      data = front ++ Text.dropStart data byteOrderMark := hfront
      _ = front ++ (first ++ ('\n' : UInt8) :: (settings ++ close ++ tail)) := congrArg _ hblock.text_eq
      _ = _ := by simp only [List.append_assoc, List.cons_append, List.take_append_drop]
  · rw [split_of_not_block fun first settings close tail h => hblock ⟨first, settings, close, tail, h⟩]
    exact ⟨front, hfront⟩

/-- Taking a file apart finds the one block that it begins with, if there is one, and loses nothing behind it. -/
theorem split_finds_block :
    (∀ data, ∃ text, (data = byteOrderMark ++ text ∨ ¬ byteOrderMark <+: data ∧ text = data) ∧
      (∀ first settings close tail, Block text first settings close tail →
        split data = ⟨some settings, tail.drop 1⟩ ∧
        ∀ first' settings' close' tail', Block text first' settings' close' tail' →
          first' = first ∧ settings' = settings ∧ close' = close ∧ tail' = tail) ∧
      ((¬ ∃ first settings close tail, Block text first settings close tail) → split data = ⟨none, text⟩) ∧
      ∃ front, data = front ++ (split data).body) ∧
    ∀ settings body, Text.Ended settings → Undelimited settings →
      split (("---\n" : Text) ++ settings ++ ("---\n" : Text) ++ body) = ⟨some settings, body⟩ := by
  refine ⟨fun data => ?_, split_joined⟩
  have hmark := Text.dropStart_cases data byteOrderMark
  refine ⟨Text.dropStart data byteOrderMark, hmark, fun first settings close tail hblock => ?_, fun hnone => ?_,
    exists_front data⟩
  · exact ⟨hblock.split, fun _ _ _ _ => hblock.unique⟩
  · exact split_of_not_block fun first settings close tail hblock => hnone ⟨first, settings, close, tail, hblock⟩

example : split "---\r\nslug: a\r\n --- " = ⟨some "slug: a\r\n", []⟩ := by decide +kernel

end FrontMatter

end Marginalia
