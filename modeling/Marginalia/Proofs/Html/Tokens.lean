import Mathlib
import Marginalia.Html.Token
import Marginalia.Proofs.Text.Lines

/-!
Reading tokens comes to an end: what follows a token is always an end of the text, and a shorter one.
-/

namespace Marginalia

namespace Text

variable {t u rest : Text}

theorem after?_suffix (h : after? t u = some rest) : rest <:+ t :=
  ⟨u, (after?_eq_some_iff.mp h).symm⟩

theorem afterIgnoringCase?_suffix (h : afterIgnoringCase? t u = some rest) : rest <:+ t := by
  induction u generalizing t with
  | nil =>
    have hsame : afterIgnoringCase? t [] = some t := by cases t <;> rfl
    exact Option.some.inj (hsame.symm.trans h) ▸ List.suffix_refl t
  | cons d u ih =>
    cases t with
    | nil => cases h
    | cons c t =>
      unfold afterIgnoringCase? at h
      split at h
      · exact (ih h).trans (List.suffix_cons c t)
      · cases h

theorem cut?_suffix {before : Text} (h : cut? u t = some (before, rest)) : rest <:+ t := by
  induction t generalizing before with
  | nil =>
    unfold cut? at h
    split at h
    · cases h
      exact List.suffix_refl []
    · cases h
  | cons c t ih =>
    unfold cut? at h
    split at h
    · rename_i rest' hafter
      cases h
      exact after?_suffix hafter
    · obtain ⟨⟨a, b⟩, hcut, heq⟩ := Option.map_eq_some_iff.mp h
      cases heq
      exact (ih hcut).trans (List.suffix_cons c t)

theorem span_suffix (p : UInt8 → Bool) (t : Text) : (span p t).2 <:+ t := List.dropWhile_suffix p

end Text

namespace Html

variable {t rest : Text}

/-! ### Tags -/

theorem attributeName_suffix (t : Text) : (attributeName t).2 <:+ t := by
  unfold attributeName
  exact (Text.span_suffix _ _).trans (List.drop_suffix _ t)

theorem attributeValue?_suffix {value : Text} (h : attributeValue? t = some (value, rest)) : rest <:+ t := by
  unfold attributeValue? at h
  split at h
  · cases h
  rename_i c behind hbehind
  have hc : c :: behind <:+ t := hbehind ▸ List.dropWhile_suffix _
  have hbehind : behind <:+ t := (List.suffix_cons c behind).trans hc
  split at h
  · cases h
    exact hbehind
  split at h
  · cases h
    exact hc
  split at h
  · cases h
  rename_i q inner hinner
  have hq : q :: inner <:+ t := (hinner ▸ List.dropWhile_suffix _ : q :: inner <:+ behind).trans hbehind
  split at h
  · cases h
    exact hq
  split at h
  · exact ((Text.cut?_suffix h).trans (List.suffix_cons q inner)).trans hq
  · cases h
    exact (List.dropWhile_suffix _).trans hq

theorem attributes?_suffix {fuel : Nat} {as : List Attribute} (h : attributes? fuel t = some (as, rest)) :
    rest <:+ t := by
  induction fuel generalizing t as with
  | zero => cases h
  | succ fuel ih =>
    unfold attributes? at h
    split at h
    · cases h
    rename_i c behind hbehind
    have hc : c :: behind <:+ t := hbehind ▸ List.dropWhile_suffix _
    split at h
    · cases h
      exact (List.suffix_cons c _).trans hc
    dsimp only at h
    split at h
    · cases h
    rename_i value after hvalue
    obtain ⟨⟨more, rest'⟩, hmore, heq⟩ := Option.map_eq_some_iff.mp h
    cases heq
    exact (((ih hmore).trans (attributeValue?_suffix hvalue)).trans (attributeName_suffix _)).trans hc

theorem tag?_suffix {name : Text} {as : List Attribute} {slash : Bool} (h : tag? t = some (name, as, slash, rest)) :
    rest <:+ t := by
  unfold tag? at h
  dsimp only at h
  split at h
  · cases h
  · rename_i hattributes
    cases h
    exact (attributes?_suffix hattributes).trans (Text.span_suffix _ t)

/-! ### Content that is not markup -/

theorem rawContent_append (name t : Text) : (rawContent name t).1 ++ (rawContent name t).2 = t := by
  induction t with
  | nil => rfl
  | cons c t ih =>
    unfold rawContent
    split
    · split
      · rfl
      · exact congrArg (c :: ·) ih
    · exact congrArg (c :: ·) ih

theorem scriptContent_append (fuel : Nat) (s : ScriptState) (t : Text) :
    (scriptContent fuel s t).1 ++ (scriptContent fuel s t).2 = t := by
  induction fuel generalizing s t with
  | zero => simp [scriptContent]
  | succ fuel ih =>
    cases t with
    | nil => rfl
    | cons c t =>
      unfold scriptContent
      split
      · rfl
      · rename_i n s' _
        simp only [List.append_assoc, ih, List.take_append_drop]

theorem contentOf_append (name t : Text) : (contentOf name t).1 ++ (contentOf name t).2 = t := by
  unfold contentOf
  split
  · simp
  split
  · exact scriptContent_append _ _ t
  · exact rawContent_append name t

/-! ### Comments and declarations -/

theorem commentBody_suffix (t : Text) : (commentBody t).2 <:+ t := by
  unfold commentBody
  split
  · exact List.nil_suffix
  · exact List.drop_suffix _ t

theorem upToAngle_suffix (t : Text) : (upToAngle t).2 <:+ t := by
  unfold upToAngle
  cases h : Text.cut? ">" t with
  | none => exact List.nil_suffix
  | some parts => exact Text.cut?_suffix h

theorem dataSection_suffix (t : Text) : (dataSection t).2 <:+ t := by
  unfold dataSection
  cases h : Text.cut? "]]>" t with
  | none => exact List.nil_suffix
  | some parts => exact Text.cut?_suffix h

theorem declaration_suffix (dataAllowed : Bool) (t : Text) : (declaration dataAllowed t).2 <:+ t := by
  unfold declaration
  dsimp only
  split
  · rename_i rest hrest
    exact (commentBody_suffix rest).trans (Text.after?_suffix hrest)
  split
  · rename_i rest hrest
    exact ((upToAngle_suffix _).trans (List.dropWhile_suffix _)).trans (Text.afterIgnoringCase?_suffix hrest)
  split
  · rename_i rest hrest
    split at hrest
    · exact (dataSection_suffix rest).trans (Text.after?_suffix hrest)
    · cases hrest
  split
  · exact List.nil_suffix
  split
  · exact List.nil_suffix
  · exact upToAngle_suffix t

/-! ### Tokens -/

theorem textRun_append (t : Text) : (textRun t).1 ++ (textRun t).2 = t := by
  induction t with
  | nil => rfl
  | cons c t ih =>
    unfold textRun
    split
    · rfl
    · exact congrArg (c :: ·) ih

theorem length_lt_of_suffix {c : UInt8} (h : rest <:+ t) : rest.length < (c :: t).length :=
  Nat.lt_succ_of_le h.length_le

theorem markup?_length {dataAllowed : Bool} {found : Token × Text} (h : markup? dataAllowed t = some found) :
    found.2.length < t.length := by
  unfold markup? at h
  split at h
  · rename_i a c rest
    refine length_lt_of_suffix ?_
    have hrest : rest <:+ c :: rest := List.suffix_cons c rest
    split at h
    · obtain ⟨⟨name, attributes, slash, behind⟩, htag, rfl⟩ := Option.map_eq_some_iff.mp h
      exact tag?_suffix htag
    split at h
    · cases h
      exact (declaration_suffix dataAllowed rest).trans hrest
    split at h
    · cases h
      exact upToAngle_suffix _
    split at h
    · cases h
    rename_i d more
    split at h
    · cases h
      exact (List.suffix_cons d more).trans hrest
    split at h
    · obtain ⟨⟨name, attributes, slash, behind⟩, htag, rfl⟩ := Option.map_eq_some_iff.mp h
      exact (tag?_suffix htag).trans hrest
    · cases h
      exact (upToAngle_suffix _).trans hrest
  · cases h

theorem length_lt_of_append {front : Text} (h : front ++ rest = t) (hfront : front ≠ []) : rest.length < t.length := by
  have hlength := congrArg List.length h
  have hpos := List.length_pos_iff.mpr hfront
  simp only [List.length_append] at hlength
  omega

theorem length_next_markup (dataAllowed : Bool) (t : Text) :
    (Token.next none dataAllowed t).1 = .stop ∨ (Token.next none dataAllowed t).2.length < t.length := by
  simp only [Token.next, List.isEmpty_nil, Bool.not_true, Bool.false_eq_true, if_false]
  split
  · rename_i hrun
    exact .inr (length_lt_of_append (textRun_append t) (by simpa using hrun))
  split
  · rename_i found hfound
    exact .inr (markup?_length hfound)
  · exact .inl rfl

/-- What follows a token is shorter, unless the token is the end. -/
theorem length_next (raw : Option Text) (dataAllowed : Bool) (t : Text) :
    (Token.next raw dataAllowed t).1 = .stop ∨ (Token.next raw dataAllowed t).2.length < t.length := by
  have hmarkup := length_next_markup dataAllowed t
  cases raw with
  | none => exact hmarkup
  | some name =>
    by_cases hcontent : (contentOf name t).1 = []
    · have hsame : Token.next (some name) dataAllowed t = Token.next none dataAllowed t := by
        simp [Token.next, hcontent]
      exact hsame.symm ▸ hmarkup
    · right
      have hrest : (Token.next (some name) dataAllowed t).2 = (contentOf name t).2 := by
        simp [Token.next, hcontent]
      exact hrest.symm ▸ length_lt_of_append (contentOf_append name t) hcontent

end Html

end Marginalia
