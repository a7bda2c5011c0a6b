import Mathlib
import Marginalia.Proofs.Html.Enhancement

/-!
The markup of a player, read. The tags of elements are read as they are written if no octet of their attributes is written
in another way, and the markup that is put in the place of a paragraph is so read as the player.
-/

namespace Marginalia

namespace Html

variable {t rest id : Text} {as : List Attribute} {l : Label}

/-! ### Values that are written as they are -/

/-- An octet that is written as it is begins no reference, ends no line and ends no value. -/
theorem not_sign_of_plain : ∀ c : UInt8, reference? c = none →
    (c != ('&' : UInt8)) = true ∧ (c == ('\r' : UInt8)) = false ∧ (c == ('"' : UInt8)) = false := by
  decide +kernel

theorem unescape_of_plain (inAttribute : Bool) (h : ∀ c ∈ t, reference? c = none) : unescape inAttribute t = t := by
  rw [unescape]
  induction t with
  | nil => rfl
  | cons c t ih =>
    obtain ⟨hc, ht⟩ := List.forall_mem_cons.mp h
    rw [List.length_cons, unescapeFrom, if_pos (not_sign_of_plain c hc).1, ih ht]

theorem normalizeLines_of_plain (h : ∀ c ∈ t, reference? c = none) : normalizeLines t = t := by
  induction t with
  | nil => rfl
  | cons c t ih =>
    obtain ⟨hc, ht⟩ := List.forall_mem_cons.mp h
    have hreturn := (not_sign_of_plain c hc).2.1
    cases t with
    | nil => rw [normalizeLines, hreturn]; rfl
    | cons d t => rw [normalizeLines, hreturn, if_neg Bool.false_ne_true, ih ht]

theorem cut?_quote_of_plain (h : ∀ c ∈ t, reference? c = none) (rest : Text) :
    Text.cut? [('"' : UInt8)] (t ++ ('"' : UInt8) :: rest) = some (t, rest) := by
  induction t with
  | nil =>
    rw [List.nil_append, Text.cut?, Text.after?, beq_self_eq_true, if_pos rfl]
    cases rest <;> rfl
  | cons c t ih =>
    obtain ⟨hc, ht⟩ := List.forall_mem_cons.mp h
    rw [List.cons_append, Text.cut?, Text.after?, (not_sign_of_plain c hc).2.2, if_neg Bool.false_ne_true, ih ht]
    rfl

/-! ### Tags -/

/-- A name that is read as it is written. -/
def IsTagName (n : Text) : Prop := n ≠ [] ∧ n.all Text.isLower = true

instance (n : Text) : Decidable (IsTagName n) := inferInstanceAs (Decidable (_ ∧ _))

/-- A small letter separates nothing in a tag. -/
theorem not_mark_of_isLower : ∀ c : UInt8, Text.isLower c = true →
    isGap c = false ∧ (c == ('/' : UInt8)) = false ∧ (c == ('>' : UInt8)) = false ∧ (c == ('=' : UInt8)) = false := by
  decide +kernel

theorem IsTagName.isLower {n : Text} (h : IsTagName n) : ∀ c ∈ n, Text.isLower c = true := List.all_eq_true.mp h.2

/-- An attribute that is read as it is written. -/
def Attribute.IsPlain (a : Attribute) : Prop := IsTagName a.name ∧ a.value.all (fun c => reference? c == none) = true

instance (a : Attribute) : Decidable a.IsPlain := inferInstanceAs (Decidable (_ ∧ _))

theorem Attribute.IsPlain.value {a : Attribute} (h : a.IsPlain) : ∀ c ∈ a.value, reference? c = none :=
  fun c hc => beq_iff_eq.mp (List.all_eq_true.mp h.2 c hc)

theorem lower_of_isTagName {n : Text} (h : IsTagName n) : Text.lower n = n := by
  have hlower : ∀ c : UInt8, Text.isLower c = true → Text.toLower c = c := by decide +kernel
  rw [Text.lower, List.map_congr_left fun c hc => hlower c (h.isLower c hc), List.map_id']

theorem span_of_isTagName {n : Text} {p : UInt8 → Bool} (h : IsTagName n)
    (hp : ∀ c, Text.isLower c = true → p c = true) {c : UInt8} (hc : p c = false) (rest : Text) :
    Text.span p (n ++ c :: rest) = (n, c :: rest) := by
  have hall : ∀ c ∈ n, p c = true := fun c hc => hp c (h.isLower c hc)
  rw [Text.span, List.takeWhile_append_of_pos hall, List.dropWhile_append_of_pos hall, List.takeWhile_cons_of_neg (by simp [hc]),
    List.dropWhile_cons_of_neg (by simp [hc]), List.append_nil]

theorem dropWhile_isGap {n : Text} (h : IsTagName n) (rest : Text) : (n ++ rest).dropWhile isGap = n ++ rest := by
  obtain ⟨c, more, rfl⟩ := List.exists_cons_of_ne_nil h.1
  have hc := (not_mark_of_isLower c (h.isLower c List.mem_cons_self)).1
  rw [List.cons_append, List.dropWhile_cons_of_neg (by simp [hc])]

theorem attributeName_written {n : Text} (h : IsTagName n) (rest : Text) :
    attributeName (n ++ ('=' : UInt8) :: rest) = (n, ('=' : UInt8) :: rest) := by
  have hplain : ∀ c : UInt8, Text.isLower c = true → (!(isGap c || c == '/' || c == '>' || c == '=')) = true := by
    intro c hc
    obtain ⟨hgap, hslash, hclose, hequal⟩ := not_mark_of_isLower c hc
    rw [hgap, hslash, hclose, hequal]
    rfl
  have hfirst : ((n ++ ('=' : UInt8) :: rest).head? == some '=') = false := by
    obtain ⟨c, more, rfl⟩ := List.exists_cons_of_ne_nil h.1
    exact (not_mark_of_isLower c (h.isLower c List.mem_cons_self)).2.2.2
  have hspan := span_of_isTagName (c := '=') h hplain (by decide) rest
  rw [attributeName, hfirst, if_neg Bool.false_ne_true]
  exact congrArg (fun x : Text × Text => (Text.ofString "" ++ x.1, x.2)) hspan

theorem attributeValue?_written (h : ∀ c ∈ t, reference? c = none) (rest : Text) :
    attributeValue? (('=' : UInt8) :: ('"' : UInt8) :: (t ++ ('"' : UInt8) :: rest)) = some (t, rest) :=
  cut?_quote_of_plain h rest

/-- What is written of attributes is read as these attributes. -/
theorem attributes?_written {fuel : Nat} (h : ∀ a ∈ as, a.IsPlain) (hfuel : as.length < fuel) (rest : Text) :
    attributes? fuel (as.flatMap Attribute.text ++ ('>' : UInt8) :: rest) = some (as, rest) := by
  induction as generalizing fuel with
  | nil =>
    obtain ⟨fuel, rfl⟩ := Nat.exists_eq_succ_of_ne_zero (Nat.ne_of_gt hfuel)
    rfl
  | cons a as ih =>
    obtain ⟨ha, has⟩ := List.forall_mem_cons.mp h
    have hname := ha.1
    have hvalue := ha.value
    obtain ⟨fuel, rfl⟩ := Nat.exists_eq_succ_of_ne_zero (Nat.ne_of_gt (Nat.zero_lt_of_lt hfuel))
    have hrest := ih has (Nat.lt_of_succ_lt_succ hfuel)
    generalize hbehind : as.flatMap Attribute.text ++ ('>' : UInt8) :: rest = behind at hrest
    have htext : (a :: as).flatMap Attribute.text ++ ('>' : UInt8) :: rest =
        (' ' : UInt8) :: (a.name ++ ('=' : UInt8) :: ('"' : UInt8) :: (a.value ++ ('"' : UInt8) :: behind)) := by
      rw [List.flatMap_cons, Attribute.text, escape_of_plain hvalue, ← hbehind]
      simp only [List.append_assoc]
      rfl
    obtain ⟨c, more, hc⟩ := List.exists_cons_of_ne_nil hname.1
    have hdrop := dropWhile_isGap hname (('=' : UInt8) :: ('"' : UInt8) :: (a.value ++ ('"' : UInt8) :: behind))
    have hread := attributeName_written hname (('"' : UInt8) :: (a.value ++ ('"' : UInt8) :: behind))
    have hmark := (not_mark_of_isLower c (hname.isLower c (by simp [hc]))).2.2.1
    have hvalue' : unescape true (normalizeLines a.value) = a.value := by
      rw [normalizeLines_of_plain hvalue, unescape_of_plain true hvalue]
    rw [htext, attributes?, List.dropWhile_cons_of_pos rfl, hdrop]
    simp only [hc, List.cons_append] at hread ⊢
    simp only [hmark, Bool.false_eq_true, if_false, hread, attributeValue?_written hvalue, hrest, Option.map_some, hvalue']
    rw [← hc, lower_of_isTagName hname, if_neg (by simp [hname.1])]

theorem length_le_flatMap_text (as : List Attribute) : as.length ≤ (as.flatMap Attribute.text).length := by
  induction as with
  | nil => exact Nat.le_refl _
  | cons a as ih =>
    have htext : 0 < a.text.length := by
      simp [Attribute.text, show (Text.ofString " ").length = 1 by decide]
    rw [List.flatMap_cons, List.length_append, List.length_cons]
    omega

/-- No slash comes last in a name with attributes behind it. -/
theorem getLast?_written {n : Text} (hn : IsTagName n) (as : List Attribute) :
    ((n ++ as.flatMap Attribute.text).getLast? == some '/') = false := by
  rw [beq_eq_false_iff_ne]
  rcases List.eq_nil_or_concat as with rfl | ⟨init, a, rfl⟩
  · obtain ⟨before, c, rfl⟩ := (List.eq_nil_or_concat n).resolve_left hn.1
    have hc : Text.isLower c = true := hn.isLower c (by simp)
    rw [List.flatMap_nil, List.append_nil, List.concat_eq_append, List.getLast?_concat]
    intro heq
    obtain rfl := Option.some.inj heq
    revert hc
    decide
  · have hquote : Attribute.text a = Text.ofString " " ++ a.name ++ Text.ofString "=\"" ++ escape a.value ++ ['"'.toUInt8] := rfl
    rw [List.concat_eq_append, List.flatMap_append, List.flatMap_singleton, hquote, ← List.append_assoc, ← List.append_assoc,
      List.getLast?_concat]
    decide

/-- The opening tag of an element is read as it is written. -/
theorem tag?_written (hl : IsTagName l.name) (has : ∀ a ∈ l.attributes, a.IsPlain) (rest : Text) :
    tag? (l.name ++ (l.attributes.flatMap Attribute.text ++ ('>' : UInt8) :: rest)) =
      some (l.name, l.attributes, false, rest) := by
  have hplain : ∀ c : UInt8, Text.isLower c = true → (!isGap c && c != '/' && c != '>') = true := by
    intro c hc
    obtain ⟨hgap, hslash, hclose, -⟩ := not_mark_of_isLower c hc
    rw [hgap, bne, bne, hslash, hclose]
    rfl
  have hspan : Text.span (fun c => !isGap c && c != '/' && c != '>')
      (l.name ++ (l.attributes.flatMap Attribute.text ++ ('>' : UInt8) :: rest)) =
      (l.name, l.attributes.flatMap Attribute.text ++ ('>' : UInt8) :: rest) := by
    cases l.attributes with
    | nil => exact span_of_isTagName hl hplain (by decide) rest
    | cons a as => exact span_of_isTagName (c := ' ') hl hplain (by decide) _
  have hlong : l.attributes.length < (l.attributes.flatMap Attribute.text ++ ('>' : UInt8) :: rest).length + 1 := by
    have := length_le_flatMap_text l.attributes
    rw [List.length_append]
    omega
  have hread := attributes?_written has hlong rest
  have htake : (l.name ++ (l.attributes.flatMap Attribute.text ++ ('>' : UInt8) :: rest)).take
      ((l.name ++ (l.attributes.flatMap Attribute.text ++ ('>' : UInt8) :: rest)).length - rest.length - 1) =
      l.name ++ l.attributes.flatMap Attribute.text := by
    rw [← List.append_assoc]
    refine List.take_left' ?_
    simp only [List.length_append, List.length_cons]
    omega
  rw [tag?, hspan]
  simp only [hread, htake, getLast?_written hl, lower_of_isTagName hl]

/-- The next token of what begins with an opening tag. -/
theorem next_opening (hl : IsTagName l.name) (has : ∀ a ∈ l.attributes, a.IsPlain) (dataAllowed : Bool) (rest : Text) :
    Token.next none dataAllowed (l.opening ++ ('>' : UInt8) :: rest) = (.startTag l.name l.attributes false, rest) := by
  obtain ⟨c, more, hc⟩ := List.exists_cons_of_ne_nil hl.1
  have hletter : Text.isLetter c = true := by
    have hlower : ∀ c : UInt8, Text.isLower c = true → Text.isLetter c = true := by decide +kernel
    exact hlower c (hl.isLower c (by simp [hc]))
  have htext : l.opening ++ ('>' : UInt8) :: rest =
      ('<' : UInt8) :: (l.name ++ (l.attributes.flatMap Attribute.text ++ ('>' : UInt8) :: rest)) := by
    rw [Label.opening]
    simp only [List.append_assoc]
    rfl
  have htag := tag?_written hl has rest
  rw [htext]
  simp only [hc, List.cons_append] at htag ⊢
  have hmarkup : isMarkup (('<' : UInt8) :: c :: (more ++ (l.attributes.flatMap Attribute.text ++ ('>' : UInt8) :: rest))) = true := by
    simp [isMarkup, hletter]
  simp only [Token.next, List.isEmpty_nil, Bool.not_true, Bool.false_eq_true, if_false, textRun, hmarkup, if_true, markup?,
    hletter, htag, Option.map_some]

/-! ### The draft of a player -/

/-- The entries of a document whose body has an element with attributes. -/
def boxEntries (as : List Attribute) (inner : List Nat) : Array Entry :=
  #[⟨.document, none, [1]⟩, ⟨.element ⟨"html", .html, []⟩, some 0, [2, 3]⟩, ⟨.element ⟨"head", .html, []⟩, some 1, []⟩,
    ⟨.element ⟨"body", .html, []⟩, some 1, [4]⟩, ⟨.element ⟨"div", .html, as⟩, some 3, inner⟩]

/-- The draft when the element has been opened. -/
def boxDraft (as : List Attribute) : Draft :=
  { entries := boxEntries as [], stack := [4, 3, 1], mode := .inBody, head := some 2, quirks := true }

/-- The draft when there is a frame in the element. -/
def frameDraft (as bs : List Attribute) (stack : List Nat) (mode : Mode) : Draft :=
  { entries := (boxEntries as [5]).push ⟨.element ⟨"iframe", .html, bs⟩, some 4, []⟩, stack, mode, head := some 2
    framesetOk := false, quirks := true }

theorem handle_box (as : List Attribute) : Draft.handle 64 (.startTag "div" as false) {} = boxDraft as := by rfl

theorem handle_frame (as bs : List Attribute) : Draft.handle 70 (.startTag "iframe" bs false) (boxDraft as) =
    frameDraft as bs [5, 4, 3, 1] .text := by rfl

theorem handle_frameEnd (as bs : List Attribute) :
    Draft.handle 72 (.endTag "iframe") (frameDraft as bs [5, 4, 3, 1] .text) = frameDraft as bs [4, 3, 1] .inBody := by rfl

theorem handle_boxEnd (as bs : List Attribute) :
    Draft.handle 70 (.endTag "div") (frameDraft as bs [4, 3, 1] .inBody) = frameDraft as bs [3, 1] .inBody := by rfl

theorem handle_end (as bs : List Attribute) :
    Draft.handle 68 .stop (frameDraft as bs [3, 1] .inBody) = frameDraft as bs [3, 1] .inBody := by rfl

theorem nodes_frameDraft (as bs : List Attribute) (stack : List Nat) (mode : Mode) :
    (frameDraft as bs stack mode).nodes 6 [1] =
      [.element ⟨"html", .html, []⟩ [.element ⟨"head", .html, []⟩ [],
        .element ⟨"body", .html, []⟩ [.element ⟨"div", .html, as⟩ [.element ⟨"iframe", .html, bs⟩ []]]]] := by rfl

/-! ### The player -/

/-- Reading a token, when the next and what comes of it are known. -/
theorem readTokens_succ (fuel : Nat) {raw : Option Text} (d d' : Draft) {token : Token}
    (hnext : ∀ dataAllowed, Token.next raw dataAllowed t = (token, rest)) (hstop : token ≠ .stop)
    (hd : Draft.handle (2 * d.stack.length + 64) token { d with plainNext := false } = d') (hplain : d'.plainNext = false) :
    readTokens (fuel + 1) raw t d = readTokens fuel token.raw? rest d' := by
  rw [readTokens, hnext]
  simp only [hd, beq_eq_false_iff_ne.mpr hstop, hplain, Bool.false_eq_true, if_false]

/-- What is around the frame of a player. -/
def playerBox : Label := ⟨"div", .html, [⟨"class", "video-container"⟩]⟩

/-- The frame in which a video is shown. -/
def playerFrame (id : Text) : Label :=
  ⟨"iframe", .html, ⟨"src", "https://www.youtube-nocookie.com/embed/" ++ id⟩ :: playerAttributes⟩

/-- The end of the markup of a player. -/
def playerEnd : Text := "</iframe></div>"

theorem playerMarkup_eq (h : Video.IsId id) : playerMarkup id =
    playerBox.opening ++ ('>' : UInt8) :: ((playerFrame id).opening ++ ('>' : UInt8) :: playerEnd) := by
  have hfront : playerFront = playerBox.opening ++ ('>' : UInt8) ::
      Text.ofString "<iframe src=\"https://www.youtube-nocookie.com/embed/" := by decide +kernel
  have hback : playerBack = ('"' : UInt8) :: (playerAttributes.flatMap Attribute.text ++ ('>' : UInt8) :: playerEnd) := by
    decide +kernel
  have hsource : (playerFrame id).opening = Text.ofString "<iframe src=\"https://www.youtube-nocookie.com/embed/" ++
      (id ++ ('"' : UInt8) :: playerAttributes.flatMap Attribute.text) := by
    rw [Label.opening, playerFrame, List.flatMap_cons, Attribute.text, escape_append, escape_of_isId h]
    simp only [List.append_assoc]
    rfl
  rw [playerMarkup, hfront, hback, hsource]
  simp only [List.append_assoc, List.cons_append]

theorem playerBox_plain : ∀ a ∈ playerBox.attributes, a.IsPlain := by decide +kernel

theorem playerFrame_plain (h : Video.IsId id) : ∀ a ∈ (playerFrame id).attributes, a.IsPlain := by
  have hid : ∀ c : UInt8, Video.isIdOctet c = true → reference? c = none := by decide +kernel
  have haddress : (Text.ofString "https://www.youtube-nocookie.com/embed/").all (fun c => reference? c == none) = true := by
    decide +kernel
  have hothers : ∀ a ∈ playerAttributes, a.IsPlain := by decide +kernel
  refine List.forall_mem_cons.mpr ⟨⟨show IsTagName "src" by decide +kernel, ?_⟩, hothers⟩
  rw [List.all_append, haddress, Bool.true_and, List.all_eq_true]
  exact fun c hc => beq_iff_eq.mpr (hid c (Video.isIdOctet_iff.mpr (h.2 c hc)))

/-- Read as a document, the markup of a player is the player. -/
theorem parse_playerMarkup (h : Video.IsId id) : parse (playerMarkup id) =
    [.element ⟨"html", .html, []⟩ [.element ⟨"head", .html, []⟩ [], .element ⟨"body", .html, []⟩ [player id]]] := by
  have hbox (dataAllowed : Bool) := next_opening (l := playerBox) (show IsTagName "div" by decide +kernel) playerBox_plain
    dataAllowed ((playerFrame id).opening ++ ('>' : UInt8) :: playerEnd)
  have hframe (dataAllowed : Bool) := next_opening (l := playerFrame id) (show IsTagName "iframe" by decide +kernel)
    (playerFrame_plain h) dataAllowed playerEnd
  have hframeEnd : ∀ dataAllowed, Token.next (some "iframe") dataAllowed playerEnd =
      (.endTag "iframe", Text.ofString "</div>") := by decide +kernel
  have hboxEnd : ∀ dataAllowed, Token.next none dataAllowed "</div>" = (.endTag "div", Text.ofString "") := by
    decide +kernel
  have hend : ∀ dataAllowed, Token.next none dataAllowed "" = (.stop, Text.ofString "") := by decide +kernel
  have hboxRaw : (Token.startTag playerBox.name playerBox.attributes false).raw? = none := by
    rw [Token.raw?, if_neg (show ¬ rawElements.contains playerBox.name = true by decide +kernel)]
  have hframeRaw : (Token.startTag (playerFrame id).name (playerFrame id).attributes false).raw? = some (Text.ofString "iframe") := by
    have hraw : rawElements.contains "iframe" = true := by decide +kernel
    rw [Token.raw?, show (playerFrame id).name = "iframe" from rfl, if_pos hraw]
  obtain ⟨fuel, hfuel⟩ : ∃ fuel, (playerMarkup id).length + 1 = fuel + 5 := by
    have hfront : 4 ≤ playerFront.length := by decide +kernel
    refine ⟨(playerMarkup id).length - 4, ?_⟩
    rw [playerMarkup, List.length_append]
    omega
  have hread : readTokens ((playerMarkup id).length + 1) none (playerMarkup id) {} =
      frameDraft playerBox.attributes (playerFrame id).attributes [3, 1] .inBody := by
    rw [hfuel, playerMarkup_eq h]
    refine (readTokens_succ _ {} (boxDraft playerBox.attributes) hbox nofun (handle_box _) rfl).trans ?_
    rw [hboxRaw]
    refine (readTokens_succ _ (boxDraft playerBox.attributes)
      (frameDraft playerBox.attributes (playerFrame id).attributes [5, 4, 3, 1] .text) hframe nofun (handle_frame _ _) rfl).trans ?_
    rw [hframeRaw]
    refine (readTokens_succ _ (frameDraft playerBox.attributes (playerFrame id).attributes [5, 4, 3, 1] .text)
      (frameDraft playerBox.attributes (playerFrame id).attributes [4, 3, 1] .inBody) hframeEnd nofun
      (handle_frameEnd _ _) rfl).trans ?_
    refine (readTokens_succ _ (frameDraft playerBox.attributes (playerFrame id).attributes [4, 3, 1] .inBody)
      (frameDraft playerBox.attributes (playerFrame id).attributes [3, 1] .inBody) hboxEnd nofun
      (handle_boxEnd _ _) rfl).trans ?_
    show readTokens (fuel + 1) none (Text.ofString "") _ = _
    rw [readTokens, hend]
    exact (if_pos (beq_self_eq_true Token.stop)).trans (handle_end _ _)
  rw [parse, hread]
  exact nodes_frameDraft _ _ _ _

end Html

end Marginalia
