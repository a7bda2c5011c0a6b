import Mathlib
import Marginalia.Html.Enhance
import Marginalia.Proofs.Html.Reading

/-!
What is shown is the content of the body, unless nothing can be written of it. Then the whole document is shown, with
the tags around its body, and so it is for any white space.
-/

namespace Marginalia

namespace Html

variable {n : Node} {ns : List Node} {t : Text}

/-! ### Texts in documents -/

/-- No text in a node is empty. -/
inductive Node.Full : Node → Prop where
  | text {t : Text} : t ≠ [] → Full (.text t)
  | comment (t : Text) : Full (.comment t)
  | doctype (d : Doctype) : Full (.doctype d)
  | element {l : Label} {cs : List Node} : (∀ n ∈ cs, Full n) → Full (.element l cs)

theorem Draft.full_nodes {d : Draft} (hd : Draft.Forest d.entries) (depth : Nat) (is : List Nat) :
    ∀ n ∈ d.nodes depth is, n.Full := by
  induction depth generalizing is with
  | zero => nofun
  | succ depth ih =>
    intro n hn
    obtain ⟨i, -, hi⟩ := List.mem_filterMap.mp hn
    dsimp only at hi
    split at hi
    · cases hi
    · rename_i t ht
      cases hi
      exact .text fun hnil => hd.text i (by rw [hnil] at ht; exact ht)
    · cases hi
      exact .comment _
    · cases hi
      exact .doctype _
    · cases hi
      exact .element (ih _)

theorem full_parse (t : Text) : ∀ n ∈ parse t, n.Full := by
  obtain ⟨r, hroot⟩ := readTokens_rooted (.inl unopened_start) none (Nat.lt_succ_self t.length)
  exact Draft.full_nodes hroot.toForest _ _

theorem full_player (id : Text) : (player id).Full :=
  .element fun n hn => by
    obtain rfl := List.mem_singleton.mp hn
    exact .element nofun

mutual

theorem Node.full_enhance (n : Node) (hn : n.Full) : n.enhance.Full := by
  cases n with
  | element l cs =>
    unfold Node.enhance
    split
    · exact full_player _
    · cases hn with
      | element hcs => exact .element (full_enhanceAll cs hcs)
  | _ => exact hn

theorem full_enhanceAll (ns : List Node) (hns : ∀ n ∈ ns, n.Full) : ∀ n ∈ enhanceAll ns, n.Full := by
  cases ns with
  | nil => nofun
  | cons n ns =>
    obtain ⟨hn, hns⟩ := List.forall_mem_cons.mp hns
    exact List.forall_mem_cons.mpr ⟨Node.full_enhance n hn, full_enhanceAll ns hns⟩

end

mutual

theorem Node.full_find? {name : Text} (n : Node) (hn : n.Full) {b : Node} (hb : n.find? name = some b) : b.Full := by
  cases n with
  | element l cs =>
    unfold Node.find? at hb
    split at hb
    · cases hb
      exact hn
    · cases hn with
      | element hcs => exact Node.full_findIn? cs hcs hb
  | _ => cases hb

theorem Node.full_findIn? {name : Text} (ns : List Node) (hns : ∀ n ∈ ns, n.Full) {b : Node}
    (hb : Node.findIn? name ns = some b) : b.Full := by
  cases ns with
  | nil => cases hb
  | cons n ns =>
    obtain ⟨hn, hns⟩ := List.forall_mem_cons.mp hns
    unfold Node.findIn? at hb
    rcases Option.or_eq_some_iff.mp hb with hb | ⟨-, hb⟩
    · exact Node.full_find? n hn hb
    · exact Node.full_findIn? ns hns hb

end

/-! ### Writing -/

/-- What has been written, if anything can be. -/
def Written.text? : Written → Option Text
  | .whole t => some t
  | .final t => some t
  | .impossible => none

theorem text?_after (w : Written) (t : Text) : (w.after t).text? = w.text?.map (t ++ ·) := by
  cases w <;> rfl

theorem text?_andThen {w : Written} {next : Unit → Written} (h : (w.andThen next).text? = some t) :
    ∃ u, w.text? = some u ∧ u <+: t := by
  cases w with
  | whole u =>
    obtain ⟨v, -, rfl⟩ := Option.map_eq_some_iff.mp ((text?_after _ _).symm.trans h)
    exact ⟨u, rfl, List.prefix_append u v⟩
  | final u => exact ⟨u, rfl, Option.some.inj h ▸ List.prefix_refl u⟩
  | impossible => cases h

/-- An element is written from its opening tag on. -/
theorem written_from_opening {l : Label} {cs : List Node} (h : (Node.element l cs).write.text? = some t) :
    l.opening <+: t := by
  unfold Node.write at h
  split at h
  · split at h
    · exact Option.some.inj h ▸ List.prefix_append _ _
    · cases h
  · obtain ⟨u, hu, hprefix⟩ := text?_andThen h
    obtain ⟨v, -, rfl⟩ := Option.map_eq_some_iff.mp ((text?_after _ _).symm.trans hu)
    refine List.IsPrefix.trans ?_ hprefix
    simp only [List.append_assoc]
    exact List.prefix_append _ _

/-- Something is written of every node. -/
theorem text?_ne_nil (hn : n.Full) (h : n.write.text? = some t) : t ≠ [] := by
  cases hn with
  | @text u hu =>
    have hreference (c : UInt8) : (reference? c).getD [c] ≠ [] := by
      revert c
      decide +kernel
    obtain ⟨c, u, rfl⟩ := List.exists_cons_of_ne_nil hu
    exact Option.some.inj h ▸ List.append_ne_nil_of_left_ne_nil (hreference c) _
  | comment u => exact Option.some.inj h ▸ nofun
  | doctype d => exact Option.some.inj h ▸ nofun
  | @element l cs hcs =>
    obtain ⟨u, rfl⟩ := written_from_opening h
    nofun

theorem writeEach_def (ns : List Node) : writeEach ns =
    if (ns.map (·.write.text?)).all (·.isSome) then ((ns.map (·.write.text?)).filterMap id).flatten else [] := rfl

theorem writeEach_of_impossible (hn : n ∈ ns) (h : n.write = .impossible) : writeEach ns = [] := by
  rw [writeEach_def]
  refine if_neg fun hall => ?_
  have hsome := List.all_eq_true.mp hall _ (List.mem_map_of_mem hn)
  simp [h, Written.text?] at hsome

/-- What is written of one of several nodes is a part of the whole. -/
theorem infix_writeEach (h : ∀ n ∈ ns, n.write ≠ .impossible) (hn : n ∈ ns) :
    ∃ t, n.write.text? = some t ∧ t <:+: writeEach ns := by
  have hsome (n : Node) (hn : n ∈ ns) : ∃ t, n.write.text? = some t := by
    have hwrite := h n hn
    cases hw : n.write with
    | impossible => exact absurd hw hwrite
    | whole t => exact ⟨t, rfl⟩
    | final t => exact ⟨t, rfl⟩
  have hall : (ns.map (·.write.text?)).all (·.isSome) = true := by
    refine List.all_eq_true.mpr fun written hwritten => ?_
    obtain ⟨n, hn, rfl⟩ := List.mem_map.mp hwritten
    exact Option.isSome_iff_exists.mpr (hsome n hn)
  obtain ⟨t, ht⟩ := hsome n hn
  rw [writeEach_def, if_pos hall]
  refine ⟨t, ht, List.infix_of_mem_flatten (List.mem_filterMap.mpr ⟨some t, ?_, rfl⟩)⟩
  exact List.mem_map.mpr ⟨n, hn, ht⟩

/-! ### The body and the whole -/

/-- What is written of the body of a document as it is shown. -/
def bodyText (t : Text) : Text :=
  ((Node.findIn? "body" (enhanceAll (parse t))).map fun b => writeEach b.children).getD []

/-- Something is written of the body: it is there, it has content, and all of it can be written. -/
def HasBody (ns : List Node) : Prop :=
  ∃ b, Node.findIn? "body" ns = some b ∧ b.children ≠ [] ∧ ∀ n ∈ b.children, n.write ≠ .impossible

theorem bodyText_ne_nil_iff (t : Text) : bodyText t ≠ [] ↔ HasBody (enhanceAll (parse t)) := by
  unfold bodyText HasBody
  cases hb : Node.findIn? "body" (enhanceAll (parse t)) with
  | none => simp
  | some b =>
    have hfull : ∀ n ∈ b.children, n.Full := by
      have hb := Node.full_findIn? _ (full_enhanceAll _ (full_parse t)) hb
      cases hb with
      | element hcs => exact hcs
      | _ => nofun
    constructor
    · intro hne
      refine ⟨b, rfl, fun hnil => hne ?_, fun n hn himpossible => hne (writeEach_of_impossible hn himpossible)⟩
      rw [Option.map_some, Option.getD_some, hnil]
      rfl
    · rintro ⟨b', hsame, hne, hwrite⟩ hnil
      cases hsame
      obtain ⟨n, hn⟩ := List.exists_mem_of_ne_nil _ hne
      obtain ⟨u, hu, hpart⟩ := infix_writeEach hwrite hn
      have hempty : writeEach b.children = [] := hnil
      rw [hempty, List.infix_nil] at hpart
      exact text?_ne_nil (hfull n hn) hu hpart

theorem mem_enhanceAll (hn : n ∈ ns) : n.enhance ∈ enhanceAll ns := by
  induction ns with
  | nil => cases hn
  | cons m ns ih =>
    rcases List.mem_cons.mp hn with rfl | hn
    · exact List.mem_cons_self
    · exact List.mem_cons_of_mem _ (ih hn)

/-- A document as it is shown has a root too. -/
theorem exists_root_enhanceAll (t : Text) :
    ∃ (l : Label) (cs : List Node), .element l cs ∈ enhanceAll (parse t) ∧ l.name = "html" := by
  obtain ⟨l, cs, hmem, hname⟩ := exists_root t
  have hparagraph : (l.name == ("p" : Text)) = false := by
    rw [hname]
    decide
  have hmem := mem_enhanceAll hmem
  unfold Node.enhance at hmem
  rw [if_neg (by simp [hparagraph])] at hmem
  exact ⟨_, _, hmem, hname⟩

/-- A whole document is written with the tag of its root. -/
theorem html_infix_writeEach (t : Text) (h : ∀ n ∈ enhanceAll (parse t), n.write ≠ .impossible) :
    ("<html" : Text) <:+: writeEach (enhanceAll (parse t)) := by
  obtain ⟨l, cs, hmem, hname⟩ := exists_root_enhanceAll t
  obtain ⟨u, hu, hpart⟩ := infix_writeEach h hmem
  have hopening : ("<html" : Text) <+: l.opening := by
    rw [Label.opening, hname]
    exact List.prefix_append _ _
  exact (hopening.trans (written_from_opening hu)).isInfix.trans hpart

theorem enhance_eq (ht : t ≠ []) :
    enhance t = if (bodyText t).isEmpty then writeEach (enhanceAll (parse t)) else bodyText t := by
  unfold enhance
  rw [if_neg (by simpa using ht)]
  rfl

/-- What is shown is what is written of the body, unless it has no content or some of it cannot be written, and the
whole document can be. What is then shown has the tags of a document. -/
theorem enhance_body_or_document (t : Text) :
    (enhance t = bodyText t ↔ t = [] ∨ HasBody (enhanceAll (parse t)) ∨
      ∃ n ∈ enhanceAll (parse t), n.write = .impossible) ∧
    (enhance t ≠ bodyText t → bodyText t = [] ∧ ("<html" : Text) <:+: enhance t) := by
  rw [← bodyText_ne_nil_iff]
  by_cases ht : t = []
  · subst ht
    have hnothing : enhance [] = bodyText [] := by decide +kernel
    exact ⟨⟨fun _ => .inl rfl, fun _ => hnothing⟩, fun h => absurd hnothing h⟩
  by_cases hbody : bodyText t = []
  · have henhance : enhance t = writeEach (enhanceAll (parse t)) := by
      rw [enhance_eq ht, hbody]
      rfl
    rw [henhance, hbody]
    by_cases himpossible : ∃ n ∈ enhanceAll (parse t), n.write = .impossible
    · obtain ⟨n, hn, hwrite⟩ := himpossible
      have hnothing := writeEach_of_impossible hn hwrite
      exact ⟨⟨fun _ => .inr (.inr ⟨n, hn, hwrite⟩), fun _ => hnothing⟩, fun h => absurd hnothing h⟩
    · have hroot := html_infix_writeEach t fun n hn hwrite => himpossible ⟨n, hn, hwrite⟩
      have hne : writeEach (enhanceAll (parse t)) ≠ [] := fun hnil => by
        rw [hnil, List.infix_nil] at hroot
        cases hroot
      refine ⟨⟨fun h => absurd h hne, fun h => ?_⟩, fun _ => ⟨rfl, hroot⟩⟩
      rcases h with h | h | h
      · exact absurd h ht
      · exact absurd rfl h
      · exact absurd h himpossible
  · have henhance : enhance t = bodyText t := by
      rw [enhance_eq ht, if_neg (by simpa using hbody)]
    exact ⟨⟨fun _ => .inr (.inl hbody), fun _ => henhance⟩, fun h => absurd henhance h⟩

/-! ### Blank texts -/

/-- White space, as it stands between the parts of a tag. -/
def Blank (t : Text) : Prop := ∀ c ∈ t, isGap c = true

theorem Blank.normalizeLines (h : Blank t) : Blank (normalizeLines t) := by
  have hfeed : isGap '\n' = true := by decide
  fun_induction Html.normalizeLines t with
  | case1 => exact h
  | case2 c hc => exact List.forall_mem_singleton.mpr hfeed
  | case3 c hc => exact h
  | case4 c d t hc hd ih => exact ih (List.forall_mem_cons.mp h).2
  | case5 c d t hc hd ih => exact List.forall_mem_cons.mpr ⟨hfeed, ih (List.forall_mem_cons.mp h).2⟩
  | case6 c d t hc ih =>
    obtain ⟨hc, ht⟩ := List.forall_mem_cons.mp h
    exact List.forall_mem_cons.mpr ⟨hc, ih ht⟩

theorem Blank.unescapeFrom (h : Blank t) (inAttribute : Bool) {fuel : Nat} (hfuel : t.length ≤ fuel) :
    unescapeFrom inAttribute fuel t = t := by
  induction t generalizing fuel with
  | nil => cases fuel <;> rfl
  | cons c t ih =>
    obtain ⟨hc, ht⟩ := List.forall_mem_cons.mp h
    cases fuel with
    | zero => cases hfuel
    | succ fuel =>
      have hne : (c != '&') = true := by
        have hall : ∀ c : UInt8, isGap c = true → (c != '&') = true := by decide +kernel
        exact hall c hc
      rw [Html.unescapeFrom, if_pos hne, ih ht (Nat.le_of_succ_le_succ hfuel)]

theorem Blank.settle (h : Blank t) : Blank (settle t) := by
  have hlines := h.normalizeLines
  rw [Html.settle, unescape, hlines.unescapeFrom false le_rfl]
  exact hlines

theorem Blank.textRun (h : Blank t) : textRun t = (t, []) := by
  induction t with
  | nil => rfl
  | cons c t ih =>
    obtain ⟨hc, ht⟩ := List.forall_mem_cons.mp h
    have hmarkup : isMarkup (c :: t) = false := by
      have hall : ∀ c : UInt8, isGap c = true → (c == '<') = false := by decide +kernel
      cases t with
      | nil => rfl
      | cons d t => simp [isMarkup, hall c hc]
    rw [Html.textRun, hmarkup, ih ht]
    rfl

theorem Blank.next (h : Blank t) (ht : t ≠ []) (dataAllowed : Bool) :
    Token.next none dataAllowed t = (.text (Html.settle t), []) := by
  have hrun : (!t.isEmpty) = true := by simpa using ht
  simp only [Token.next, List.isEmpty_nil, Bool.not_true, Bool.false_eq_true, if_false, h.textRun, hrun, if_true]

/-- White space in front of a document is not read. -/
theorem Blank.handle (h : Blank t) (fuel : Nat) : Draft.handle (fuel + 1) (.text t) {} = {} := by
  have hrest : t.dropWhile isGap = [] := List.dropWhile_eq_nil_iff.mpr h
  have hstep : Draft.byMode (.text t) {} = ({}, none) := by
    show Draft.initial (.text t) {} = ({}, none)
    simp only [Draft.initial, hrest, List.isEmpty_nil, if_true, Draft.handled]
  rw [Draft.handle, unopened_start.isForeign_eq, if_neg Bool.false_ne_true, hstep]

theorem Blank.parse (h : Blank t) (ht : t ≠ []) : parse t =
    (Draft.handle 64 .stop {}).nodes (Draft.handle 64 .stop {}).entries.size
      ((Draft.handle 64 .stop {}).entry 0).children := by
  have htokens : readTokens (t.length + 1) none t {} = Draft.handle 64 .stop {} := by
    obtain ⟨n, hn⟩ := Nat.exists_eq_succ_of_ne_zero (List.length_pos_iff.mpr ht).ne'
    have hstart : readTokens (t.length + 1) none t {} = readTokens t.length none [] {} := by
      rw [readTokens, h.next ht]
      have hread : Draft.handle 64 (.text (Html.settle t)) {} = {} := h.settle.handle 63
      show readTokens t.length (if (Draft.handle 64 (.text (Html.settle t)) {}).plainNext then none else none) []
        (Draft.handle 64 (.text (Html.settle t)) {}) = readTokens t.length none [] {}
      rw [hread]
      rfl
    rw [hstart, hn]
    rfl
  rw [Html.parse, htokens]

/-- Of white space the tags of a document are all that is shown. -/
theorem enhance_blank (ht : t ≠ []) (hblank : Blank t) : enhance t = "<html><head></head><body></body></html>" := by
  have hparse : parse t = parse " " := by
    rw [hblank.parse ht, Blank.parse (t := " ") (by unfold Blank; decide +kernel) (by decide)]
  have hsame : enhance t = enhance " " := by
    have hempty : t.isEmpty = false := by simpa using ht
    unfold enhance
    rw [hparse, hempty]
    rfl
  rw [hsame]
  decide +kernel

theorem blank_shown_as_document : bodyText " " = [] ∧ enhance " " = "<html><head></head><body></body></html>" := by
  decide +kernel

end Html

end Marginalia
