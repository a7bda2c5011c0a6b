import Mathlib
import Marginalia.Proofs.File.Path
import Marginalia.Proofs.Html.Enhancement
import Marginalia.Proofs.Text.Lines

/-!
Paragraphs that make room for a video. The text of such a paragraph is an address as a whole, whether all of it is in
the link or not, so text that stands next to the link without a gap is taken for a part of the address and is lost with
it. Where a blank stands between the two, the paragraph stays, and so it does with other white space, unless the address
has a fragment.
-/

namespace Marginalia

/-! ### Addresses -/

/-- An address without a fragment has no control characters. -/
theorem Url.parse?_eq_none {t : Text} {c : UInt8} (hc : c ∈ t) (hcontrol : c < ' ') (hfragment : ('#' : UInt8) ∉ t) :
    Url.parse? t = none := by
  have hcut : Text.cut? "#" t = none := Text.cut?_of_not_mem hfragment
  have hany : (t.any fun c : UInt8 => c < ' ' || c == 0x7f) = true :=
    List.any_eq_true.mpr ⟨c, hc, by simp [hcontrol]⟩
  rw [Url.parse?, hcut]
  simp only [Url.parseMain?, hany, if_true]

namespace Html

variable {cs : List Node} {id before inner after t u : Text} {c : UInt8}

/-! ### Text beside a link -/

/-- The only element of a paragraph is a link, and this is the text before it, in it and behind it. -/
def AroundLink (cs : List Node) (before inner after : Text) : Prop :=
  ∃ (front : List Node) (l : Label) (content back : List Node), cs = front ++ .element l content :: back ∧
    l.name = "a" ∧ (∀ n ∈ front ++ back, n.isElement = false) ∧
    before = Node.allTexts front ∧ inner = Node.allTexts content ∧ after = Node.allTexts back

/-- The paragraph is nothing but one link, apart from white space. -/
def OnlyLink (cs : List Node) : Prop :=
  ∃ before inner after, AroundLink cs before inner after ∧ Text.trim before = [] ∧ Text.trim after = []

/-- White space that ends an address: a blank, and any other one if no fragment has begun. -/
def Breaks (c : UInt8) (t : Text) : Prop := c = ' ' ∨ Text.isSpace c = true ∧ ('#' : UInt8) ∉ t

/-- Where there is text before a link or behind it, white space stands between the two. -/
structure SetApart (before inner after : Text) : Prop where
  front : Text.trim before ≠ [] → Text.trim (inner ++ after) ≠ [] ∧
    ∃ t c, before = t ++ [c] ∧ Breaks c (before ++ inner ++ after)
  back : Text.trim after ≠ [] → Text.trim (before ++ inner) ≠ [] ∧
    ∃ c t, after = c :: t ∧ Breaks c (before ++ inner ++ after)

theorem allTexts_append (ns ms : List Node) : Node.allTexts (ns ++ ms) = Node.allTexts ns ++ Node.allTexts ms := by
  induction ns with
  | nil => rfl
  | cons n ns ih => rw [List.cons_append, Node.allTexts, ih, Node.allTexts, List.append_assoc]

theorem AroundLink.allTexts (h : AroundLink cs before inner after) : Node.allTexts cs = before ++ inner ++ after := by
  obtain ⟨front, l, content, back, rfl, -, -, rfl, rfl, rfl⟩ := h
  rw [allTexts_append, Node.allTexts, Node.allText, List.append_assoc]

/-- There is one way only to tell what is before the link and behind it. -/
theorem AroundLink.sides (h : AroundLink cs before inner after) :
    before = Node.allTexts (cs.takeWhile fun n => !n.isElement) ∧
      after = Node.allTexts ((cs.dropWhile fun n => !n.isElement).drop 1) := by
  obtain ⟨front, l, content, back, rfl, -, hplain, rfl, -, rfl⟩ := h
  have hfront : ∀ n ∈ front, (!n.isElement) = true := fun n hn => by
    rw [hplain n (List.mem_append_left back hn)]
    rfl
  rw [List.takeWhile_append_of_pos hfront, List.dropWhile_append_of_pos hfront]
  simp [List.takeWhile, List.dropWhile, Node.isElement]

theorem AroundLink.onlyLink_iff (h : AroundLink cs before inner after) :
    OnlyLink cs ↔ Text.trim before = [] ∧ Text.trim after = [] := by
  constructor
  · rintro ⟨before', inner', after', h', hbefore, hafter⟩
    rw [h.sides.1, h.sides.2, ← h'.sides.1, ← h'.sides.2]
    exact ⟨hbefore, hafter⟩
  · rintro ⟨hbefore, hafter⟩
    exact ⟨before, inner, after, h, hbefore, hafter⟩

/-- The only element of a paragraph that makes room is its link. -/
theorem Embeds.aroundLink (h : Embeds cs id) : ∃ before inner after, AroundLink cs before inner after := by
  obtain ⟨l, content, honly, hname⟩ := h.link
  obtain ⟨front, back, hcs, hfront, -, hback⟩ := List.filter_eq_cons_iff.mp honly
  refine ⟨_, _, _, front, l, content, back, hcs, hname, fun n hn => ?_, rfl, rfl, rfl⟩
  rcases List.mem_append.mp hn with hn | hn
  · simpa using hfront n hn
  · simpa using List.filter_eq_nil_iff.mp hback n hn

theorem Breaks.isSpace (h : Breaks c t) : Text.isSpace c = true := by
  rcases h with rfl | ⟨hspace, -⟩
  · decide
  · exact hspace

/-- The address of a video is not broken by white space. -/
theorem Embeds.not_breaks (h : Embeds cs id) (hc : Breaks c (Node.allTexts cs)) :
    c ∉ Text.trim (Node.allTexts cs) := by
  intro hmem
  rcases hc with rfl | ⟨hspace, hfragment⟩
  · exact h.unbroken hmem
  have hcontrol : c = ' ' ∨ c < ' ' := by
    have hall : ∀ d : UInt8, Text.isSpace d = true → d = ' ' ∨ d < ' ' := by decide +kernel
    exact hall c hspace
  rcases hcontrol with rfl | hcontrol
  · exact h.unbroken hmem
  · have hnone := Url.parse?_eq_none hmem hcontrol fun hmem' => hfragment (Text.mem_of_mem_trim hmem')
    apply h.ne_nil
    rw [← h.id_eq, Video.id, hnone]

/-- White space apart, the address is all in the link exactly if other text is set apart from it. -/
theorem Embeds.setApart_iff (h : Embeds cs id) (haround : AroundLink cs before inner after) :
    SetApart before inner after ↔ Text.trim before = [] ∧ Text.trim after = [] := by
  have htext := haround.allTexts
  constructor
  · intro hapart
    constructor
    · by_contra hbefore
      obtain ⟨hbehind, t, c, rfl, hbreaks⟩ := hapart.front hbefore
      rw [Text.trim_concat hbreaks.isSpace] at hbefore
      have hmem := Text.mem_trim (Text.ascii_of_isSpace hbreaks.isSpace).1 hbefore hbehind
      rw [← htext] at hbreaks
      refine h.not_breaks hbreaks ?_
      rw [htext]
      simpa using hmem
    · by_contra hafter
      obtain ⟨hfront, c, t, rfl, hbreaks⟩ := hapart.back hafter
      rw [Text.trim_cons hbreaks.isSpace] at hafter
      have hmem := Text.mem_trim (Text.ascii_of_isSpace hbreaks.isSpace).1 hfront hafter
      rw [← htext] at hbreaks
      refine h.not_breaks hbreaks ?_
      rwa [htext]
  · rintro ⟨hbefore, hafter⟩
    exact ⟨fun hne => absurd hbefore hne, fun hne => absurd hafter hne⟩

/-! ### What is replaced -/

/-- A paragraph makes room for the video with an id: it has one link, and it is nothing but that link exactly if text
before the link or behind it is set apart from it. -/
def MakesRoom (cs : List Node) (id : Text) : Prop :=
  Embeds cs id ∧ ∃ before inner after, AroundLink cs before inner after ∧ (OnlyLink cs ↔ SetApart before inner after)

/-- Whatever the markup, only paragraphs with one link make room for a video. No text beside the link is lost if white
space that ends an address stands between the two. -/
theorem videos_replace_links (t : Text) :
    List.Forall₂ (Shown MakesRoom fun cs => ∀ id, ¬Embeds cs id) (parse t) (enhanceAll (parse t)) := by
  refine shown_enhanceAll (fun cs id h => ?_) (fun _ h => h) _
  obtain ⟨before, inner, after, haround⟩ := h.aroundLink
  exact ⟨h, before, inner, after, haround, haround.onlyLink_iff.trans (h.setApart_iff haround).symm⟩

/-! ### Text that is lost -/

mutual

def Node.decEq (n m : Node) : Decidable (n = m) :=
  match n, m with
  | .text t, .text u => decidable_of_iff (t = u) (by simp)
  | .comment t, .comment u => decidable_of_iff (t = u) (by simp)
  | .doctype d, .doctype e => decidable_of_iff (d = e) (by simp)
  | .element l cs, .element k ds =>
    have := decEqAll cs ds
    decidable_of_iff (l = k ∧ cs = ds) (by simp)
  | .text _, .comment _ | .text _, .doctype _ | .text _, .element _ _ => isFalse nofun
  | .comment _, .text _ | .comment _, .doctype _ | .comment _, .element _ _ => isFalse nofun
  | .doctype _, .text _ | .doctype _, .comment _ | .doctype _, .element _ _ => isFalse nofun
  | .element _ _, .text _ | .element _ _, .comment _ | .element _ _, .doctype _ => isFalse nofun

def decEqAll (ns ms : List Node) : Decidable (ns = ms) :=
  match ns, ms with
  | [], [] => isTrue rfl
  | n :: ns, m :: ms =>
    have := Node.decEq n m
    have := decEqAll ns ms
    decidable_of_iff (n = m ∧ ns = ms) (by simp)
  | [], _ :: _ => isFalse nofun
  | _ :: _, [] => isFalse nofun

end

instance : DecidableEq Node := Node.decEq

/-- A document with nothing but content. -/
def document (content : List Node) : List Node :=
  [.element ⟨"html", .html, []⟩ [.element ⟨"head", .html, []⟩ [], .element ⟨"body", .html, []⟩ content]]

/-- A link with a fragment, and a word on the next line. -/
def linkThenWord : List Node := [.element ⟨"a", .html, []⟩ [.text "https://youtu.be/abc#t"], .text "\nwow"]

theorem fragment_takes_text :
    parse "<p><a>https://youtu.be/abc#t</a>\nwow</p>" = document [.element ⟨"p", .html, []⟩ linkThenWord] ∧
      enhanceAll (document [.element ⟨"p", .html, []⟩ linkThenWord]) = document [player "abc"] ∧
      ¬OnlyLink linkThenWord := by
  refine ⟨by decide +kernel, by decide +kernel, ?_⟩
  rintro ⟨before, inner, after, haround, -, hafter⟩
  rw [haround.sides.2] at hafter
  exact absurd hafter (by decide +kernel)

end Html

end Marginalia
