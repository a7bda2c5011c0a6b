import Mathlib
import Marginalia.Html.Enhance

/-!
What becomes of a document when it is shown. Images are given three attributes, and paragraphs that lead to a video make
room for its player; every other node stays what it was, where it was. Of a player only the id of the video varies, and
whatever stood in the paragraph, the id holds no octet that could be markup.
-/

namespace Marginalia

/-- What the id of a video is made of. -/
def Video.IsId (id : Text) : Prop :=
  id ≠ [] ∧ ∀ c ∈ id, 'A' ≤ c ∧ c ≤ 'Z' ∨ 'a' ≤ c ∧ c ≤ 'z' ∨ '0' ≤ c ∧ c ≤ '9' ∨ c = '-' ∨ c = '_'

theorem Video.isIdOctet_iff {c : UInt8} : isIdOctet c = true ↔
    'A' ≤ c ∧ c ≤ 'Z' ∨ 'a' ≤ c ∧ c ≤ 'z' ∨ '0' ≤ c ∧ c ≤ '9' ∨ c = '-' ∨ c = '_' := by
  simp only [isIdOctet, Text.isAlnum, Text.isLetter, Text.isUpper, Text.isLower, Text.isDigit, Bool.or_eq_true,
    Bool.and_eq_true, decide_eq_true_eq, beq_iff_eq, or_assoc]

/-- Whatever a link is, the id that it leads to is none or proper. -/
theorem Video.isId_of_ne_nil {link : Text} (h : Video.id link ≠ []) : Video.IsId (Video.id link) := by
  refine ⟨h, fun c hc => Video.isIdOctet_iff.mp ?_⟩
  unfold Video.id at hc
  split at hc
  · cases hc
  split at hc
  · rename_i hall
    exact List.all_eq_true.mp hall c hc
  · cases hc

namespace Html

variable {cs : List Node} {id : Text}

/-! ### Paragraphs -/

/-- The paragraph leads to a video: its only element is a link, and its text is the address. -/
structure Embeds (cs : List Node) (id : Text) : Prop where
  link : ∃ l content, cs.filter Node.isElement = [.element l content] ∧ l.name = "a"
  address : Text.startsWith (Text.trim (Node.allTexts cs)) "http" = true
  unbroken : (' ' : UInt8) ∉ Text.trim (Node.allTexts cs)
  id_eq : Video.id (Text.trim (Node.allTexts cs)) = id
  ne_nil : id ≠ []

theorem videoOf?_eq_some_iff : videoOf? cs = some id ↔ Embeds cs id := by
  constructor
  · intro h
    unfold videoOf? at h
    split at h
    · rename_i only honly
      simp only [Bool.and_eq_true, Bool.not_eq_true', List.contains_eq_mem, decide_eq_false_iff_not] at h
      split at h
      · rename_i hlink
        obtain ⟨⟨hname, haddress⟩, hunbroken⟩ := hlink
        split at h
        · cases h
        rename_i hne
        obtain rfl := Option.some.inj h
        have helement : only.isElement = true := (List.mem_filter.mp (honly ▸ List.mem_singleton_self only)).2
        cases only with
        | element l content =>
          exact ⟨⟨l, content, honly, by simpa [Node.isNamed] using hname⟩, haddress, hunbroken, rfl,
            by simpa using hne⟩
        | _ => cases helement
      · cases h
    · cases h
  · rintro ⟨⟨l, content, honly, hname⟩, haddress, hunbroken, rfl, hne⟩
    simp [videoOf?, honly, Node.isNamed, hname, haddress, hunbroken, hne]

theorem Embeds.isId (h : Embeds cs id) : Video.IsId id := by
  obtain ⟨-, -, -, rfl, hne⟩ := h
  exact Video.isId_of_ne_nil hne

/-! ### Players -/

theorem escape_append (t u : Text) : escape (t ++ u) = escape t ++ escape u := by
  simp [escape, Text.replaceEach]

theorem escape_of_plain {t : Text} (h : ∀ c ∈ t, reference? c = none) : escape t = t := by
  induction t with
  | nil => rfl
  | cons c t ih =>
    obtain ⟨hc, ht⟩ := List.forall_mem_cons.mp h
    have hcons : escape (c :: t) = (reference? c).getD [c] ++ escape t := rfl
    rw [hcons, hc, ih ht]
    rfl

/-- No octet of an id is written in another way. -/
theorem escape_of_isId (h : Video.IsId id) : escape id = id := by
  refine escape_of_plain fun c hc => ?_
  have hplain : ∀ d : UInt8, Video.isIdOctet d = true → reference? d = none := by
    decide +kernel
  exact hplain c (Video.isIdOctet_iff.mpr (h.2 c hc))

/-- The markup of a player in front of the id. -/
def playerFront : Text :=
  "<div class=\"video-container\"><iframe src=\"https://www.youtube-nocookie.com/embed/"

/-- The markup of a player behind the id. -/
def playerBack : Text :=
  "\" frameborder=\"0\" allowfullscreen=\"\" loading=\"lazy\" allow=\"accelerometer; clipboard-write; " ++
    ("encrypted-media; gyroscope; picture-in-picture\"></iframe></div>" : Text)

def playerMarkup (id : Text) : Text := playerFront ++ (id ++ playerBack)

/-- An element around content that can be written. -/
theorem write_element {l : Label} {t : Text} (hvoid : voidElements.contains l.name = false)
    (hplain : l.name ≠ "plaintext")
    (h : writeAll (l.space == .html && literalElements.contains l.name) cs = .whole t) :
    (Node.element l cs).write =
      .whole (l.opening ++ (">" ++ (leadingFeed l cs ++ (t ++ ("</" ++ (l.name ++ (">" : Text))))))) := by
  have hend : (l.name == Text.ofString "plaintext") = false := beq_eq_false_iff_ne.mpr hplain
  simp only [Node.write, hvoid, h, hend, Bool.and_false, Bool.false_eq_true, if_false, Written.after, Written.andThen,
    List.append_assoc]

theorem writeAll_singleton (literal : Bool) (l : Label) (cs : List Node) :
    writeAll literal [.element l cs] = (Node.element l cs).write.andThen fun _ => .whole [] := by
  cases literal <;> simp [writeAll]

/-- What an iframe has besides its source. -/
def playerAttributes : List Attribute :=
  [⟨"frameborder", "0"⟩, ⟨"allowfullscreen", ""⟩, ⟨"loading", "lazy"⟩,
    ⟨"allow", "accelerometer; clipboard-write; encrypted-media; gyroscope; picture-in-picture"⟩]

theorem write_player (h : Video.IsId id) : (player id).write = .whole (playerMarkup id) := by
  have hsource : (⟨"src", "https://www.youtube-nocookie.com/embed/" ++ id⟩ : Attribute).text =
      Text.ofString " src=\"https://www.youtube-nocookie.com/embed/" ++ (id ++ Text.ofString "\"") := by
    rw [Attribute.text, escape_append, escape_of_isId h]
    simp only [List.append_assoc]
    rfl
  have hiframe (rest : List Attribute) :
      (Node.element ⟨"iframe", .html, ⟨"src", "https://www.youtube-nocookie.com/embed/" ++ id⟩ :: rest⟩ []).write =
        .whole (Text.ofString "<iframe src=\"https://www.youtube-nocookie.com/embed/" ++
          (id ++ (Text.ofString "\"" ++ (rest.flatMap Attribute.text ++ Text.ofString "></iframe>")))) := by
    rw [write_element (t := []) (by rfl) (show Text.ofString "iframe" ≠ "plaintext" by decide) rfl, Label.opening,
      List.flatMap_cons, hsource]
    simp only [List.append_assoc]
    rfl
  have hfront : Label.opening ⟨"div", .html, [⟨"class", "video-container"⟩]⟩ ++ (Text.ofString ">" ++
      Text.ofString "<iframe src=\"https://www.youtube-nocookie.com/embed/") = playerFront := by decide +kernel
  have hback : Text.ofString "\"" ++ (playerAttributes.flatMap Attribute.text ++ (Text.ofString "></iframe>" ++
      (Text.ofString "</" ++ (Text.ofString "div" ++ Text.ofString ">")))) = playerBack := by decide +kernel
  rw [player, write_element (t := _) (by rfl) (show Text.ofString "div" ≠ "plaintext" by decide)
    ((writeAll_singleton _ _ _).trans (by rw [hiframe]; rfl)), playerMarkup, ← hfront, ← hback]
  simp only [List.append_assoc, List.append_nil, leadingFeed, List.nil_append]
  rfl

/-! ### Attributes -/

variable {before after : List Attribute} {name value : Text}

/-- The value of the first attribute of a name. -/
def value? (name : Text) (as : List Attribute) : Option Text := (as.find? (·.name == name)).map (·.value)

/-- The attributes without the first one of a name. -/
def without (as : List Attribute) (name : Text) : List Attribute := as.eraseP (·.name == name)

theorem value?_setAttribute_self (name value : Text) (as : List Attribute) :
    value? name (setAttribute name value as) = some value := by
  induction as with
  | nil => simp [setAttribute, value?]
  | cons a as ih =>
    by_cases h : a.name = name
    · simp [setAttribute, value?, h]
    · simpa [setAttribute, value?, h] using ih

theorem value?_setAttribute_of_ne {other : Text} (h : other ≠ name) (value : Text) (as : List Attribute) :
    value? other (setAttribute name value as) = value? other as := by
  induction as with
  | nil => simp [setAttribute, value?, Ne.symm h]
  | cons a as ih =>
    by_cases ha : a.name = name
    · simp [setAttribute, value?, ha, Ne.symm h]
    · by_cases hother : a.name = other
      · simp [setAttribute, value?, hother, h]
      · simpa [setAttribute, value?, ha, hother] using ih

theorem names_setAttribute (name value : Text) (as : List Attribute) :
    (setAttribute name value as).map (·.name) =
      as.map (·.name) ++ if name ∈ as.map (·.name) then [] else [name] := by
  induction as with
  | nil => rfl
  | cons a as ih =>
    by_cases h : a.name = name
    · simp [setAttribute, h]
    · simp [setAttribute, h, Ne.symm h, ih]

theorem without_setAttribute_self (name value : Text) (as : List Attribute) :
    without (setAttribute name value as) name = without as name := by
  induction as with
  | nil => simp [setAttribute, without]
  | cons a as ih =>
    by_cases h : a.name = name
    · simp [setAttribute, without, h]
    · simpa [setAttribute, without, h] using ih

theorem without_setAttribute_of_ne {other : Text} (h : other ≠ name) (value : Text) (as : List Attribute) :
    without (setAttribute name value as) other = setAttribute name value (without as other) := by
  induction as with
  | nil => simp [setAttribute, without, Ne.symm h]
  | cons a as ih =>
    by_cases ha : a.name = name
    · simp [setAttribute, without, ha, Ne.symm h]
    · by_cases hother : a.name = other
      · simp [setAttribute, without, hother, h]
      · simpa [setAttribute, without, ha, hother] using ih

/-- Attributes with several set, one after another. -/
def setAll (given as : List Attribute) : List Attribute := given.foldl (fun as a => setAttribute a.name a.value as) as

theorem value?_setAll_of_not_mem {given : List Attribute} (h : name ∉ given.map (·.name)) (as : List Attribute) :
    value? name (setAll given as) = value? name as := by
  induction given generalizing as with
  | nil => rfl
  | cons a given ih =>
    rw [List.map_cons, List.mem_cons, not_or] at h
    exact (ih h.2 _).trans (value?_setAttribute_of_ne h.1 _ _)

theorem value?_setAll {given : List Attribute} (h : (given.map (·.name)).Nodup) {a : Attribute} (ha : a ∈ given)
    (as : List Attribute) : value? a.name (setAll given as) = some a.value := by
  induction given generalizing as with
  | nil => cases ha
  | cons b given ih =>
    obtain ⟨hb, hgiven⟩ := List.nodup_cons.mp h
    rcases List.mem_cons.mp ha with rfl | ha
    · exact (value?_setAll_of_not_mem hb _).trans (value?_setAttribute_self _ _ _)
    · exact ih hgiven ha _

theorem names_setAll {given : List Attribute} (h : (given.map (·.name)).Nodup) (as : List Attribute) :
    (setAll given as).map (·.name) =
      as.map (·.name) ++ (given.map (·.name)).filter fun name => name ∉ as.map (·.name) := by
  induction given generalizing as with
  | nil => simp [setAll]
  | cons a given ih =>
    obtain ⟨ha, hgiven⟩ := List.nodup_cons.mp h
    have hrest : (given.map (·.name)).filter (fun name => name ∉ (setAttribute a.name a.value as).map (·.name)) =
        (given.map (·.name)).filter fun name => name ∉ as.map (·.name) := by
      refine List.filter_congr fun name hname => ?_
      have hne : name ≠ a.name := by
        rintro rfl
        exact ha hname
      rw [names_setAttribute]
      by_cases hmem : a.name ∈ as.map (·.name) <;> simp [hmem, hne]
    have hset : setAll (a :: given) as = setAll given (setAttribute a.name a.value as) := rfl
    rw [hset, ih hgiven, hrest, names_setAttribute, List.append_assoc, List.map_cons]
    congr 1
    by_cases hmem : a.name ∈ as.map (·.name) <;> simp only [hmem, if_true, if_false, List.nil_append, not_true,
      not_false_iff, decide_true, decide_false, List.filter_cons, Bool.false_eq_true, List.singleton_append]

theorem foldl_without_setAttribute {names : List Text} (h : name ∈ names) (value : Text) (as : List Attribute) :
    names.foldl without (setAttribute name value as) = names.foldl without as := by
  induction names generalizing as with
  | nil => cases h
  | cons other names ih =>
    by_cases heq : other = name
    · rw [List.foldl_cons, List.foldl_cons, heq, without_setAttribute_self]
    · rw [List.foldl_cons, List.foldl_cons, without_setAttribute_of_ne heq,
        ih ((List.mem_cons.mp h).resolve_left (Ne.symm heq))]

theorem foldl_without_setAll {names : List Text} {given : List Attribute} (h : ∀ a ∈ given, a.name ∈ names)
    (as : List Attribute) : names.foldl without (setAll given as) = names.foldl without as := by
  induction given generalizing as with
  | nil => rfl
  | cons a given ih =>
    obtain ⟨ha, hgiven⟩ := List.forall_mem_cons.mp h
    exact (ih hgiven _).trans (foldl_without_setAttribute ha _ _)

/-- The names of what images are given. -/
def imageNames : List Text := ["referrerpolicy", "loading", "decoding"]

/-- The attributes of an image before and after it is given its own: the first ones of three names have set values, and
those that were missing stand at the end. All others are as they were. -/
structure Dressed (before after : List Attribute) : Prop where
  referrerpolicy : value? "referrerpolicy" after = some ("no-referrer" : Text)
  loading : value? "loading" after = some ("lazy" : Text)
  decoding : value? "decoding" after = some ("async" : Text)
  names : after.map (·.name) =
    before.map (·.name) ++ imageNames.filter fun name => name ∉ before.map (·.name)
  others : imageNames.foldl without after = imageNames.foldl without before

theorem dressed (as : List Attribute) : Dressed as (setAll imageAttributes as) := by
  have hnames : imageAttributes.map (·.name) = imageNames := rfl
  have hnodup : (imageAttributes.map (·.name)).Nodup := by decide
  have hvalue {a : Attribute} (ha : a ∈ imageAttributes) : value? a.name (setAll imageAttributes as) = some a.value :=
    value?_setAll hnodup ha as
  exact
    { referrerpolicy := hvalue (a := ⟨"referrerpolicy", "no-referrer"⟩) (by simp [imageAttributes])
      loading := hvalue (a := ⟨"loading", "lazy"⟩) (by simp [imageAttributes])
      decoding := hvalue (a := ⟨"decoding", "async"⟩) (by simp [imageAttributes])
      names := names_setAll hnodup as
      others := foldl_without_setAll (fun a ha => hnames ▸ List.mem_map_of_mem ha) as }

/-! ### Documents -/

/-- A node before and after it is shown. `leads` tells which paragraphs give way to which video, and `stays` which ones
do not. -/
inductive Shown (leads : List Node → Text → Prop) (stays : List Node → Prop) : Node → Node → Prop where
  | text (t : Text) : Shown leads stays (.text t) (.text t)
  | comment (t : Text) : Shown leads stays (.comment t) (.comment t)
  | doctype (d : Doctype) : Shown leads stays (.doctype d) (.doctype d)
  | player {l : Label} {cs : List Node} {id : Text} : l.name = "p" → leads cs id → Video.IsId id →
      Shown leads stays (.element l cs) (player id)
  | image {l : Label} {cs cs' : List Node} {attributes : List Attribute} : l.name = "img" →
      Dressed l.attributes attributes → List.Forall₂ (Shown leads stays) cs cs' →
      Shown leads stays (.element l cs) (.element { l with attributes } cs')
  | element {l : Label} {cs cs' : List Node} : l.name ≠ "img" → (l.name = "p" → stays cs) →
      List.Forall₂ (Shown leads stays) cs cs' → Shown leads stays (.element l cs) (.element l cs')

variable {leads : List Node → Text → Prop} {stays : List Node → Prop}

mutual

theorem Node.shown_enhance (hleads : ∀ cs id, Embeds cs id → leads cs id)
    (hstays : ∀ cs, (∀ id, ¬Embeds cs id) → stays cs) (n : Node) : Shown leads stays n n.enhance := by
  cases n with
  | text t => exact .text t
  | comment t => exact .comment t
  | doctype d => exact .doctype d
  | element l cs =>
    have hcs := shown_enhanceAll hleads hstays cs
    unfold Node.enhance
    split
    · rename_i id hvideo
      split at hvideo
      · rename_i hname
        have hembeds := videoOf?_eq_some_iff.mp hvideo
        exact .player (beq_iff_eq.mp hname) (hleads cs id hembeds) hembeds.isId
      · cases hvideo
    · rename_i hvideo
      by_cases hname : l.name = "img"
      · have himage : (l.name == ("img" : Text)) = true := beq_iff_eq.mpr hname
        simp only [himage, if_true]
        exact .image hname (dressed l.attributes) hcs
      · have himage : (l.name == ("img" : Text)) = false := beq_eq_false_iff_ne.mpr hname
        simp only [himage, Bool.false_eq_true, if_false]
        refine .element hname (fun hparagraph => hstays cs fun id hembeds => ?_) hcs
        rw [if_pos (beq_iff_eq.mpr hparagraph), videoOf?_eq_some_iff.mpr hembeds] at hvideo
        cases hvideo

theorem shown_enhanceAll (hleads : ∀ cs id, Embeds cs id → leads cs id)
    (hstays : ∀ cs, (∀ id, ¬Embeds cs id) → stays cs) (ns : List Node) :
    List.Forall₂ (Shown leads stays) ns (enhanceAll ns) := by
  cases ns with
  | nil => exact .nil
  | cons n ns => exact .cons (n.shown_enhance hleads hstays) (shown_enhanceAll hleads hstays ns)

end

/-- Only images and paragraphs that lead to videos change when a document is shown, and players are fixed markup around
an id. -/
theorem enhanceAll_keeps_rest (ns : List Node) :
    List.Forall₂ (Shown Embeds fun cs => ∀ id, ¬Embeds cs id) ns (enhanceAll ns) ∧
    ∀ id, Video.IsId id → (player id).write = .whole (playerMarkup id) :=
  ⟨shown_enhanceAll (fun _ _ => id) (fun _ => id) ns, fun _ => write_player⟩

end Html

end Marginalia
