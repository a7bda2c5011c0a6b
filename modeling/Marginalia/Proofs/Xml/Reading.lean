import Mathlib
import Marginalia.Proofs.File.Path
import Marginalia.Proofs.Preview.Agreement
import Marginalia.Xml

/-!
Reading documents. The reader takes elements in each other, each with an end tag of its name, and text with
references; it takes no octet in a text for itself that could be markup. White space alone between two tags is layout.
What has been escaped is read back as it was, and no tag begins or ends in it.
-/

namespace Marginalia

namespace Xml

/-! ### References -/

def entities : List (Text × Text) := [("amp", "&"), ("lt", "<"), ("gt", ">"), ("quot", "\""), ("apos", "'")]

/-- The number that a reference gives, in decimal or behind an `x` in hexadecimal. -/
def code? (number : Text) : Option Nat :=
  match Text.after? number "x" with
  | some digits => if !digits.isEmpty && digits.all Text.isHex then some (Text.digitsValue 16 digits) else none
  | none => Text.toNat? number

/-- What a reference stands for, by what is written between its signs. -/
def reference? (name : Text) : Option Text :=
  match Text.after? name "#" with
  | some number => ((code? number).filter Nat.isValidChar).map fun n => Text.ofChar (Char.ofNat n)
  | none => entities.lookup name

/-- A text with its references resolved, from within the name of one or from outside. -/
def unescapeFrom? : (name : Option Text) → Text → Option Text
  | none, [] => some []
  | some _, [] => none
  | none, c :: t =>
    if c == '&' then unescapeFrom? (some []) t
    else if c == '<' || c == '>' then none
    else (unescapeFrom? none t).map (c :: ·)
  | some name, c :: t =>
    if c == ';' then (reference? name).bind fun u => (unescapeFrom? none t).map (u ++ ·)
    else unescapeFrom? (some (name ++ [c])) t

/-- A text with its references resolved. Markup is no text. -/
def unescape? (t : Text) : Option Text := unescapeFrom? none t

example : unescape? "a &lt; &#x62;&#59; &quot;" = some (Text.ofString "a < b; \"") := by decide

variable {t u name value attributes rest : Text}

theorem escapeMarkup_append (t u : Text) : escapeMarkup (t ++ u) = escapeMarkup t ++ escapeMarkup u := by
  simp [escapeMarkup, Text.replaceEach]

theorem escapeMarkup_of_plain (h : ∀ c ∈ t, markupReference? c = none) : escapeMarkup t = t := by
  induction t with
  | nil => rfl
  | cons c t ih =>
    have hcons : escapeMarkup (c :: t) = (markupReference? c).getD [c] ++ escapeMarkup t := rfl
    simp only [List.mem_cons, forall_eq_or_imp] at h
    rw [hcons, h.1, ih h.2]
    rfl

/-- A reference that is written for an octet is read as this octet. -/
theorem unescape?_octet (c : UInt8) (e : Text) :
    unescapeFrom? none ((markupReference? c).getD [c] ++ e) = (unescapeFrom? none e).map (c :: ·) := by
  by_cases hand : c = '&'
  · subst hand
    rfl
  by_cases hapostrophe : c = Text.apostrophe
  · subst hapostrophe
    rfl
  by_cases hless : c = '<'
  · subst hless
    rfl
  by_cases hmore : c = '>'
  · subst hmore
    rfl
  by_cases hquote : c = '"'
  · subst hquote
    rfl
  simp [markupReference?, unescapeFrom?, hand, hapostrophe, hless, hmore, hquote]

theorem unescape?_escapeMarkup (t : Text) : unescape? (escapeMarkup t) = some t := by
  induction t with
  | nil => rfl
  | cons c t ih =>
    have hcons : escapeMarkup (c :: t) = (markupReference? c).getD [c] ++ escapeMarkup t := rfl
    rw [unescape?] at ih ⊢
    rw [hcons, unescape?_octet, ih, Option.map_some]

/-- An octet that is no sign of a tag stays, or there is a reference in its place. -/
theorem markupReference?_getD (c : UInt8) :
    (markupReference? c).getD [c] ∈ (["&amp;", "&#39;", "&lt;", "&gt;", "&#34;"] : List Text) ∨
      c ≠ '<' ∧ c ≠ '>' ∧ (markupReference? c).getD [c] = [c] := by
  unfold markupReference?
  split_ifs with hand hapostrophe hless hmore hquote
  case neg => exact Or.inr ⟨fun h => hless (beq_iff_eq.mpr h), fun h => hmore (beq_iff_eq.mpr h), rfl⟩
  all_goals exact Or.inl (by simp)

theorem mem_escapeMarkup {c : UInt8} : c ∈ escapeMarkup t ↔ ∃ d ∈ t, c ∈ (markupReference? d).getD [d] :=
  List.mem_flatMap

/-- No tag begins or ends in a text that has been escaped. -/
theorem not_mem_escapeMarkup (t : Text) : ('<' : UInt8) ∉ escapeMarkup t ∧ ('>' : UInt8) ∉ escapeMarkup t := by
  have hreferences : ∀ r ∈ (["&amp;", "&#39;", "&lt;", "&gt;", "&#34;"] : List Text),
      ('<' : UInt8) ∉ r ∧ ('>' : UInt8) ∉ r := by decide
  have hoctet (c : UInt8) : ('<' : UInt8) ∉ (markupReference? c).getD [c] ∧
      ('>' : UInt8) ∉ (markupReference? c).getD [c] := by
    rcases markupReference?_getD c with h | ⟨hless, hmore, h⟩
    · exact hreferences _ h
    · simp only [h, List.mem_singleton]
      exact ⟨hless.symm, hmore.symm⟩
  simp only [mem_escapeMarkup, not_exists, not_and]
  exact ⟨fun c _ => (hoctet c).1, fun c _ => (hoctet c).2⟩

/-- What is more than white space is so when it has been escaped. -/
theorem all_isSpace_escapeMarkup {c : UInt8} (hc : c ∈ t) (hspace : Text.isSpace c = false) :
    (escapeMarkup t).all Text.isSpace = false := by
  have hreferences : ∀ r ∈ (["&amp;", "&#39;", "&lt;", "&gt;", "&#34;"] : List Text),
      r.all Text.isSpace = false := by decide
  have hoctet : ((markupReference? c).getD [c]).all Text.isSpace = false := by
    rcases markupReference?_getD c with h | ⟨-, -, h⟩
    · exact hreferences _ h
    · simp [h, hspace]
  obtain ⟨d, hd, hdspace⟩ := List.all_eq_false.mp hoctet
  exact List.all_eq_false.mpr ⟨d, mem_escapeMarkup.mpr ⟨c, hc, hd⟩, hdspace⟩

/-! ### Documents -/

/-- Can this follow the name in the tag that opens an element? An element that its first tag closes is not read. -/
def isBehindName (attributes : Text) : Bool :=
  attributes.isEmpty || (Text.startsWith attributes " " && !Text.endsWith attributes "/")

/-- The tag that opens an element, by its name and what is behind. -/
def IsTag (name attributes : Text) : Prop :=
  name ≠ [] ∧ name.all Text.isAlnum = true ∧ isBehindName attributes = true ∧
    ('<' : UInt8) ∉ attributes ∧ ('>' : UInt8) ∉ attributes

instance : Decidable (IsTag name attributes) := inferInstanceAs (Decidable (_ ∧ _ ∧ _ ∧ _ ∧ _))

/-- A part of a document. -/
inductive Node where
  | text (t : Text)
  | element (name attributes : Text) (inside : List Node)

/-- An element whose end is not read yet, with the nodes that come before it, latest first. -/
structure Frame where
  name : Text
  attributes : Text
  before : List Node

/-- How far a document has been read: the elements that are open, innermost first, and the nodes in the innermost,
latest first. -/
structure Reader where
  opened : List Frame := []
  inside : List Node := []

namespace Reader

/-- Reads a text. White space alone is layout. -/
def text? (r : Reader) (t : Text) : Option Reader :=
  if t.all Text.isSpace then some r else (unescape? t).map fun u => { r with inside := .text u :: r.inside }

/-- Reads a tag, without its signs. -/
def tag? (r : Reader) (tag : Text) : Option Reader :=
  match Text.after? tag "/" with
  | some name =>
    match r.opened with
    | frame :: opened =>
      if name = frame.name then some ⟨opened, .element name frame.attributes r.inside.reverse :: frame.before⟩ else none
    | [] => none
  | none =>
    let (name, attributes) := Text.span Text.isAlnum tag
    if !name.isEmpty && isBehindName attributes then some ⟨⟨name, attributes, r.inside⟩ :: r.opened, []⟩ else none

/-- Reads what stands between the beginning of a tag and that of the next. -/
def piece? (r : Reader) (piece : Text) : Option Reader := do
  let (tag, t) ← Text.cut? ">" piece
  (← r.tag? tag).text? t

/-- Reads on. -/
def continue? (r : Reader) (t : Text) : Option Reader :=
  match Text.splitOn '<' t with
  | [] => some r
  | lead :: pieces => (r.text? lead).bind fun r => pieces.foldlM piece? r

end Reader

def isDeclaration (tag : Text) : Bool := Text.startsWith tag "<?xml " && Text.endsWith tag "?"

/-- The nodes of a document, behind its declaration. -/
def read? (t : Text) : Option (List Node) := do
  let (tag, t) ← Text.cut? ">" t
  let r ← if isDeclaration tag then Reader.continue? {} t else none
  if r.opened.isEmpty then some r.inside.reverse else none

theorem less_eq : Text.ofString "<" = ['<'.toUInt8] := by decide

theorem more_eq : Text.ofString ">" = ['>'.toUInt8] := by decide

theorem not_mem_of_space (h : t.all Text.isSpace = true) : ('<' : UInt8) ∉ t := by
  intro hmem
  exact absurd (List.all_eq_true.mp h _ hmem) (by decide)

theorem IsTag.not_mem (h : IsTag name attributes) : ('<' : UInt8) ∉ name ∧ ('>' : UInt8) ∉ name := by
  constructor
  all_goals
    intro hmem
    exact absurd (List.all_eq_true.mp h.2.1 _ hmem) (by decide)

namespace Reader

variable {r r' : Reader} {tag before : Text}

theorem text?_space (h : t.all Text.isSpace = true) : r.text? t = some r := by
  simp [text?, h]

theorem text?_escapeMarkup {c : UInt8} (hc : c ∈ t) (hspace : Text.isSpace c = false) :
    r.text? (escapeMarkup t) = some { r with inside := .text t :: r.inside } := by
  simp [text?, all_isSpace_escapeMarkup hc hspace, unescape?_escapeMarkup]

theorem span_name (h : IsTag name attributes) : Text.span Text.isAlnum (name ++ attributes) = (name, attributes) := by
  obtain ⟨-, halnum, hbehind, -⟩ := h
  have hall := List.all_eq_true.mp halnum
  rw [Text.span, List.takeWhile_append_of_pos hall, List.dropWhile_append_of_pos hall]
  cases attributes with
  | nil => simp
  | cons c attributes =>
    simp only [isBehindName, List.isEmpty_cons, Bool.false_or, Bool.and_eq_true] at hbehind
    obtain rfl : ' '.toUInt8 = c := (List.cons_prefix_cons.mp (List.isPrefixOf_iff_prefix.mp hbehind.1)).1
    have hblank : Text.isAlnum ' ' = false := by decide
    simp [hblank]

theorem tag?_opens (h : IsTag name attributes) :
    r.tag? (name ++ attributes) = some ⟨⟨name, attributes, r.inside⟩ :: r.opened, []⟩ := by
  have hopening : Text.after? (name ++ attributes) "/" = none := by
    obtain ⟨c, name, rfl⟩ := List.exists_cons_of_ne_nil h.1
    have hc : c ≠ '/' := by
      rintro rfl
      exact absurd (List.all_eq_true.mp h.2.1 _ List.mem_cons_self) (by decide)
    simp [Path.slash_eq, Path.separator, Text.after?, hc]
  simp [tag?, hopening, span_name h, h.1, h.2.2.1]

theorem tag?_closes (frame : Frame) (opened : List Frame) (inside : List Node) :
    (⟨frame :: opened, inside⟩ : Reader).tag? ("/" ++ frame.name) =
      some ⟨opened, .element frame.name frame.attributes inside.reverse :: frame.before⟩ := by
  simp [tag?, Text.after?_append]

theorem continue?_of_not_mem (h : ('<' : UInt8) ∉ t) : r.continue? t = r.text? t := by
  simp [continue?, Text.splitOn_of_not_mem h]

/-- Text before a tag is read on its own. -/
theorem continue?_text (hbefore : ('<' : UInt8) ∉ before) (hread : r.text? before = some r') :
    r.continue? (before ++ ("<" ++ rest)) = r'.continue? ("<" ++ rest) := by
  have hnil : r'.text? [] = some r' := text?_space rfl
  simp only [continue?, less_eq, List.singleton_append, Text.splitOn_append, Text.splitOn_of_not_mem hbefore,
    Text.splitOn]
  simp [hread, hnil]

theorem continue?_tag (rest : Text) (htag : ('<' : UInt8) ∉ tag ∧ ('>' : UInt8) ∉ tag) :
    r.continue? ("<" ++ (tag ++ (">" ++ rest))) = (r.tag? tag).bind fun r => r.continue? rest := by
  cases hrest : Text.splitOn '<' rest with
  | nil => exact absurd hrest (Text.splitOn_ne_nil _ _)
  | cons lead pieces =>
    have hends : ('<' : UInt8) ∉ tag ++ ">" := by
      intro hmem
      rcases List.mem_append.mp hmem with hmem | hmem
      · exact htag.1 hmem
      · exact absurd hmem (by decide)
    have hsplit := Text.splitOn_append_of_not_mem hends hrest
    have hpiece : r.piece? (tag ++ (">" ++ lead)) = (r.tag? tag).bind fun r => r.text? lead := by
      simp [piece?, more_eq, Text.cut?_append htag.2]
    rw [List.append_assoc] at hsplit
    simp only [continue?, less_eq, List.singleton_append, Text.splitOn, beq_self_eq_true, if_true, hsplit, hrest]
    simp [text?, hpiece, Option.bind_assoc]

theorem continue?_opening (rest : Text) (htag : IsTag name attributes) (hbefore : before.all Text.isSpace = true) :
    r.continue? (before ++ ("<" ++ (name ++ attributes ++ (">" ++ rest)))) =
      continue? ⟨⟨name, attributes, r.inside⟩ :: r.opened, []⟩ rest := by
  have hsigns : ('<' : UInt8) ∉ name ++ attributes ∧ ('>' : UInt8) ∉ name ++ attributes := by
    simp [htag.not_mem, htag.2.2.2]
  rw [continue?_text (not_mem_of_space hbefore) (text?_space hbefore), continue?_tag rest hsigns, tag?_opens htag,
    Option.bind_some]

theorem continue?_closing (frame : Frame) (opened : List Frame) (inside : List Node) (rest : Text)
    (htag : IsTag frame.name frame.attributes) :
    continue? ⟨frame :: opened, inside⟩ ("<" ++ ("/" ++ (frame.name ++ (">" ++ rest)))) =
      continue? ⟨opened, .element frame.name frame.attributes inside.reverse :: frame.before⟩ rest := by
  have hsigns : ('<' : UInt8) ∉ "/" ++ frame.name ∧ ('>' : UInt8) ∉ "/" ++ frame.name := by
    obtain ⟨hless, hmore⟩ := htag.not_mem
    constructor
    all_goals
      intro hmem
      rcases List.mem_append.mp hmem with hmem | hmem
      · exact absurd hmem (by decide)
      · contradiction
  have hclosing := continue?_tag (r := ⟨frame :: opened, inside⟩) rest hsigns
  rw [tag?_closes, Option.bind_some] at hclosing
  simpa using hclosing

/-- With nodes behind those that have been read. -/
def add (r : Reader) (nodes : List Node) : Reader := { r with inside := nodes.reverse ++ r.inside }

end Reader

/-! ### Written elements -/

/-- An element as it is written around a text. -/
def tagged (name attributes t : Text) : Text := "<" ++ (name ++ attributes) ++ ">" ++ t ++ "<" ++ ("/" ++ name) ++ ">"

variable {nodes nodes' : List Node}

/-- A text shows nodes if what is read behind white space and before any other text is these nodes, layout apart. -/
def Shows (t : Text) (nodes : List Node) : Prop :=
  ∀ (r : Reader) (before rest : Text), before.all Text.isSpace = true → ∃ behind, behind.all Text.isSpace = true ∧
    r.continue? (before ++ (t ++ rest)) = (r.add nodes).continue? (behind ++ rest)

theorem Shows.space (h : t.all Text.isSpace = true) : Shows t [] := by
  intro r before rest hbefore
  refine ⟨before ++ t, by simp only [List.all_append, hbefore, h, Bool.and_self], ?_⟩
  rw [List.append_assoc]
  rfl

theorem Shows.append {t' : Text} (h : Shows t nodes) (h' : Shows t' nodes') : Shows (t ++ t') (nodes ++ nodes') := by
  intro r before rest hbefore
  obtain ⟨between, hbetween, hread⟩ := h r before (t' ++ rest) hbefore
  obtain ⟨behind, hbehind, hread'⟩ := h' (r.add nodes) between rest hbetween
  refine ⟨behind, hbehind, ?_⟩
  rw [List.append_assoc, hread, hread']
  simp [Reader.add]

theorem Shows.between (lead tail : Text) (hlead : lead.all Text.isSpace = true) (htail : tail.all Text.isSpace = true)
    (h : Shows t nodes) : Shows (lead ++ t ++ tail) nodes := by
  simpa using ((Shows.space hlead).append h).append (Shows.space htail)

/-- An element is shown if, between its tags, the text is read as the nodes in it. -/
theorem shows_tagged (htag : IsTag name attributes)
    (hinside : ∀ opened rest, Reader.continue? ⟨opened, []⟩ (t ++ ("<" ++ ("/" ++ (name ++ (">" ++ rest))))) =
      Reader.continue? ⟨opened, nodes.reverse⟩ ("<" ++ ("/" ++ (name ++ (">" ++ rest))))) :
    Shows (tagged name attributes t) [.element name attributes nodes] := by
  intro r before rest hbefore
  refine ⟨[], rfl, ?_⟩
  have hopening := r.continue?_opening (t ++ ("<" ++ ("/" ++ (name ++ (">" ++ rest))))) htag hbefore
  have hclosing := Reader.continue?_closing ⟨name, attributes, r.inside⟩ r.opened nodes.reverse rest htag
  simp only [tagged, List.append_assoc] at hopening ⊢
  rw [hopening, hinside, hclosing, List.reverse_reverse]
  rfl

theorem Shows.tagged (htag : IsTag name attributes) (h : Shows t nodes) :
    Shows (tagged name attributes t) [.element name attributes nodes] := by
  refine shows_tagged htag ?_
  intro opened rest
  obtain ⟨behind, hbehind, hread⟩ := h ⟨opened, []⟩ [] ("<" ++ ("/" ++ (name ++ (">" ++ rest)))) rfl
  rw [List.nil_append] at hread
  rw [hread, Reader.continue?_text (not_mem_of_space hbehind) (Reader.text?_space hbehind)]
  simp [Reader.add]

/-- An element around a text that has been escaped. -/
theorem shows_leaf {c : UInt8} (htag : IsTag name []) (hc : c ∈ value) (hspace : Text.isSpace c = false) :
    Shows (Xml.tagged name [] (escapeMarkup value)) [.element name [] [.text value]] := by
  refine shows_tagged htag ?_
  intro opened rest
  rw [Reader.continue?_text (not_mem_escapeMarkup value).1 (Reader.text?_escapeMarkup hc hspace)]
  rfl

theorem shows_flatMap {α : Type} {f : α → Text} {node : α → Node} (h : ∀ x, Shows (f x) [node x]) (xs : List α) :
    Shows (xs.flatMap f) (xs.map node) := by
  induction xs with
  | nil => exact Shows.space rfl
  | cons x xs ih => exact (h x).append ih

theorem Shows.read? {tag : Text} (h : Shows t nodes) (htag : isDeclaration tag = true) (hmore : ('>' : UInt8) ∉ tag) :
    Xml.read? (tag ++ (">" ++ t)) = some nodes := by
  obtain ⟨behind, hbehind, hread⟩ := h {} [] [] rfl
  simp only [List.nil_append, List.append_nil] at hread
  rw [Reader.continue?_of_not_mem (not_mem_of_space hbehind), Reader.text?_space hbehind] at hread
  simp [Xml.read?, more_eq, Text.cut?_append hmore, htag, hread, Reader.add]

example : Xml.read? "<?xml ?><a><b>1 &lt; 2</b></a>" = some [.element "a" [] [.element "b" [] [.text "1 < 2"]]] := by rfl

example : Xml.read? "<?xml ?><a><b></a></b>" = none := by rfl

end Xml

end Marginalia
