import Mathlib
import Marginalia.Proofs.Html.Enhancement
import Marginalia.Proofs.Url

/-!
Which links lead to a video. A link does if it is an address on one of three hosts that names an id, as a parameter or as
its path, and the id holds no octet but letters, digits, hyphens and underscores. All the usual ways to write such a link
are recognized, whatever further parameters they have.
-/

namespace Marginalia

namespace Video

variable {u : Url} {i link : Text}

/-- The address is on this host, with or without `www.` in front. -/
def OnHost (u : Url) (host : Text) : Prop := u.host = host ∨ u.host = "www." ++ host

/-- The address names a video: as the first parameter `v` of the page to watch it, or as the path of a short link. -/
def Names (u : Url) (i : Text) : Prop :=
  (OnHost u "youtube.com" ∨ OnHost u "m.youtube.com") ∧ u.path = "/watch" ∧ u.First "v" i ∨
  OnHost u "youtu.be" ∧ ∃ m n, u.path = List.replicate m ('/' : UInt8) ++ i ++ List.replicate n ('/' : UInt8)

theorem onHost_iff {host : Text} (h : Text.dropStart host "www." = host) :
    OnHost u host ↔ Text.dropStart u.host "www." = host := by
  constructor
  · rintro (hhost | hhost)
    · rw [hhost, h]
    · rw [hhost, Text.dropStart, Text.after?_eq_some_iff.mpr rfl, Option.getD_some]
  · intro hhost
    rcases Text.dropStart_cases u.host "www." with heq | ⟨-, heq⟩
    · rw [hhost] at heq
      exact Or.inr heq
    · exact Or.inl (heq.symm.trans hhost)

theorem candidate_eq_iff (hi : IsId i) : candidate u = i ↔ Names u i := by
  have hslash : ('/' : UInt8) ∉ i := fun hmem => by
    have := hi.2 _ hmem
    revert this
    decide
  rw [Names, onHost_iff (by decide), onHost_iff (by decide), onHost_iff (by decide), candidate,
    ← Text.strip_eq_iff hi.1 hslash, ← Url.parameter?_eq_some_iff]
  simp only [Bool.or_eq_true, beq_iff_eq]
  by_cases hwatch : Text.dropStart u.host "www." = "youtube.com" ∨ Text.dropStart u.host "www." = "m.youtube.com"
  · have hother : Text.dropStart u.host "www." ≠ "youtu.be" := by
      rcases hwatch with h | h <;> rw [h] <;> decide
    rw [if_pos hwatch]
    split
    · rename_i hpath
      cases hparameter : u.parameter? "v" with
      | none => simp [hother, Ne.symm hi.1]
      | some value => simp [hwatch, hpath, hother]
    · rename_i hpath
      simp [hother, hpath, Ne.symm hi.1]
  · rw [if_neg hwatch]
    split
    · rename_i hshort
      exact ⟨fun h => Or.inr ⟨hshort, h⟩, fun h => h.elim (fun h => absurd h.1 hwatch) And.right⟩
    · rename_i hother
      simp [hwatch, hother, Ne.symm hi.1]

/-- The id of a link that leads to a video is what its address names, if it is proper. -/
theorem id_eq_iff (hne : i ≠ []) : Video.id link = i ↔ IsId i ∧ ∃ u, Url.parse? link = some u ∧ Names u i := by
  constructor
  · rintro rfl
    have hi := isId_of_ne_nil hne
    refine ⟨hi, ?_⟩
    unfold Video.id at hi ⊢
    split at hi
    · exact absurd rfl hi.1
    · rename_i u hu
      split at hi
      · rename_i hall
        rw [hu]
        simp only [hall, if_true]
        exact ⟨u, rfl, (candidate_eq_iff hi).mp rfl⟩
      · exact absurd rfl hi.1
  · rintro ⟨hi, u, hu, hnames⟩
    have hcandidate := (candidate_eq_iff hi).mpr hnames
    have hall : i.all isIdOctet = true := List.all_eq_true.mpr fun c hc => isIdOctet_iff.mpr (hi.2 c hc)
    rw [Video.id, hu]
    simp only [hcandidate, hall, if_true]

/-! ### Links as they are written -/

/-- A parameter as it is written. -/
def parameterText (p : Text × Text) : Text := p.1 ++ ('=' : UInt8) :: p.2

/-- Parameters as they are written. -/
def parametersText (ps : List (Text × Text)) : Text := Text.join "&" (ps.map parameterText)

/-- A parameter with a name and a value of the octets that ids are made of. -/
def Simple (p : Text × Text) : Prop := (∀ c ∈ p.1, isIdOctet c = true) ∧ ∀ c ∈ p.2, isIdOctet c = true

/-- The parameter that holds an id. -/
def idParameter (i : Text) : Text × Text := ("v", i)

/-- A usual link to the video with an id. -/
inductive Link (i : Text) : Text → Prop where
  /-- The page to watch it, with further parameters before the id and behind it. -/
  | watch {scheme www host : Text} {before after : List (Text × Text)} : scheme = "http" ∨ scheme = "https" →
      www = "" ∨ www = "www." → host = "youtube.com" ∨ host = "m.youtube.com" → (∀ p ∈ before ++ after, Simple p) →
      (∀ p ∈ before, p.1 ≠ "v") →
      Link i (scheme ++ "://" ++ www ++ host ++ "/watch?" ++ parametersText (before ++ idParameter i :: after))
  /-- A short link, with a slash behind the id or not, and with parameters or not. -/
  | short {scheme www slash tail : Text} {ps : List (Text × Text)} : scheme = "http" ∨ scheme = "https" →
      www = "" ∨ www = "www." → slash = "" ∨ slash = "/" → (∀ p ∈ ps, Simple p) →
      tail = "" ∨ tail = "?" ++ parametersText ps →
      Link i (scheme ++ "://" ++ www ++ "youtu.be/" ++ i ++ slash ++ tail)

theorem plain_of_isIdOctet {t : Text} (h : ∀ c ∈ t, isIdOctet c = true) : Url.Plain "-_" t := by
  have hsigns : Text.ofString "-_" = [('-' : UInt8), ('_' : UInt8)] := by decide
  intro c hc
  have hc := h c hc
  simp only [isIdOctet, Bool.or_eq_true, beq_iff_eq] at hc
  simp only [Url.anyOf, hsigns, List.contains_iff_mem, List.mem_cons, List.not_mem_nil, or_false]
  tauto

namespace Simple

variable {p : Text × Text} {ps : List (Text × Text)} {name value : Text}

theorem idParameter (hi : IsId i) : Simple (idParameter i) :=
  ⟨show ∀ c ∈ Text.ofString "v", isIdOctet c = true by decide +kernel, fun c hc => isIdOctet_iff.mpr (hi.2 c hc)⟩

theorem plain (h : Simple p) : Url.Plain "-_=" (parameterText p) :=
  .append ((plain_of_isIdOctet h.1).mono (by decide +kernel))
    (List.forall_mem_cons.mpr ⟨Or.inr (by decide +kernel), (plain_of_isIdOctet h.2).mono (by decide +kernel)⟩)

theorem gives_iff (h : Simple p) : Url.Gives (parameterText p) name value ↔ p = (name, value) := by
  have hself : ∀ t : Text, (∀ c ∈ t, isIdOctet c = true) → Url.unescape? .query t = some t := fun t ht =>
    have hplain := plain_of_isIdOctet ht
    Url.unescape?_of_plain (hplain.not_mem (by decide +kernel) (by decide +kernel))
      (hplain.not_mem (by decide +kernel) (by decide +kernel)) nofun
  have hsides : Url.sides (parameterText p) = p :=
    Url.sides_append ((plain_of_isIdOctet h.1).not_mem (by decide +kernel) (by decide +kernel)) p.2
  rw [Url.gives_iff, hsides, hself _ h.1, hself _ h.2, Option.some_inj, Option.some_inj, Prod.ext_iff]
  refine ⟨fun hgives => hgives.2.2, fun heq => ⟨?_, h.plain.not_mem (by decide +kernel) (by decide +kernel), heq⟩⟩
  simp [parameterText]

theorem parameters_plain (h : ∀ p ∈ ps, Simple p) : Url.Plain "-_=&" (parametersText ps) := by
  intro c hc
  rcases Text.mem_of_mem_join hc with hc | ⟨t, ht, hc⟩
  · exact (show Url.Plain "-_=&" "&" by decide +kernel) c hc
  · obtain ⟨p, hp, rfl⟩ := List.mem_map.mp ht
    exact ((h p hp).plain.mono (by decide +kernel)) c hc

theorem splitOn_parameters (hne : ps ≠ []) (h : ∀ p ∈ ps, Simple p) :
    Text.splitOn '&' (parametersText ps) = ps.map parameterText := by
  refine Text.splitOn_join_of_not_mem (by simpa using hne) fun t ht => ?_
  obtain ⟨p, hp, rfl⟩ := List.mem_map.mp ht
  exact (h p hp).plain.not_mem (by decide +kernel) (by decide +kernel)

end Simple

/-- The piece that holds the id is the first to give a value to its name. -/
theorem first_of_parameters {u : Url} {before after : List (Text × Text)} (hi : IsId i)
    (hsimple : ∀ p ∈ before ++ idParameter i :: after, Simple p) (hbefore : ∀ p ∈ before, p.1 ≠ "v")
    (hquery : u.query = parametersText (before ++ idParameter i :: after)) : u.First "v" i := by
  have hsplit := Simple.splitOn_parameters (by simp) hsimple
  rw [← hquery, List.map_append, List.map_cons] at hsplit
  refine ⟨_, _, _, hsplit, (Simple.idParameter hi).gives_iff.mpr rfl, fun piece hpiece other hgives => ?_⟩
  obtain ⟨p, hp, rfl⟩ := List.mem_map.mp hpiece
  have heq := (hsimple p (List.mem_append_left _ hp)).gives_iff.mp hgives
  exact hbefore p hp (congrArg Prod.fst heq)

theorem onHost_of_www {u : Url} {www host : Text} (hwww : www = "" ∨ www = "www.") (hu : u.host = www ++ host) :
    OnHost u host := by
  rcases hwww with rfl | rfl
  · exact Or.inl hu
  · exact Or.inr hu

theorem plain_of_www {www : Text} (hwww : www = "" ∨ www = "www.") : Url.Plain "." www := by
  rcases hwww with rfl | rfl <;> decide +kernel

/-- A link to a video leads to it. -/
theorem Link.id_eq (hi : IsId i) (h : Link i link) : Video.id link = i := by
  refine (id_eq_iff hi.1).mpr ⟨hi, ?_⟩
  cases h with
  | @watch scheme www host before after hscheme hwww hhost hsimple hbefore =>
    have hsimple' : ∀ p ∈ before ++ idParameter i :: after, Simple p := by
      intro p hp
      rcases List.mem_append.mp hp with hp | hp
      · exact hsimple p (List.mem_append_left _ hp)
      · rcases List.mem_cons.mp hp with rfl | hp
        · exact .idParameter hi
        · exact hsimple p (List.mem_append_right _ hp)
    have hplain : Url.Plain "." host := by
      rcases hhost with rfl | rfl <;> decide +kernel
    have hpath : Url.Plain "-_/" "watch" := by decide +kernel
    obtain ⟨u, hu, huhost, hupath, huquery⟩ :=
      Url.parse?_plain hscheme ((plain_of_www hwww).append hplain) hpath (Simple.parameters_plain hsimple') (Or.inr rfl)
    refine ⟨u, ?_, Or.inl ⟨?_, hupath, first_of_parameters hi hsimple' hbefore huquery⟩⟩
    · rw [← hu]
      congr 1
      simp only [List.append_assoc]
      rfl
    · rcases hhost with rfl | rfl
      · exact Or.inl (onHost_of_www hwww huhost)
      · exact Or.inr (onHost_of_www hwww huhost)
  | @short scheme www slash tail ps hscheme hwww hslash hsimple htail =>
    have hplain : Url.Plain "." "youtu.be" := by decide +kernel
    have hpath : Url.Plain "-_/" (i ++ slash) := by
      refine .append ((plain_of_isIdOctet fun c hc => isIdOctet_iff.mpr (hi.2 c hc)).mono (by decide +kernel)) ?_
      rcases hslash with rfl | rfl <;> decide +kernel
    obtain ⟨query, hquery, htail⟩ : ∃ query, Url.Plain "-_=&" query ∧
        (tail = [] ∧ query = [] ∨ tail = ('?' : UInt8) :: query) := by
      rcases htail with rfl | rfl
      · exact ⟨[], nofun, Or.inl ⟨rfl, rfl⟩⟩
      · exact ⟨_, Simple.parameters_plain hsimple, Or.inr rfl⟩
    obtain ⟨u, hu, huhost, hupath, -⟩ :=
      Url.parse?_plain hscheme ((plain_of_www hwww).append hplain) hpath hquery htail
    refine ⟨u, ?_, Or.inr ⟨onHost_of_www hwww huhost, ?_⟩⟩
    · rw [← hu]
      congr 1
      simp only [List.append_assoc, List.cons_append]
      rfl
    · rcases hslash with rfl | rfl
      · exact ⟨1, 0, hupath⟩
      · exact ⟨1, 1, hupath⟩

/-- The links recognized are those whose address names a proper id, and every usual link to a video is one of them. -/
theorem links_recognized :
    (∀ link i, i ≠ [] → (Video.id link = i ↔ IsId i ∧ ∃ u, Url.parse? link = some u ∧ Names u i)) ∧
      ∀ i link, IsId i → Link i link → Video.id link = i :=
  ⟨fun _ _ hne => id_eq_iff hne, fun _ _ hi h => h.id_eq hi⟩

/-- The id stands between two other parameters; what is read of the address is the host, the path and this parameter. -/
theorem links_recognized_between :
    Video.id "https://www.youtube.com/watch?t=1&v=a-B_9&list=v" = "a-B_9" ∧
      ∃ u, Url.parse? "https://www.youtube.com/watch?t=1&v=a-B_9&list=v" = some u ∧ Names u "a-B_9" := by
  have hi : IsId "a-B_9" := ⟨by decide, by decide +kernel⟩
  have hlink : Link "a-B_9" "https://www.youtube.com/watch?t=1&v=a-B_9&list=v" :=
    @Link.watch "a-B_9" "https" "www." "youtube.com" [("t", "1")] [("list", "v")] (Or.inr rfl) (Or.inr rfl) (Or.inl rfl)
      (by unfold Simple; decide +kernel) (by decide +kernel)
  have hid := links_recognized.2 _ _ hi hlink
  exact ⟨hid, ((links_recognized.1 _ _ hi.1).mp hid).2⟩

end Video

end Marginalia
