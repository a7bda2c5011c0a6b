import Mathlib.Data.List.Nodup
import Mathlib.Data.List.Perm.Subperm
import Marginalia.Comment.Thread
import Marginalia.Proofs.Orders

/-!
Replies among the comments of a post. The line of a comment leads down to it from a comment on the post itself;
comments with distinct ids that all have such a line form a forest. The key of a comment lists the dates and
ids along its line, and keys are compared level by level, a beginning before what it begins.
-/

namespace Marginalia.Thread
open scoped Orders

/-! ### Lines of replies -/

/-- No two comments have the same id. -/
def Distinct (cs : List Comment) : Prop := (cs.map (·.id)).Nodup

/-- The comment answers a comment that is not there. -/
def Dangles (cs : List Comment) (c : Comment) : Prop :=
  c.replyingTo ≠ [] ∧ ∀ p ∈ cs, p.id ≠ c.replyingTo

/-- `line` leads from a comment on the post itself down to `c`, and each comment of it answers the one
before. -/
inductive Lineage (cs : List Comment) : Comment → List Comment → Prop where
  | top {c : Comment} : c ∈ cs → c.replyingTo = [] → Lineage cs c [c]
  | reply {c p : Comment} {line : List Comment} : c ∈ cs → c.replyingTo ≠ [] → p.id = c.replyingTo →
      Lineage cs p line → Lineage cs c (line ++ [c])

/-- Following the replies from `c` leads to a comment on the post itself. -/
def Grounded (cs : List Comment) (c : Comment) : Prop := ∃ line, Lineage cs c line

/-- Ids are distinct, and every chain of replies ends at a comment on the post itself. -/
structure Forest (cs : List Comment) : Prop where
  distinct : Distinct cs
  grounded : ∀ c ∈ cs, Grounded cs c

section
variable {cs cs' : List Comment} {c p : Comment} {line line' : List Comment}

theorem Distinct.eq_of_id (h : Distinct cs) (hc : c ∈ cs) (hp : p ∈ cs) (hid : c.id = p.id) : c = p :=
  List.inj_on_of_nodup_map h hc hp hid

theorem Distinct.perm (h : Distinct cs) (hp : cs.Perm cs') : Distinct cs' :=
  (hp.map _).nodup_iff.mp h

namespace Lineage

theorem mem (h : Lineage cs c line) : c ∈ cs := by
  cases h <;> assumption

/-- A line depends only on which comments there are. -/
theorem mono (h : Lineage cs c line) (hsub : cs ⊆ cs') : Lineage cs' c line := by
  induction h with
  | top hc ht => exact .top (hsub hc) ht
  | reply hc hr hp _ ih => exact .reply (hsub hc) hr hp ih

theorem unique (hd : Distinct cs) (h : Lineage cs c line) (h' : Lineage cs c line') : line = line' := by
  induction h generalizing line' with
  | top _ ht =>
    cases h' with
    | top => rfl
    | reply _ hr => exact absurd ht hr
  | @reply c p line _ hr hp hline ih =>
    cases h' with
    | top _ ht => exact absurd ht hr
    | @reply _ p' line' _ _ hp' hline' =>
      obtain rfl : p = p' := hd.eq_of_id hline.mem hline'.mem (hp.trans hp'.symm)
      rw [ih hline']

/-- The line of a comment on the way is the way so far. -/
theorem of_mem (h : Lineage cs c line) {a : Comment} (ha : a ∈ line) :
    ∃ line', Lineage cs a line' ∧ line' <+: line := by
  induction h with
  | top hc ht =>
    obtain rfl := List.mem_singleton.mp ha
    exact ⟨_, .top hc ht, List.prefix_rfl⟩
  | @reply c p line hc hr hp hline ih =>
    rcases List.mem_append.mp ha with ha | ha
    · obtain ⟨line', hline', hpre⟩ := ih ha
      exact ⟨line', hline', hpre.trans (List.prefix_append _ _)⟩
    · obtain rfl := List.mem_singleton.mp ha
      exact ⟨_, .reply hc hr hp hline, List.prefix_rfl⟩

theorem subset (h : Lineage cs c line) : line ⊆ cs := fun _ ha => by
  obtain ⟨_, hline, -⟩ := h.of_mem ha
  exact hline.mem

theorem nodup (hd : Distinct cs) (h : Lineage cs c line) : line.Nodup := by
  induction h with
  | top => exact List.nodup_singleton _
  | @reply c p line hc hr hp hline ih =>
    refine List.nodup_append.mpr ⟨ih, List.nodup_singleton _, ?_⟩
    rintro a ha b hb rfl
    obtain rfl := List.mem_singleton.mp hb
    -- Met again on its own line, `a` would have a second, shorter line.
    obtain ⟨line', hline', hpre⟩ := hline.of_mem ha
    have hsame := unique hd hline' (.reply hc hr hp hline)
    have hlen := hpre.length_le
    rw [hsame, List.length_append, List.length_singleton] at hlen
    omega

theorem length_le (hd : Distinct cs) (h : Lineage cs c line) : line.length ≤ cs.length :=
  (List.subperm_of_subset (h.nodup hd) h.subset).length_le

theorem getLast? (h : Lineage cs c line) : line.getLast? = some c := by
  cases h <;> simp

theorem length_pos (h : Lineage cs c line) : 0 < line.length := by
  cases h <;> simp

end Lineage

/-! ### Computed lines -/

/-- The line of a comment, followed upwards for so many replies at most. -/
def lineageWithin (cs : List Comment) : (replies : Nat) → Comment → List Comment
  | 0, c => [c]
  | n + 1, c =>
    if c.replyingTo = [] then [c]
    else match cs.find? (·.id == c.replyingTo) with
      | none => [c]
      | some p => lineageWithin cs n p ++ [c]

/-- The line of a comment. No line has more replies than there are comments. -/
def lineage (cs : List Comment) (c : Comment) : List Comment := lineageWithin cs cs.length c

theorem find?_id (hd : Distinct cs) (hp : p ∈ cs) : cs.find? (·.id == p.id) = some p := by
  cases h : cs.find? (·.id == p.id) with
  | none => exact absurd (List.find?_eq_none.mp h p hp) (by simp)
  | some q =>
    have hid : q.id = p.id := by simpa using List.find?_some h
    rw [hd.eq_of_id (List.mem_of_find?_eq_some h) hp hid]

theorem lineageWithin_eq (hd : Distinct cs) (h : Lineage cs c line) :
    ∀ {n : Nat}, line.length ≤ n + 1 → lineageWithin cs n c = line := by
  induction h with
  | top _ ht =>
    rintro (_ | n) -
    · rfl
    · simp [lineageWithin, ht]
  | @reply c p line _ hr hp hline ih =>
    rintro (_ | n) hn
    · have := hline.length_pos
      simp only [List.length_append, List.length_singleton] at hn
      omega
    · rw [lineageWithin, if_neg hr, ← hp, find?_id hd hline.mem]
      show lineageWithin cs n p ++ [c] = line ++ [c]
      rw [ih (by simpa using hn)]

theorem lineage_eq (hd : Distinct cs) (h : Lineage cs c line) : lineage cs c = line :=
  lineageWithin_eq hd h (Nat.le_succ_of_le (h.length_le hd))

theorem Forest.lineage (hf : Forest cs) (hc : c ∈ cs) : Lineage cs c (lineage cs c) := by
  obtain ⟨line, hline⟩ := hf.grounded c hc
  rw [lineage_eq hf.distinct hline]
  exact hline

theorem Forest.perm (hf : Forest cs) (hp : cs.Perm cs') : Forest cs' where
  distinct := hf.distinct.perm hp
  grounded c hc := by
    obtain ⟨line, hline⟩ := hf.grounded c (hp.mem_iff.mpr hc)
    exact ⟨line, hline.mono hp.subset⟩

/-! ### Keys -/

/-- What orders a comment among its siblings: the instant of its date, then its id. -/
def stamp (c : Comment) : (Int ×ₗ Nat) ×ₗ Text := toLex (c.date.instant, c.id)

/-- The key of a comment: the stamps along its line, from the comment on the post down to it. -/
def key (cs : List Comment) (c : Comment) : List ((Int ×ₗ Nat) ×ₗ Text) := (lineage cs c).map stamp

theorem siblingOrder_compares (a b : Comment) : (siblingOrder a b).Compares (stamp a) (stamp b) :=
  compares_then (Moment.order_compares a.date b.date) (Text.order_compares a.id b.id)

theorem id_of_stamp {a b : Comment} (h : stamp a = stamp b) : a.id = b.id :=
  congrArg (fun s => (ofLex s).2) h

theorem Forest.key_top (hf : Forest cs) (hc : c ∈ cs) (ht : c.replyingTo = []) : key cs c = [stamp c] := by
  rw [key, lineage_eq hf.distinct (.top hc ht), List.map_singleton]

theorem Forest.key_reply (hf : Forest cs) (hc : c ∈ cs) (hp : p ∈ cs) (hr : c.replyingTo ≠ [])
    (hid : p.id = c.replyingTo) : key cs c = key cs p ++ [stamp c] := by
  rw [key, lineage_eq hf.distinct (.reply hc hr hid (hf.lineage hp)), List.map_append, List.map_singleton, key]

theorem Forest.key_perm (hf : Forest cs) (hp : cs.Perm cs') (hc : c ∈ cs) : key cs' c = key cs c := by
  rw [key, key, lineage_eq (hf.perm hp).distinct ((hf.lineage hc).mono hp.subset)]

/-- A key ends with the stamp of its own comment. -/
theorem Forest.getLast?_key (hf : Forest cs) (hc : c ∈ cs) : (key cs c).getLast? = some (stamp c) := by
  rw [key, List.getLast?_map, (hf.lineage hc).getLast?, Option.map_some]

theorem Forest.eq_of_key (hf : Forest cs) (hc : c ∈ cs) (hp : p ∈ cs) (h : key cs c = key cs p) : c = p := by
  have hlast := hf.getLast?_key hc
  rw [h, hf.getLast?_key hp, Option.some.injEq] at hlast
  exact hf.distinct.eq_of_id hc hp (id_of_stamp hlast.symm)

end

/-! ### The order of keys -/

section
variable {σ : Type} [LinearOrder σ] {k k' l l' : List σ} {a b : σ}

/-- Two keys part: at some level the first goes on with the smaller stamp. -/
def Parts (k l : List σ) : Prop := ∃ common a b, a < b ∧ common ++ [a] <+: k ∧ common ++ [b] <+: l

theorem Parts.of_lt (common : List σ) (h : a < b) : Parts (common ++ [a]) (common ++ [b]) :=
  ⟨common, a, b, h, List.prefix_rfl, List.prefix_rfl⟩

/-- Keys that part still do so with whatever follows them. -/
theorem Parts.mono (h : Parts k l) (hk : k <+: k') (hl : l <+: l') : Parts k' l' := by
  obtain ⟨common, a, b, hab, hpk, hpl⟩ := h
  exact ⟨common, a, b, hab, hpk.trans hk, hpl.trans hl⟩

theorem Parts.lt (h : Parts k l) : k < l := by
  obtain ⟨common, a, b, hab, ⟨x, rfl⟩, ⟨y, rfl⟩⟩ := h
  simp only [List.append_assoc, List.singleton_append]
  exact List.Lex.append_left _ (List.Lex.rel hab) common

theorem lt_append_of_ne_nil (k : List σ) {x : List σ} (hx : x ≠ []) : k < k ++ x := by
  obtain ⟨s, x, rfl⟩ := List.exists_cons_of_ne_nil hx
  have h := List.Lex.append_left (· < ·) (List.Lex.nil (a := s) (l := x)) k
  rwa [List.append_nil] at h

/-- Between a key and what extends it stand only keys that extend it. -/
theorem prefix_of_between {x : List σ} : ∀ {k l : List σ}, k < l → l < k ++ x → k <+: l
  | [], _, _, _ => List.nil_prefix
  | _ :: _, [], h, _ => nomatch h
  | a :: k, b :: l, h, h' => by
    rcases List.cons_lt_cons_iff.mp h with hab | ⟨rfl, hkl⟩
    · rcases List.cons_lt_cons_iff.mp h' with hba | ⟨rfl, -⟩
      · exact absurd hab hba.asymm
      · exact absurd hab (lt_irrefl _)
    · rcases List.cons_lt_cons_iff.mp h' with haa | ⟨-, hlx⟩
      · exact absurd haa (lt_irrefl _)
      · exact List.cons_prefix_cons.mpr ⟨rfl, prefix_of_between hkl hlx⟩

end

end Marginalia.Thread
