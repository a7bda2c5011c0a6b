import Mathlib
import Marginalia.Site.Comments
import Marginalia.Proofs.Cache.Genuine
import Marginalia.Proofs.Text.Symbols
import Marginalia.Proofs.Thread.Placement

/-!
What is loaded for a post. A comment that was read from a file has a trimmed id, a message that is not blank, and
the rendering of its message. The comments of a post, once loaded, make a well-formed thread.
-/

namespace Marginalia

/-- Each of a list succeeds, in order. -/
theorem mapM_eq_ok_iff {α β ε : Type} {f : α → Except ε β} :
    ∀ {xs : List α} {ys : List β}, xs.mapM f = .ok ys ↔ List.Forall₂ (fun x y => f x = .ok y) xs ys
  | [], ys => by
    rw [List.forall₂_nil_left_iff]
    exact ⟨fun h => (Except.ok.inj h).symm, fun h => h ▸ rfl⟩
  | x :: xs, ys => by
    rw [List.mapM_cons, List.forall₂_cons_left_iff]
    cases hx : f x with
    | error e => exact ⟨nofun, fun ⟨_, _, hy, _⟩ => by cases hy⟩
    | ok y =>
      cases hxs : xs.mapM f with
      | error e =>
        refine ⟨nofun, fun ⟨_, ys', _, hys, _⟩ => ?_⟩
        rw [mapM_eq_ok_iff.mpr hys] at hxs
        cases hxs
      | ok ys' =>
        constructor
        · intro h
          exact ⟨y, ys', rfl, mapM_eq_ok_iff.mp hxs, (Except.ok.inj h).symm⟩
        · rintro ⟨_, ys'', hy, hys, rfl⟩
          obtain rfl := Except.ok.inj hy
          obtain rfl := Except.ok.inj (hxs.symm.trans (mapM_eq_ok_iff.mpr hys))
          rfl

theorem exists_of_mem_right {α β : Type} {R : α → β → Prop} {xs : List α} {ys : List β} (h : List.Forall₂ R xs ys)
    {y : β} (hy : y ∈ ys) : ∃ x ∈ xs, R x y := by
  obtain ⟨k, hk, rfl⟩ := List.mem_iff_getElem.mp hy
  have hk' : k < xs.length := h.length_eq ▸ hk
  exact ⟨xs[k], List.getElem_mem hk', h.get hk' hk⟩

/-! ### Comments rendered at once -/

section
variable {ε α β : Type}

theorem run_bind_id (x : ExceptT ε Id α) (f : α → ExceptT ε Id β) :
    Id.run (x >>= f).run = Id.run x.run >>= fun a => Id.run (f a).run := by
  rcases hx : Id.run x.run with e | a
  · exact congrArg (ExceptT.bindCont f) hx
  · exact congrArg (ExceptT.bindCont f) hx

theorem run_mapM_id (f : α → ExceptT ε Id β) (xs : List α) :
    Id.run (xs.mapM f).run = xs.mapM fun x => Id.run (f x).run := by
  induction xs with
  | nil => rfl
  | cons x xs ih =>
    rw [List.mapM_cons, List.mapM_cons, run_bind_id, ← ih]
    exact congrArg _ (funext fun y => run_bind_id _ _)

end
namespace Comment

theorem ofRecord_def (r : Yaml.Record) : ofRecord r =
    if (Text.trim (r.get "_id")).isEmpty then .error (.missing "_id")
    else if (Text.trim (r.get "date")).isEmpty then .error (.missing "date")
    else if (Text.trim (r.get "message")).isEmpty then .error (.missing "message")
    else match Moment.parseFreeForm? (Text.trim (r.get "date")) with
      | none => .error (.badDate (r.get "date"))
      | some moment => .ok {
          id := Text.trim (r.get "_id"), date := moment, message := r.get "message", html := renderMessage (r.get "message")
          author := Text.trim (r.get "author")
          url := Text.trim (r.get "url")
          replyingTo := Text.trim (r.get "replying_to_id") } := by
  unfold ofRecord ofRecordBy
  simp only [apply_ite ExceptT.run, apply_ite Id.run]
  cases Moment.parseFreeForm? (Text.trim (r.get "date")) <;> rfl

theorem parse_def (source : Text) : parse source =
    match Yaml.readRecord fields source with
    | .wrong => .error .unreadable
    | .absent => .error .empty
    | .record r => ofRecord r := by
  unfold parse parseBy
  cases Yaml.readRecord fields source <;> rfl

theorem load_def (t : File.Tree) (path : Text) : load t path =
    match t.readFile path with
    | .ok source =>
      match parse source with
      | .ok c => .ok c
      | .error f => .error (.comment path f)
    | .error e => if e.cause == .isDirectory then .error (.comment path .unreadable) else .error (.file e) := by
  unfold load loadBy
  cases t.readFile path with
  | ok source =>
    show (parse source).mapError (LoadError.comment path) = _
    simp only
    cases parse source <;> rfl
  | error e => cases e.cause == .isDirectory <;> rfl

theorem loadDirectory_def (t : File.Tree) (dir : Text) : loadDirectory t dir =
    match t.stat dir with
    | .error e => if e.cause == .notExist then .ok none else .error (.file e)
    | .ok .dir =>
      match filePatterns.mapM fun pattern => t.glob? (Path.join [dir, pattern]) with
      | none => .error .badPattern
      | some found => ((found.flatten.mergeSort fun a b => Text.order a b != .gt).mapM (load t)).map some
    | .ok _ => .error (.notDirectory dir) := by
  unfold loadDirectory loadDirectoryBy
  cases t.stat dir with
  | error e => cases e.cause == .notExist <;> rfl
  | ok node =>
    cases node with
    | file content => rfl
    | link target => rfl
    | dir =>
      simp only
      cases filePatterns.mapM fun pattern => t.glob? (Path.join [dir, pattern]) with
      | none => rfl
      | some found =>
        refine (run_bind_id _ _).trans ?_
        rw [run_mapM_id]
        rfl
end Comment

theorem Post.loadComments_def (tree : File.Tree) (p : Post) : p.loadComments tree =
    match Comment.loadDirectory tree p.commentsDir with
    | .error e => .error (.load e)
    | .ok found =>
      match thread (found.getD []) with
      | .error e => .error (.thread e)
      | .ok cs => .ok cs := by
  refine (run_bind_id _ _).trans ?_
  show ((Comment.loadDirectory tree p.commentsDir).mapError CommentsError.load >>= _) = _
  cases Comment.loadDirectory tree p.commentsDir with
  | error e => rfl
  | ok found =>
    show Id.run (ExceptT.run (match thread (found.getD []) with | .error e => _ | .ok cs => _)) = _
    simp only
    cases thread (found.getD []) <;> rfl

/-! ### Comments in files -/

namespace Comment

/-- A comment as a file can hold it. -/
structure Sound (c : Comment) : Prop where
  id_ne_nil : c.id ≠ []
  id_trimmed : Text.isTrimmed c.id = true
  message_not_blank : ∃ x ∈ Text.symbols c.message, x.isSpace = false
  html_eq : c.html = renderMessage c.message

/-- A shared cache gives the rendering that the comment has, unless another message with the same digest was kept. -/
theorem Sound.through_eq {c : Comment} (h : c.Sound) {uses : List RenderCache.Use}
    (hdigest : ∀ other, .keep other ∈ uses → Digest.sha256 other = Digest.sha256 c.message → other = c.message) :
    ((RenderCache.after renderMessage uses).through renderMessage c.message).1 = c.html := by
  rw [h.html_eq]
  exact (RenderCache.Genuine.after uses).through_eq hdigest

theorem ofRecord_sound {r : Yaml.Record} {c : Comment} (h : ofRecord r = .ok c) : c.Sound := by
  rw [ofRecord_def] at h
  split at h
  · cases h
  split at h
  · cases h
  split at h
  · cases h
  split at h
  · cases h
  rename_i hid _ hmessage _ _ _
  obtain rfl := Except.ok.inj h
  refine ⟨?_, Text.isTrimmed_trim _, Text.exists_not_isSpace (Bool.eq_false_of_not_eq_true hmessage), rfl⟩
  exact fun hnil => hid (List.isEmpty_iff.mpr hnil)

theorem parse_sound {source : Text} {c : Comment} (h : parse source = .ok c) : c.Sound := by
  rw [parse_def] at h
  split at h
  · cases h
  · cases h
  · exact ofRecord_sound h

theorem load_sound {t : File.Tree} {path : Text} {c : Comment} (h : load t path = .ok c) : c.Sound := by
  rw [load_def] at h
  split at h
  · split at h
    · rename_i hparse
      obtain rfl := Except.ok.inj h
      exact parse_sound hparse
    · cases h
  · split at h <;> cases h

/-- The comments of a directory are those of some files, in order. -/
theorem exists_paths_of_loadDirectory {t : File.Tree} {dir : Text} {cs : List Comment}
    (h : loadDirectory t dir = .ok (some cs)) : ∃ paths, List.Forall₂ (fun path c => load t path = .ok c) paths cs := by
  rw [loadDirectory_def] at h
  split at h
  · split at h <;> cases h
  · split at h
    · cases h
    · rename_i found _
      simp only [Except.map] at h
      split at h
      · cases h
      · rename_i cs' hload
        obtain rfl := Option.some.inj (Except.ok.inj h)
        exact ⟨_, mapM_eq_ok_iff.mp hload⟩
  · cases h

theorem loadDirectory_sound {t : File.Tree} {dir : Text} {found : Option (List Comment)}
    (h : loadDirectory t dir = .ok found) : ∀ c ∈ found.getD [], c.Sound := by
  cases found with
  | none => exact fun _ hc => nomatch hc
  | some cs =>
    obtain ⟨paths, hpaths⟩ := exists_paths_of_loadDirectory h
    intro c hc
    obtain ⟨path, -, hload⟩ := exists_of_mem_right hpaths hc
    exact load_sound hload

end Comment

/-! ### Threads -/

namespace Thread

open scoped Orders

/-- A thread as it stands with a post: the comments are sound, no two have the same id, each reply stands behind the
comment it answers and is one deeper, and replies to the same comment ascend by date and id. -/
structure WellFormed (ts : List ThreadedComment) : Prop where
  sound : ∀ t ∈ ts, t.toComment.Sound
  distinct : (ts.map (·.id)).Nodup
  linked : ∀ (i : Nat) (t : ThreadedComment), ts[i]? = some t →
    (t.replyingTo = [] ∧ t.parent = none ∧ t.depth = 0) ∨
    ∃ (k : Nat) (p : ThreadedComment), t.parent = some k ∧ k < i ∧ ts[k]? = some p ∧ p.id = t.replyingTo ∧
      t.depth = p.depth + 1
  siblings : ∀ (i j : Nat) (t u : ThreadedComment), ts[i]? = some t → ts[j]? = some u → i < j →
    t.parent = u.parent → stamp t.toComment < stamp u.toComment

section
variable {cs : List Comment} {ts : List ThreadedComment}

/-- Behind the same beginning, keys are ordered as their ends. -/
theorem stamp_lt_of_append_lt {σ : Type} [LinearOrder σ] {common : List σ} {a b : σ}
    (h : common ++ [a] < common ++ [b]) : a < b := by
  rcases lt_trichotomy a b with hlt | rfl | hgt
  · exact hlt
  · exact absurd h (lt_irrefl _)
  · exact absurd h (Parts.of_lt common hgt).lt.asymm

/-- Comments with the same parent have keys that differ in the last stamp only. -/
theorem IsThread.key_of_parent (hf : Forest cs) (h : IsThread cs ts) {t u : ThreadedComment} (ht : t ∈ ts)
    (hu : u ∈ ts) (hparent : t.parent = u.parent) :
    ∃ common, key cs t.toComment = common ++ [stamp t.toComment] ∧
      key cs u.toComment = common ++ [stamp u.toComment] := by
  rcases h.linked t ht with ⟨htop, -, hp⟩ | ⟨hne, k, p, hk, hid, -, hp⟩ <;>
    rcases h.linked u hu with ⟨htop', -, hp'⟩ | ⟨hne', k', p', hk', hid', -, hp'⟩ <;>
    rw [hp, hp'] at hparent
  · exact ⟨[], hf.key_top (h.mem_comments ht) htop, hf.key_top (h.mem_comments hu) htop'⟩
  · cases hparent
  · cases hparent
  · obtain rfl := Option.some.inj hparent
    obtain rfl := Option.some.inj (hk.symm.trans hk')
    have hmem := List.mem_of_getElem? hk
    exact ⟨_, h.key_reply hf ht hmem hne hid, h.key_reply hf hu hmem hne' hid'⟩

theorem IsThread.wellFormed (hf : Forest cs) (h : IsThread cs ts) (hsound : ∀ c ∈ cs, c.Sound) : WellFormed ts where
  sound t ht := hsound _ (h.mem_comments ht)
  distinct := by
    have hd : Distinct (ts.map (·.toComment)) := hf.distinct.perm h.perm.symm
    rwa [Distinct, List.map_map] at hd
  linked i t hi := by
    have ht := List.mem_of_getElem? hi
    rcases h.linked t ht with ⟨htop, hdepth, hp⟩ | ⟨hne, k, p, hk, hid, hdepth, hp⟩
    · exact Or.inl ⟨htop, hp, hdepth⟩
    · refine Or.inr ⟨k, p, hp, h.lt_of_key_lt hk hi ?_, hk, hid, hdepth⟩
      rw [h.key_reply hf ht (List.mem_of_getElem? hk) hne hid]
      exact lt_append_of_ne_nil _ (List.cons_ne_nil _ _)
  siblings i j t u hi hj hij hparent := by
    have hlt := h.key_lt_of_lt hi hj hij
    obtain ⟨common, ht, hu⟩ := h.key_of_parent hf (List.mem_of_getElem? hi) (List.mem_of_getElem? hj) hparent
    rw [ht, hu] at hlt
    exact stamp_lt_of_append_lt hlt

end

end Thread

/-- The comments that are loaded for a post make a well-formed thread. -/
theorem Post.loadComments_wellFormed {tree : File.Tree} {p : Post} {ts : List ThreadedComment}
    (h : p.loadComments tree = .ok ts) : Thread.WellFormed ts := by
  rw [Post.loadComments_def] at h
  split at h
  · cases h
  · rename_i found hfound
    split at h
    · cases h
    · rename_i cs hthread
      obtain rfl := Except.ok.inj h
      obtain ⟨hf, hts⟩ := Thread.isThread_of_thread hthread
      exact hts.wellFormed hf (Comment.loadDirectory_sound hfound)

end Marginalia
