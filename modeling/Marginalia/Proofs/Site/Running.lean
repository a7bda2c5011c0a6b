import Marginalia.Proofs.Page.Template
import Marginalia.Site.Publish

/-!
What the steps of a building do to a site: one equation for each way of putting steps together, and what is kept
by a step is kept by the steps made of it.
-/

namespace Marginalia

namespace Site

variable {ε ε' α β : Type} {s s' : Site}

/-! ### Putting steps together -/

@[simp] theorem run_pure (s : Site) (a : α) : s.run (pure a : Build ε α) = (.ok a, s) := rfl

@[simp] theorem run_throw (s : Site) (e : ε) : s.run (throw e : Build ε α) = (.error e, s) := rfl

@[simp] theorem run_set (s t : Site) : s.run (set t : Build ε Unit) = (.ok (), t) := rfl

@[simp] theorem run_change (s : Site) (f : Site → Site) : s.run (Build.change f : Build ε Unit) = (.ok (), f s) := rfl

@[simp] theorem run_lift (s : Site) (x : Except ε α) : s.run (liftM x : Build ε α) = (x, s) := rfl

@[simp] theorem run_get_bind (s : Site) (f : Site → Build ε β) : s.run (get >>= f) = s.run (f s) := rfl

theorem run_bind (s : Site) (b : Build ε α) (f : α → Build ε β) :
    s.run (b >>= f) = match s.run b with
      | (.ok a, t) => t.run (f a)
      | (.error e, t) => (.error e, t) := by
  simp only [run, ExceptT.run_bind, StateT.run_bind]
  simp only [bind]
  generalize StateT.run b.run s = r
  obtain ⟨_ | _, t⟩ := r <;> rfl

/-- Steps one after another succeed if each of them does. -/
theorem run_bind_eq_ok {b : Build ε α} {f : α → Build ε β} {c : β} :
    s.run (b >>= f) = (.ok c, s') ↔ ∃ a t, s.run b = (.ok a, t) ∧ t.run (f a) = (.ok c, s') := by
  rw [run_bind]
  rcases s.run b with ⟨_ | a, t⟩
  · simp
  · exact ⟨fun h => ⟨a, t, rfl, h⟩, fun ⟨_, _, heq, h⟩ => by cases heq; exact h⟩

theorem run_lift_bind (s : Site) (x : Except ε α) (f : α → Build ε β) :
    s.run (liftM x >>= f) = match x with
      | .ok a => s.run (f a)
      | .error e => (.error e, s) := by
  rw [run_bind, run_lift]
  cases x <;> rfl

@[simp] theorem run_change_bind (s : Site) (f : Site → Site) (b : Unit → Build ε β) :
    s.run (Build.change f >>= b) = (f s).run (b ()) := by
  rw [run_bind, run_change]

@[simp] theorem run_note (s : Site) (e : Log.Entry) : s.run (Build.note e : Build ε Unit) = (.ok (), s.note e) := rfl

@[simp] theorem run_note_bind (s : Site) (e : Log.Entry) (b : Unit → Build ε β) :
    s.run (Build.note e >>= b) = (s.note e).run (b ()) := by
  rw [run_bind, run_note]

theorem run_save (s : Site) (wrap : File.Error → ε) (path content : Text) :
    s.run (Build.save wrap path content) = match s.tree.save path content with
      | .ok tree => (.ok (), { s with tree })
      | .error e => (.error (wrap e), { s with tree := s.tree.leftBySave path }) := by
  rw [Build.save, run_get_bind, Site.save]
  cases s.tree.save path content <;> rfl

theorem run_adapt (s : Site) (f : ε → ε') (b : Build ε α) :
    s.run (ExceptT.adapt f b : Build ε' α) = ((s.run b).1.mapError f, (s.run b).2) := rfl

theorem run_adapt_eq_ok {f : ε → ε'} {b : Build ε α} {a : α} :
    s.run (ExceptT.adapt f b : Build ε' α) = (.ok a, s') ↔ s.run b = (.ok a, s') := by
  rw [run_adapt]
  rcases s.run b with ⟨_ | _, t⟩
  · constructor <;> intro h <;> cases h
  · constructor <;> intro h <;> cases h <;> rfl

theorem run_forM_cons (s : Site) (f : β → Build ε Unit) (x : β) (xs : List β) :
    s.run ((x :: xs).forM f) = s.run (f x >>= fun _ => xs.forM f) := rfl

/-! ### Writing pages -/

theorem loadPage_post : loadPage "post.html" = .ok Page.postTemplate := rfl

theorem loadPage_index : loadPage "index.html" = .ok Page.indexTemplate := rfl

theorem writePost_eq (cancelled : Bool) (p : Post) : Build.writePost Page.postTemplate cancelled p = (do
    if cancelled then throw .cancelled
    let config := (← get).config
    let path := postPath config p
    Build.save .write path (Page.post config p)
    Build.note { level := .debug, message := "wrote post"
                 fields := [("path", .text path), ("comments", .int p.commentCount)] }) := rfl

/-- The templates of both pages can be loaded. -/
theorem renderUntil_eq (off : Option Nat) : Build.renderUntil off = (do
    Build.renderBodies
    let s ← get
    Build.writePosts Page.postTemplate off s.timeline
    Build.save .write (indexPath s.config) (Page.index s.config s.timeline)
    Build.note { level := .info, message := "rendered site"
                 fields := [("output", .text s.config.outputPath), ("posts", .int s.timeline.length)] }
    Build.emit rendered) := by
  rw [Build.renderUntil, loadPage_post, loadPage_index]
  rfl

/-- A building that is called off from the beginning, or not at all, writes every page under the same condition. -/
theorem writePosts_eq_forM (page : Template) (cancelled : Bool) (posts : List Post) :
    Build.writePosts page (if cancelled then some 0 else none) posts = posts.forM (Build.writePost page cancelled) := by
  induction posts with
  | nil => rw [Build.writePosts]; rfl
  | cons p posts ih =>
    rw [Build.writePosts]
    cases cancelled <;> exact congrArg _ (funext fun _ => ih)

theorem render_eq (cancelled : Bool) : Build.render cancelled = (do
    Build.renderBodies
    let s ← get
    s.timeline.forM (Build.writePost Page.postTemplate cancelled)
    Build.save .write (indexPath s.config) (Page.index s.config s.timeline)
    Build.note { level := .info, message := "rendered site"
                 fields := [("output", .text s.config.outputPath), ("posts", .int s.timeline.length)] }
    Build.emit rendered) := by
  simp only [Build.render, renderUntil_eq, writePosts_eq_forM]

/-! ### What the log takes no part in -/

theorem note_eq (s : Site) (e : Log.Entry) :
    s.note e = { s with log := if s.logged then s.log ++ [e] else s.log } := by
  unfold note
  split <;> rfl

/-- Entries in the log change nothing but the log. -/
theorem foldl_note (entries : List Log.Entry) (s : Site) :
    entries.foldl note s = { s with log := if s.logged then s.log ++ entries else s.log } := by
  induction entries generalizing s with
  | nil => simp only [List.foldl_nil, List.append_nil, ite_self]
  | cons e entries ih =>
    rw [List.foldl_cons, ih, note_eq]
    cases hl : s.logged <;> simp

@[simp] theorem note_config (s : Site) (e : Log.Entry) : (s.note e).config = s.config := by rw [note_eq]

@[simp] theorem note_tree (s : Site) (e : Log.Entry) : (s.note e).tree = s.tree := by rw [note_eq]

@[simp] theorem note_timeline (s : Site) (e : Log.Entry) : (s.note e).timeline = s.timeline := by rw [note_eq]

@[simp] theorem note_slugPlaces (s : Site) (e : Log.Entry) : (s.note e).slugPlaces = s.slugPlaces := by rw [note_eq]

@[simp] theorem note_handlers (s : Site) (e : Log.Entry) : (s.note e).handlers = s.handlers := by rw [note_eq]

@[simp] theorem note_now (s : Site) (e : Log.Entry) : (s.note e).now = s.now := by rw [note_eq]

end Site

/-! ### What is kept -/

namespace Build

variable {ε ε' α β : Type} {P : Site → Prop}

/-- The step leaves a property of the site as it was, be it that it succeeds or fails. -/
def Keeps (P : Site → Prop) (b : Build ε α) : Prop := ∀ s, P s → P (s.run b).2

namespace Keeps

theorem pure (a : α) : Keeps P (Pure.pure a : Build ε α) := fun _ h => h

theorem throw (e : ε) : Keeps P (MonadExcept.throw e : Build ε α) := fun _ h => h

theorem get_bind {f : Site → Build ε β} (h : ∀ s, P s → P (s.run (f s)).2) : Keeps P (get >>= f) := h

theorem get_bind_keeps {f : Site → Build ε β} (h : ∀ s, Keeps P (f s)) : Keeps P (get >>= f) := fun s hs => h s s hs

theorem change {f : Site → Site} (h : ∀ s, P s → P (f s)) : Keeps P (Build.change f : Build ε Unit) := h

theorem bind {b : Build ε α} {f : α → Build ε β} (hb : Keeps P b) (hf : ∀ a, Keeps P (f a)) :
    Keeps P (b >>= f) := by
  intro s hs
  have h := hb s hs
  rw [Site.run_bind]
  generalize s.run b = r at h ⊢
  obtain ⟨_ | a, t⟩ := r
  · exact h
  · exact hf a t h

theorem forM {f : β → Build ε Unit} {xs : List β} (h : ∀ x ∈ xs, Keeps P (f x)) : Keeps P (xs.forM f) := by
  induction xs with
  | nil => exact pure ()
  | cons x xs ih => exact bind (h x List.mem_cons_self) fun _ => ih fun y hy => h y (List.mem_cons_of_mem x hy)

theorem adapt {b : Build ε α} (f : ε → ε') (hb : Keeps P b) : Keeps P (ExceptT.adapt f b : Build ε' α) := hb

theorem save {wrap : File.Error → ε} {path content : Text} (h : ∀ s tree, P s → P { s with tree }) :
    Keeps P (Build.save wrap path content) := by
  intro s hs
  rw [Site.run_save]
  cases s.tree.save path content with
  | error e => exact h s _ hs
  | ok tree => exact h s tree hs

end Keeps

end Build

end Marginalia
