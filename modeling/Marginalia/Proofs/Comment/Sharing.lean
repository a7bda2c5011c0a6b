import Mathlib
import Marginalia.Proofs.Cache.History
import Marginalia.Proofs.Comment.Loading

/-!
Comments whose messages are rendered by way of a cache, which all who load comments share. A message is taken from the
cache if somebody has kept it there, and kept there otherwise, even if the loading fails in the end. As long as no two
messages have the same digest this makes no difference: a directory, a post, and the posts of a site with workers that
take turns in any order come out as they do when every message is rendered at once.
-/

namespace Marginalia

open RenderCache (Genuine)

variable {sources : Set Text} {α β ε ε' : Type}

/-- Given any cache of renderings of the sources, `x` results in `out` and leaves such a cache. -/
def Gives (sources : Set Text) (x : StateM RenderCache α) (out : α) : Prop :=
  ∀ c, Genuine Comment.renderMessage sources c →
    (x.run c).1 = out ∧ Genuine Comment.renderMessage sources (x.run c).2

namespace Gives

theorem pure (a : α) : Gives sources (Pure.pure a) a := fun _ hc => ⟨rfl, hc⟩

theorem bind {x : StateM RenderCache α} {a : α} {f : α → StateM RenderCache β} {b : β} (hx : Gives sources x a)
    (hf : Gives sources (f a) b) : Gives sources (x >>= f) b := by
  intro c hc
  obtain ⟨rfl, hc'⟩ := hx c hc
  exact hf _ hc'

theorem bind_run {x : ExceptT ε (StateM RenderCache) α} {r : Except ε α} {f : α → ExceptT ε (StateM RenderCache) β}
    {g : α → Except ε β} (hx : Gives sources x.run r) (hf : ∀ a, r = .ok a → Gives sources (f a).run (g a)) :
    Gives sources (x >>= f).run (r >>= g) := by
  refine Gives.bind (f := ExceptT.bindCont f) hx ?_
  cases r with
  | error e => exact .pure _
  | ok a => exact hf a rfl

theorem map {x : StateM RenderCache α} {a : α} (hx : Gives sources x a) (f : α → β) : Gives sources (f <$> x) (f a) := by
  intro c hc
  obtain ⟨rfl, hc'⟩ := hx c hc
  exact ⟨rfl, hc'⟩

theorem adapt {x : ExceptT ε (StateM RenderCache) α} {r : Except ε α} (hx : Gives sources x.run r) (f : ε → ε') :
    Gives sources (x.adapt f).run (r.mapError f) := hx.map _

theorem lift {x : StateM RenderCache α} {a : α} (hx : Gives sources x a) :
    Gives sources (ExceptT.run (ε := ε) (liftM x)) (.ok a) := hx.map _

theorem mapM {f : α → ExceptT ε (StateM RenderCache) β} {g : α → Except ε β} (xs : List α)
    (h : ∀ x ∈ xs, Gives sources (f x).run (g x)) : Gives sources (xs.mapM f).run (xs.mapM g) := by
  induction xs with
  | nil => exact .pure _
  | cons x xs ih =>
    obtain ⟨hx, hxs⟩ := List.forall_mem_cons.mp h
    rw [List.mapM_cons, List.mapM_cons]
    exact hx.bind_run fun y _ => (ih hxs).bind_run fun ys _ => .pure _

end Gives

/-! ### Comments -/

namespace Comment

variable {tree : File.Tree} {r : Yaml.Record} {source path dir : Text}

/-- The messages of all comments in files. -/
def messages (tree : File.Tree) : Set Text := {source | ∃ path c, load tree path = .ok c ∧ c.message = source}

theorem gives_renderThrough (hdigest : sources.InjOn Digest.sha256) (hsource : source ∈ sources) :
    Gives sources (renderThrough source) (renderMessage source) := fun _ hc =>
  ⟨hc.through_eq fun _ hother heq => hdigest hother hsource heq, hc.through hsource⟩

theorem gives_ofRecordBy (hdigest : sources.InjOn Digest.sha256)
    (hmessage : ∀ c, ofRecord r = .ok c → c.message ∈ sources) :
    Gives sources (ofRecordBy renderThrough r).run (ofRecord r) := by
  rw [ofRecord_def] at hmessage ⊢
  unfold ofRecordBy
  simp only
  split
  · exact .pure _
  split
  · exact .pure _
  split
  · exact .pure _
  rename_i hid hdate hblank
  cases hmoment : Moment.parseFreeForm? (Text.trim (r.get "date")) with
  | none => exact .pure _
  | some moment =>
    simp only [hid, hdate, hblank, hmoment] at hmessage
    have hhtml := (gives_renderThrough hdigest (hmessage _ rfl)).lift (ε := CommentFault)
    generalize renderMessage (r.get "message") = html at hhtml
    exact hhtml.bind_run (r := .ok html) fun _ _ => .pure _

theorem gives_parseBy (hdigest : sources.InjOn Digest.sha256)
    (hmessage : ∀ c, parse source = .ok c → c.message ∈ sources) :
    Gives sources (parseBy renderThrough source).run (parse source) := by
  rw [parse_def] at hmessage ⊢
  unfold parseBy
  cases hread : Yaml.readRecord fields source with
  | wrong => exact .pure _
  | absent => exact .pure _
  | record r => exact gives_ofRecordBy hdigest fun c hc => hmessage c (by rw [hread]; exact hc)

theorem gives_loadBy (hdigest : sources.InjOn Digest.sha256) (hmessages : messages tree ⊆ sources) (path : Text) :
    Gives sources (loadBy renderThrough tree path).run (load tree path) := by
  have hmessage : ∀ c, load tree path = .ok c → c.message ∈ sources := fun c hc => hmessages ⟨path, c, hc, rfl⟩
  unfold load loadBy at hmessage ⊢
  cases hread : tree.readFile path with
  | error e =>
    simp only
    split <;> exact .pure _
  | ok source =>
    rw [hread] at hmessage
    have hparse := gives_parseBy hdigest fun c hc => hmessage c (congrArg (Except.mapError _) hc)
    exact hparse.adapt (LoadError.comment path)

theorem gives_loadDirectoryBy (hdigest : sources.InjOn Digest.sha256) (hmessages : messages tree ⊆ sources) (dir : Text) :
    Gives sources (loadDirectoryBy renderThrough tree dir).run (loadDirectory tree dir) := by
  unfold loadDirectory loadDirectoryBy
  cases tree.stat dir with
  | error e =>
    simp only
    split <;> exact .pure _
  | ok node =>
    cases node with
    | file content => exact .pure _
    | link target => exact .pure _
    | dir =>
      cases filePatterns.mapM fun pattern => tree.glob? (Path.join [dir, pattern]) with
      | none => exact .pure _
      | some found =>
        have hloaded := Gives.mapM (found.flatten.mergeSort fun a b => Text.order a b != .gt)
          fun path _ => gives_loadBy hdigest hmessages path
        simp only [run_bind_id, run_mapM_id]
        exact hloaded.bind_run fun _ _ => .pure _

end Comment

theorem Post.gives_loadCommentsBy {tree : File.Tree} (hdigest : sources.InjOn Digest.sha256)
    (hmessages : Comment.messages tree ⊆ sources) (p : Post) :
    Gives sources (p.loadCommentsBy Comment.renderThrough tree).run (p.loadComments tree) := by
  have hload := (Comment.gives_loadDirectoryBy hdigest hmessages p.commentsDir).adapt CommentsError.load
  unfold loadComments loadCommentsBy
  rw [run_bind_id]
  refine hload.bind_run fun found _ => ?_
  cases thread (found.getD []) <;> exact .pure _

/-! ### Workers -/

namespace Site

variable {config : Config} {tree : File.Tree}

/-- Loads the comments of one post by way of the cache. -/
def processPostThrough (config : Config) (tree : File.Tree) (p : Post) : StateM RenderCache PostOutcome :=
  outcomeOf config p <$> (p.loadCommentsBy Comment.renderThrough tree).run

theorem gives_processPostThrough (hdigest : sources.InjOn Digest.sha256) (hmessages : Comment.messages tree ⊆ sources)
    (config : Config) (p : Post) : Gives sources (processPostThrough config tree p) (processPost config tree p) :=
  (p.gives_loadCommentsBy hdigest hmessages).map _

end Site

/-- Workers on the posts of a site, and the cache that they share. -/
structure SharingPool where
  pool : Pool
  cache : RenderCache

namespace SharingPool

variable {config : Config} {tree : File.Tree} {limit : Nat} {s s' : SharingPool}

/-- The post on which work is done in a turn. -/
def atWork? (pool : Pool) : Turn → Option Post
  | .take => none
  | .go place => (pool.tasks[place]?).bind fun t => if t.stage = .working then some t.post else none

/-- The workers after a turn: whoever does its work in it renders messages by way of the cache. -/
def step (config : Config) (tree : File.Tree) (limit : Nat) (s : SharingPool) (turn : Turn) : Option SharingPool :=
  let work p := (Site.processPostThrough config tree p).run s.cache
  (s.pool.step (fun p => (work p).1) limit turn).map fun pool =>
    { pool, cache := ((atWork? s.pool turn).map fun p => (work p).2).getD s.cache }

def follow (config : Config) (tree : File.Tree) (limit : Nat) (s : SharingPool) (turns : Schedule) : Option SharingPool :=
  turns.foldlM (step config tree limit) s

section
variable (hdigest : sources.InjOn Digest.sha256) (hmessages : Comment.messages tree ⊆ sources)
include hdigest hmessages

theorem step_eq (hs : Genuine Comment.renderMessage sources s.cache) (turn : Turn) :
    (s.step config tree limit turn).map (·.pool) = s.pool.step (Site.processPost config tree) limit turn := by
  have hwork : (fun p => ((Site.processPostThrough config tree p).run s.cache).1) = Site.processPost config tree :=
    funext fun p => (Site.gives_processPostThrough hdigest hmessages config p s.cache hs).1
  rw [step, hwork]
  cases s.pool.step (Site.processPost config tree) limit turn <;> rfl

theorem step_genuine (hs : Genuine Comment.renderMessage sources s.cache) {turn : Turn}
    (h : s.step config tree limit turn = some s') : Genuine Comment.renderMessage sources s'.cache := by
  obtain ⟨pool, -, rfl⟩ := Option.map_eq_some_iff.mp h
  cases hpost : atWork? s.pool turn with
  | none => simpa [hpost] using hs
  | some p => simpa [hpost] using (Site.gives_processPostThrough hdigest hmessages config p s.cache hs).2

/-- Workers that share a cache of renderings do what they do when every message is rendered at once, whatever turns they
take, and leave such a cache. -/
theorem follow_eq (hs : Genuine Comment.renderMessage sources s.cache) (turns : Schedule) :
    (s.follow config tree limit turns).map (·.pool) = s.pool.follow (Site.processPost config tree) limit turns ∧
    ∀ s', s.follow config tree limit turns = some s' → Genuine Comment.renderMessage sources s'.cache := by
  induction turns generalizing s with
  | nil => exact ⟨rfl, fun s' h => Option.some.inj h ▸ hs⟩
  | cons turn turns ih =>
    have hpool : _ = s.pool.step (Site.processPost config tree) limit turn := step_eq hdigest hmessages hs turn
    rw [follow, Pool.follow, List.foldlM_cons, List.foldlM_cons, ← hpool]
    cases hstep : s.step config tree limit turn with
    | none => exact ⟨rfl, nofun⟩
    | some s' => exact ih (step_genuine hdigest hmessages hs hstep)

end

end SharingPool

end Marginalia
