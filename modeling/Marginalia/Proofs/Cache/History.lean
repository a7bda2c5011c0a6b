import Mathlib
import Marginalia.Comment.Markup
import Marginalia.Proofs.Cache.Genuine

/-!
The history of the cache that a process keeps. Messages are rendered through it and now and then it is set up anew.
One call after another, each answers what rendering would, whatever was asked before, whatever was dropped for want of
room, and however often the cache was replaced. The same holds of calls that overlap: a call works on the cache that it
was given, even if that has been replaced in the meantime, and other calls look and store in between.
-/

namespace Marginalia.RenderCache

variable {render : Text → Text} {sources : Set Text} {c : RenderCache}

/-! ### One call after another -/

inductive Call where
  /-- A source is rendered through the cache. -/
  | render (source : Text)
  /-- The cache is replaced by an empty one. -/
  | configure (size : Int)
deriving DecidableEq, Repr

/-- What calls answer one after another, and the cache in the end. -/
def perform (render : Text → Text) : RenderCache → List Call → List Text × RenderCache
  | c, [] => ([], c)
  | c, .render source :: calls =>
    let (out, c) := c.through render source
    let (outs, c) := perform render c calls
    (out :: outs, c)
  | _, .configure size :: calls => perform render (ofSize size) calls

/-- The sources that calls render. -/
def rendered (calls : List Call) : List Text :=
  calls.filterMap fun
    | .render source => some source
    | .configure _ => none

theorem Genuine.through (h : Genuine render sources c) {source : Text} (hsource : source ∈ sources) :
    Genuine render sources (c.through render source).2 := by
  have hlook := h.lookup source
  unfold RenderCache.through
  split
  · rename_i heq
    rwa [heq] at hlook
  · rename_i heq
    rw [heq] at hlook
    exact hlook.store hsource

theorem Genuine.perform (h : Genuine render sources c) (hdigest : sources.InjOn Digest.sha256) {calls : List Call}
    (hcalls : ∀ source ∈ rendered calls, source ∈ sources) :
    (RenderCache.perform render c calls).1 = (rendered calls).map render := by
  induction calls generalizing c with
  | nil => rfl
  | cons call calls ih =>
    cases call with
    | configure size => exact ih (Genuine.ofSize size) hcalls
    | render source =>
      obtain ⟨hsource, hrest⟩ := List.forall_mem_cons.mp hcalls
      have hout : (c.through render source).1 = render source :=
        h.through_eq fun other hother heq => hdigest hother hsource heq
      show (c.through render source).1 :: (RenderCache.perform render (c.through render source).2 calls).1 = _
      rw [hout, ih (h.through hsource) hrest]
      rfl

/-! ### Calls that overlap -/

/-- A call under way: the source to be rendered, which of the caches it was given, and whether it has looked there
without success. -/
structure Pending where
  source : Text
  cache : Nat
  missed : Bool := false
deriving DecidableEq, Repr

/-- A process: the caches it has set up, the latest last, the calls under way, and what was answered for which
source. -/
structure Process where
  caches : List RenderCache := [ofSize defaultCapacity]
  calls : List Pending := []
  answers : List (Text × Text) := []

inductive Event where
  | configure (size : Int)
  /-- A call begins, and is given the cache of this moment. -/
  | call (source : Text)
  /-- The call at this place looks for its source, or else renders and keeps it. -/
  | go (place : Nat)
deriving DecidableEq, Repr

namespace Process

variable {p : Process} {pending : Pending} {out : Text}

/-- A call comes to its end with the cache that it leaves and its answer. -/
def finish (p : Process) (place : Nat) (pending : Pending) (cache : RenderCache) (out : Text) : Process :=
  { caches := p.caches.set pending.cache cache
    calls := p.calls.eraseIdx place
    answers := p.answers ++ [(pending.source, out)] }

def advance (render : Text → Text) (p : Process) (place : Nat) (pending : Pending) (cache : RenderCache) : Process :=
  if pending.missed then
    let out := render pending.source
    p.finish place pending (cache.store pending.source out) out
  else match cache.lookup pending.source with
    | (some out, cache) => p.finish place pending cache out
    | (none, cache) =>
      { p with caches := p.caches.set pending.cache cache, calls := p.calls.set place { pending with missed := true } }

def step (render : Text → Text) (p : Process) : Event → Process
  | .configure size => { p with caches := p.caches ++ [ofSize size] }
  | .call source => { p with calls := p.calls ++ [{ source, cache := p.caches.length - 1 }] }
  | .go place =>
    match p.calls[place]? with
    | none => p
    | some pending =>
      match p.caches[pending.cache]? with
      | none => p
      | some cache => p.advance render place pending cache

/-- Every cache holds renderings of the sources, the calls under way are for sources, and every answer was right. -/
structure Faithful (render : Text → Text) (sources : Set Text) (p : Process) : Prop where
  caches : ∀ c ∈ p.caches, Genuine render sources c
  calls : ∀ pending ∈ p.calls, pending.source ∈ sources
  answers : ∀ a ∈ p.answers, a.2 = render a.1

namespace Faithful

theorem start : Faithful render sources {} where
  caches c hc := by
    obtain rfl := List.mem_singleton.mp hc
    exact Genuine.ofSize _
  calls := nofun
  answers := nofun

theorem set (h : Faithful render sources p) {c : RenderCache} (hc : Genuine render sources c) (place : Nat) :
    ∀ c' ∈ p.caches.set place c, Genuine render sources c' := by
  intro c' hc'
  rcases List.mem_or_eq_of_mem_set hc' with hold | rfl
  · exact h.caches c' hold
  · exact hc

theorem finish (h : Faithful render sources p) (place : Nat) {c : RenderCache} (hc : Genuine render sources c)
    (hout : out = render pending.source) : Faithful render sources (p.finish place pending c out) where
  caches := h.set hc _
  calls other hother := h.calls other (List.mem_of_mem_eraseIdx hother)
  answers a ha := by
    rcases List.mem_append.mp ha with hold | hnew
    · exact h.answers a hold
    · obtain rfl := List.mem_singleton.mp hnew
      exact hout

theorem advance (h : Faithful render sources p) (hdigest : sources.InjOn Digest.sha256) (place : Nat)
    (hsource : pending.source ∈ sources) {c : RenderCache} (hc : Genuine render sources c) :
    Faithful render sources (p.advance render place pending c) := by
  have hlook := hc.lookup pending.source
  unfold Process.advance
  split
  · exact h.finish place (hc.store hsource) rfl
  split
  · rename_i out c' hfound
    rw [hfound] at hlook
    refine h.finish place hlook (hc.lookup_eq (fun other hother heq => hdigest hother hsource heq) ?_)
    rw [hfound]
  · rename_i c' hfound
    rw [hfound] at hlook
    refine ⟨h.set hlook _, fun other hother => ?_, h.answers⟩
    rcases List.mem_or_eq_of_mem_set hother with hold | rfl
    · exact h.calls other hold
    · exact hsource

theorem step (h : Faithful render sources p) (hdigest : sources.InjOn Digest.sha256) {e : Event}
    (hcall : ∀ source, e = .call source → source ∈ sources) : Faithful render sources (p.step render e) := by
  cases e with
  | configure size =>
    refine ⟨fun c hc => ?_, h.calls, h.answers⟩
    rcases List.mem_append.mp hc with hold | hnew
    · exact h.caches c hold
    · obtain rfl := List.mem_singleton.mp hnew
      exact Genuine.ofSize size
  | call source =>
    refine ⟨h.caches, fun pending hpending => ?_, h.answers⟩
    rcases List.mem_append.mp hpending with hold | hnew
    · exact h.calls pending hold
    · obtain rfl := List.mem_singleton.mp hnew
      exact hcall source rfl
  | go place =>
    simp only [Process.step]
    split
    · exact h
    rename_i pending hpending
    split
    · exact h
    · rename_i c hc
      exact h.advance hdigest place (h.calls pending (List.mem_of_getElem? hpending)) (h.caches c (List.mem_of_getElem? hc))

/-- After any events that are calls for the sources, every answer was right. -/
theorem run (hdigest : sources.InjOn Digest.sha256) {events : List Event}
    (hevents : ∀ source, .call source ∈ events → source ∈ sources) (h : Faithful render sources p) :
    Faithful render sources (events.foldl (Process.step render) p) := by
  induction events generalizing p with
  | nil => exact h
  | cons e events ih =>
    refine ih (fun source hsource => hevents source (List.mem_cons_of_mem e hsource)) (h.step hdigest fun source he => ?_)
    exact hevents source (he ▸ List.mem_cons_self)

end Faithful

end Process

/-! ### Every history -/

/-- Whatever the history of the cache, a message is rendered through it as it is without it, unless two messages of the
history have the same digest; and so it is if calls overlap. -/
theorem history_renders (calls : List Call) (events : List Event) :
    ({source | source ∈ rendered calls}.InjOn Digest.sha256 →
      (perform Comment.renderMessage (ofSize defaultCapacity) calls).1 = (rendered calls).map Comment.renderMessage) ∧
    ({source | .call source ∈ events}.InjOn Digest.sha256 →
      ∀ a ∈ (events.foldl (Process.step Comment.renderMessage) {}).answers, a.2 = Comment.renderMessage a.1) := by
  constructor
  · intro hdigest
    exact (Genuine.ofSize _).perform hdigest fun _ hsource => hsource
  · intro hdigest
    exact (Process.Faithful.run hdigest (fun _ hsource => hsource) Process.Faithful.start).answers

/-- A cache with room for one message is asked for two of them in turn. -/
def turns : List Call := [.configure 1, .render "a", .render "b", .render "a"]

/-- The second call finds what the first has kept, and a third keeps its message in a cache that has been replaced. -/
def overlap : List Event :=
  [.call "a", .go 0, .call "a", .go 0, .go 0, .call "b", .go 0, .configure 1, .call "a", .go 0, .go 0, .go 0]

theorem turns_render :
    (perform Comment.renderMessage (ofSize defaultCapacity) turns).1 =
      (["a", "b", "a"] : List Text).map Comment.renderMessage ∧
    ∀ a ∈ (overlap.foldl (Process.step Comment.renderMessage) {}).answers, a.2 = Comment.renderMessage a.1 := by
  have hdigest : Digest.sha256 "a" ≠ Digest.sha256 "b" := by decide +kernel
  have hpair : ({Text.ofString "a", Text.ofString "b"} : Set Text).InjOn Digest.sha256 := by
    rintro x (rfl | rfl) y (rfl | rfl) heq
    · rfl
    · exact absurd heq hdigest
    · exact absurd heq.symm hdigest
    · rfl
  obtain ⟨hinOrder, hoverlap⟩ := history_renders turns overlap
  refine ⟨hinOrder (hpair.mono ?_), hoverlap (hpair.mono ?_)⟩
  · intro source hsource
    simp only [turns, rendered, List.filterMap_cons, List.filterMap_nil, List.mem_cons, List.not_mem_nil, or_false,
      Set.mem_ofPred_eq] at hsource
    rcases hsource with rfl | rfl | rfl <;> simp
  · intro source hsource
    simp only [overlap, List.mem_cons, Event.call.injEq, reduceCtorEq, List.not_mem_nil, or_false, false_or,
      Set.mem_ofPred_eq] at hsource
    rcases hsource with rfl | rfl | rfl | rfl <;> simp

end Marginalia.RenderCache
