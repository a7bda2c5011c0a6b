import Mathlib
import Marginalia.Proofs.Pool.Turns
import Marginalia.Proofs.Site.Running

/-!
What workers make of the posts of a site, however they take turns. At the end each post has what its work made of
it, or it was left alone since an error had been reported before its turn. An error is reported exactly if the
work on some post fails, and it is the error of such a post. A single worker reports the error of the
first post that fails, after all posts before it and before all posts behind it.
-/

namespace Marginalia

/-! ### What has become of a post -/

/-- How the task of post `p` can stand: it has only ever done the work on `p`. A task over without work, or
after work that failed, was over after an error had been reported. -/
inductive Task.Tracks (work : Post → Site.PostOutcome) (calledOff : Bool) (p : Post) : Task → Prop where
  | taken : Tracks work calledOff p ⟨p, .taken⟩
  | working : Tracks work calledOff p ⟨p, .working⟩
  | failed {e : HandlerError} : (work p).error = some e → Tracks work calledOff p ⟨(work p).post, .failed e⟩
  | done : ((work p).error.isSome = true → calledOff = true) → Tracks work calledOff p ⟨(work p).post, .ended⟩
  | skipped : calledOff = true → Tracks work calledOff p ⟨p, .ended⟩

namespace Task.Tracks

variable {work : Post → Site.PostOutcome} {c c' : Bool} {p : Post} {t : Task} {m : Move}

/-- Once called off, for good. -/
theorem mono (h : Tracks work c p t) (hc : c = true → c' = true) : Tracks work c' p t := by
  cases h with
  | taken => exact .taken
  | working => exact .working
  | failed he => exact .failed he
  | done hd => exact .done (hc ∘ hd)
  | skipped hs => exact .skipped (hc hs)

theorem move (h : Tracks work c p t) (hm : t.move? work c = some m) : Tracks work (c || m.report.isSome) p m.task := by
  rcases move?_cases hm with ⟨hs, rfl⟩ | ⟨hs, he, rfl⟩ | ⟨e, hs, he, rfl⟩ | ⟨e, hs, rfl⟩ <;>
    cases h <;> cases hs
  · cases c with
    | true => exact .skipped rfl
    | false => exact .working
  · exact .done fun hsome => by rw [he] at hsome; cases hsome
  · exact .failed he
  · exact .done fun _ => Bool.or_true c

/-- Only the error of the own post is reported. -/
theorem report (h : Tracks work c p t) (hm : t.move? work c = some m) {e : HandlerError} (he : m.report = some e) :
    (work p).error = some e ∧ t = ⟨(work p).post, .failed e⟩ ∧ m.task = ⟨(work p).post, .ended⟩ := by
  rcases move?_cases hm with ⟨-, rfl⟩ | ⟨-, -, rfl⟩ | ⟨_, -, -, rfl⟩ | ⟨e', hs, rfl⟩
  · cases he
  · cases he
  · cases he
  · cases he
    cases h <;> cases hs
    exact ⟨‹_›, rfl, rfl⟩

/-- A task that was called off does no more work. -/
theorem post_of_move (h : Tracks work true p t) (hm : t.move? work true = some m) (hs : t.stage = .taken) :
    m.task = ⟨p, .ended⟩ := by
  rcases move?_cases hm with ⟨-, rfl⟩ | ⟨hs', -⟩ | ⟨_, hs', -⟩ | ⟨_, hs', -⟩
  · cases h <;> cases hs
    rfl
  all_goals rw [hs] at hs'; cases hs'

end Task.Tracks

namespace Pool

variable {work : Post → Site.PostOutcome} {limit : Nat} {posts : List Post} {pool pool' : Pool} {turn : Turn}
  {turns : Schedule}

/-! ### Any number of workers -/

theorem getElem?_concat {α : Type} {l : List α} {a b : α} {k : Nat} (h : (l ++ [a])[k]? = some b) :
    l[k]? = some b ∨ k = l.length ∧ b = a := by
  rcases Nat.lt_or_ge k l.length with hlt | hge
  · exact Or.inl (by rwa [List.getElem?_append_left hlt] at h)
  · rw [List.getElem?_append_right hge, List.getElem?_singleton] at h
    split at h
    · exact Or.inr ⟨by omega, (Option.some.inj h).symm⟩
    · cases h

/-- Posts are taken up in order, each task is that of its post, and the error is that of some post. -/
structure Tracks (work : Post → Site.PostOutcome) (posts : List Post) (pool : Pool) : Prop where
  waiting : posts.drop pool.tasks.length = pool.waiting
  tasks : ∀ (k : Nat) (t : Task), pool.tasks[k]? = some t →
    ∃ p, posts[k]? = some p ∧ t.Tracks work pool.error.isSome p
  reported : ∀ e, pool.error = some e → ∃ p ∈ posts, (work p).error = some e

namespace Tracks

theorem ofPosts (work : Post → Site.PostOutcome) (posts : List Post) : Tracks work posts (Pool.ofPosts posts) where
  waiting := rfl
  tasks := fun _ _ h => nomatch h
  reported := fun _ h => nomatch h

/-- The post that waits next is behind those taken up. -/
theorem next (h : Tracks work posts pool) {p : Post} {more : List Post} (hw : pool.waiting = p :: more) :
    posts[pool.tasks.length]? = some p := by
  have hp := congrArg (·[0]?) (h.waiting.trans hw)
  simpa only [List.getElem?_drop, Nat.add_zero, List.getElem?_cons_zero] using hp

theorem step (h : Tracks work posts pool) (hstep : pool.step work limit turn = some pool') :
    Tracks work posts pool' := by
  rcases step_cases hstep with ⟨p, more, -, hw, -, rfl⟩ | ⟨k, t, m, -, ht, hm, rfl⟩
  · refine ⟨?_, fun k t hk => ?_, h.reported⟩
    · show posts.drop (pool.tasks ++ [_]).length = more
      rw [List.length_append, List.length_singleton, ← List.drop_drop, h.waiting, hw, List.drop_one, List.tail_cons]
    · rcases getElem?_concat hk with hk | ⟨rfl, rfl⟩
      · exact h.tasks k t hk
      · exact ⟨p, h.next hw, .taken⟩
  · obtain ⟨p, hp, htrack⟩ := h.tasks k t ht
    refine ⟨?_, fun i u hi => ?_, fun e he => ?_⟩
    · show posts.drop (pool.tasks.set k m.task).length = pool.waiting
      rw [List.length_set]
      exact h.waiting
    · simp only [apply, Option.isSome_or] at hi ⊢
      rw [List.getElem?_set] at hi
      split at hi
      · rename_i hki
        subst hki
        split at hi
        · obtain rfl := Option.some.inj hi
          exact ⟨p, hp, htrack.move hm⟩
        · cases hi
      · obtain ⟨q, hq, hu⟩ := h.tasks i u hi
        exact ⟨q, hq, hu.mono fun hc => by rw [hc, Bool.true_or]⟩
    · rcases Option.or_eq_some_iff.mp he with hold | ⟨-, hnew⟩
      · exact h.reported e hold
      · exact ⟨p, List.mem_of_getElem? hp, (htrack.report hm hnew).1⟩

theorem follow (h : (Pool.ofPosts posts).follow work limit turns = some pool) : Tracks work posts pool :=
  follow_keeps (P := Tracks work posts) (fun hp hs => hp.step hs) (ofPosts work posts) h

end Tracks

/-! ### The end -/

/-- What is there of post `p` at the end: what its work made of it, or the post itself, if an error was reported
before it came to that. -/
def Ended (work : Post → Site.PostOutcome) (calledOff : Bool) (p q : Post) : Prop :=
  (q = (work p).post ∧ ((work p).error.isSome = true → calledOff = true)) ∨ (q = p ∧ calledOff = true)

theorem ended_of_tracks {c : Bool} {p : Post} {t : Task} (h : t.Tracks work c p) (hover : t.stage = .ended) :
    Ended work c p t.post := by
  cases h <;> cases hover
  · exact Or.inl ⟨rfl, ‹_›⟩
  · exact Or.inr ⟨rfl, ‹_›⟩

namespace Tracks

theorem posts_eq (h : Tracks work posts pool) (hover : pool.isOver = true) :
    pool.posts = pool.tasks.map (·.post) ∧ pool.posts.length = posts.length := by
  obtain ⟨hw, -⟩ := isOver_iff.mp hover
  have heq : pool.posts = pool.tasks.map (·.post) := by rw [Pool.posts, hw, List.append_nil]
  refine ⟨heq, ?_⟩
  rw [heq, List.length_map]
  refine Nat.le_antisymm (Nat.le_of_not_lt fun hlt => ?_) (List.drop_eq_nil_iff.mp (h.waiting.trans hw))
  obtain ⟨p, hp, -⟩ := h.tasks _ _ (List.getElem?_eq_getElem hlt)
  rw [List.getElem?_eq_none (Nat.le_refl _)] at hp
  cases hp

theorem ended (h : Tracks work posts pool) (hover : pool.isOver = true) {k : Nat} {p q : Post}
    (hp : posts[k]? = some p) (hq : pool.posts[k]? = some q) : Ended work pool.error.isSome p q := by
  obtain ⟨-, hall⟩ := isOver_iff.mp hover
  rw [(h.posts_eq hover).1, List.getElem?_map, Option.map_eq_some_iff] at hq
  obtain ⟨t, ht, rfl⟩ := hq
  obtain ⟨p', hp', htrack⟩ := h.tasks k t ht
  obtain rfl : p = p' := Option.some.inj (hp.symm.trans hp')
  exact ended_of_tracks htrack (hall t (List.mem_of_getElem? ht))

/-- An error is reported exactly if the work on some post fails. -/
theorem error_isSome_iff (h : Tracks work posts pool) (hover : pool.isOver = true) :
    pool.error.isSome = true ↔ ∃ p ∈ posts, (work p).error.isSome = true := by
  constructor
  · intro hsome
    obtain ⟨e, he⟩ := Option.isSome_iff_exists.mp hsome
    obtain ⟨p, hp, hwork⟩ := h.reported e he
    exact ⟨p, hp, Option.isSome_iff_exists.mpr ⟨e, hwork⟩⟩
  · -- A post that fails is done only after its error was reported, and skipped only after another was.
    rintro ⟨p, hp, hsome⟩
    obtain ⟨k, hk, rfl⟩ := List.mem_iff_getElem.mp hp
    have hk' : k < pool.posts.length := by rwa [(h.posts_eq hover).2]
    rcases h.ended hover (List.getElem?_eq_getElem hk) (List.getElem?_eq_getElem hk') with ⟨-, himp⟩ | ⟨-, hc⟩
    · exact himp hsome
    · exact hc

/-- If no work fails, all of it is done. -/
theorem all_done (h : Tracks work posts pool) (hover : pool.isOver = true)
    (hok : ∀ p ∈ posts, (work p).error = none) :
    pool.error = none ∧ pool.posts = posts.map fun p => (work p).post := by
  have hnone : pool.error = none := by
    rw [← Option.not_isSome_iff_eq_none, h.error_isSome_iff hover]
    rintro ⟨p, hp, hsome⟩
    rw [hok p hp] at hsome
    cases hsome
  refine ⟨hnone, List.ext_getElem (by rw [(h.posts_eq hover).2, List.length_map]) fun k hk hk' => ?_⟩
  rw [List.length_map] at hk'
  rw [List.getElem_map]
  rcases h.ended hover (List.getElem?_eq_getElem hk') (List.getElem?_eq_getElem hk) with ⟨hq, -⟩ | ⟨-, hc⟩
  · exact hq
  · rw [hnone] at hc
    cases hc

end Tracks

/-! ### A single worker -/

/-- Only the last task is under way. An error that was reported is that of the first post that fails: all
before it are done, and the tasks behind it leave their posts alone. -/
structure InOrder (work : Post → Site.PostOutcome) (posts : List Post) (pool : Pool) : Prop where
  last : ∀ (k : Nat) (t : Task), pool.tasks[k]? = some t → t.stage ≠ .ended → k + 1 = pool.tasks.length
  first : ∀ e, pool.error = some e → ∃ (j : Nat) (p : Post), posts[j]? = some p ∧ (work p).error = some e ∧
    pool.tasks[j]? = some ⟨(work p).post, .ended⟩ ∧
    (∀ i < j, ∃ q, posts[i]? = some q ∧ (work q).error = none ∧ pool.tasks[i]? = some ⟨(work q).post, .ended⟩) ∧
    ∀ (i : Nat) (t : Task), j < i → pool.tasks[i]? = some t →
      posts[i]? = some t.post ∧ (t.stage = .taken ∨ t.stage = .ended)

namespace InOrder

theorem ofPosts (work : Post → Site.PostOutcome) (posts : List Post) : InOrder work posts (Pool.ofPosts posts) where
  last := fun _ _ h => nomatch h
  first := fun _ h => nomatch h

/-- A post is taken up only when all tasks are over. -/
theorem take (h : InOrder work posts pool) (htrack : Tracks work posts pool) {p : Post} {more : List Post}
    (hw : pool.waiting = p :: more) (hactive : pool.active < 1) :
    InOrder work posts { pool with tasks := pool.tasks ++ [⟨p, .taken⟩], waiting := more } := by
  have hover := active_eq_zero_iff.mp (Nat.lt_one_iff.mp hactive)
  have hold : ∀ {k : Nat} {t : Task}, pool.tasks[k]? = some t → (pool.tasks ++ [⟨p, .taken⟩])[k]? = some t :=
    fun hk => by rw [List.getElem?_append_left (List.getElem?_eq_some_iff.mp hk).1, hk]
  refine ⟨fun k t hk hne => ?_, fun e he => ?_⟩
  · rcases getElem?_concat hk with hk | ⟨rfl, -⟩
    · exact absurd (hover t (List.mem_of_getElem? hk)) hne
    · rw [List.length_append, List.length_singleton]
  · obtain ⟨j, q, hq, hwork, hj, hbefore, hbehind⟩ := h.first e he
    refine ⟨j, q, hq, hwork, hold hj, fun i hi => ?_, fun i t hi ht => ?_⟩
    · obtain ⟨q, hq, hnone, hi⟩ := hbefore i hi
      exact ⟨q, hq, hnone, hold hi⟩
    · rcases getElem?_concat ht with ht | ⟨rfl, rfl⟩
      · exact hbehind i t hi ht
      · exact ⟨htrack.next hw, Or.inl rfl⟩

/-- Only the last task moves. -/
theorem go (h : InOrder work posts pool) (htrack : Tracks work posts pool) {k : Nat} {t : Task} {m : Move}
    (ht : pool.tasks[k]? = some t) (hm : t.move? work pool.error.isSome = some m) :
    InOrder work posts (pool.apply k m) := by
  have hk : k + 1 = pool.tasks.length := h.last k t ht (Task.ne_ended_of_move? hm)
  obtain ⟨p, hp, htask⟩ := htrack.tasks k t ht
  have hself : (pool.apply k m).tasks[k]? = some m.task := by
    rw [apply, List.getElem?_set_self (by omega)]
  have hother : ∀ {i : Nat}, i ≠ k → (pool.apply k m).tasks[i]? = pool.tasks[i]? := fun hi => by
    rw [apply, List.getElem?_set_ne (Ne.symm hi)]
  have hover : ∀ {i : Nat} {u : Task}, i ≠ k → pool.tasks[i]? = some u → u.stage = .ended := fun hi hu => by
    by_contra hne
    have := h.last _ _ hu hne
    omega
  -- An error reported before keeps its place, and the last task can only be behind it. A new error comes from the
  -- last task, and no task before it has failed, or it would have reported.
  refine ⟨fun i u hi hne => ?_, fun e he => ?_⟩
  · rcases eq_or_ne i k with rfl | hik
    · rw [apply, List.length_set]
      exact hk
    · exact absurd (hover hik (hother hik ▸ hi)) hne
  · rcases Option.or_eq_some_iff.mp he with hold | ⟨hnone, hnew⟩
    · obtain ⟨j, q, hq, hwork, hj, hbefore, hbehind⟩ := h.first e hold
      have hkj : k ≠ j := by
        rintro rfl
        obtain rfl := Option.some.inj (ht.symm.trans hj)
        exact Task.ne_ended_of_move? hm rfl
      have hjlen := (List.getElem?_eq_some_iff.mp hj).1
      refine ⟨j, q, hq, hwork, (hother hkj.symm).trans hj, fun i hi => ?_, fun i u hi hu => ?_⟩
      · obtain ⟨q, hq, hok, hi'⟩ := hbefore i hi
        exact ⟨q, hq, hok, (hother (by omega)).trans hi'⟩
      · rcases eq_or_ne i k with rfl | hik
        · obtain ⟨hpost, hstage⟩ := hbehind i t hi ht
          have htaken := hstage.resolve_right (Task.ne_ended_of_move? hm)
          rw [hold, Option.isSome_some] at hm htask
          obtain rfl := Option.some.inj (hself.symm.trans hu)
          rw [htask.post_of_move hm htaken]
          exact ⟨hp, Or.inr rfl⟩
        · exact hbehind i u hi (hother hik ▸ hu)
    · -- The first report: all tasks before this one are over, and none of them failed.
      obtain ⟨hwork, -, htask'⟩ := htask.report hm hnew
      refine ⟨k, p, hp, hwork, htask' ▸ hself, fun i hi => ?_, fun i u hi hu => ?_⟩
      · have hi' : i < pool.tasks.length := by omega
        have hu := List.getElem?_eq_getElem hi'
        have hdone := hover (by omega) hu
        obtain ⟨q, hq, htracks⟩ := htrack.tasks i _ hu
        rw [hother (by omega), hu]
        rw [hnone] at htracks
        generalize pool.tasks[i] = u at hdone htracks
        cases htracks <;> cases hdone
        · refine ⟨q, hq, ?_, rfl⟩
          rename_i himp
          exact Option.not_isSome_iff_eq_none.mp fun hsome => nomatch himp hsome
        · contradiction
      · have hlen := (List.getElem?_eq_some_iff.mp hu).1
        rw [apply, List.length_set] at hlen
        omega

theorem follow (h : (Pool.ofPosts posts).follow work 1 turns = some pool) : InOrder work posts pool := by
  have hboth := follow_keeps (P := fun pool => Tracks work posts pool ∧ InOrder work posts pool)
    (fun hp hs => ⟨hp.1.step hs, ?_⟩) ⟨Tracks.ofPosts work posts, ofPosts work posts⟩ h
  · exact hboth.2
  · rcases step_cases hs with ⟨p, more, -, hw, hactive, rfl⟩ | ⟨k, t, m, -, ht, hm, rfl⟩
    · exact hp.2.take hp.1 hw hactive
    · exact hp.2.go hp.1 ht hm

/-- The first error is that of the first post that fails. -/
theorem first_of_split (h : InOrder work posts pool) (htrack : Tracks work posts pool) (hover : pool.isOver = true)
    {before behind : List Post} {p : Post} {e : HandlerError} (hposts : posts = before ++ p :: behind)
    (hok : ∀ q ∈ before, (work q).error = none) (he : (work p).error = some e) :
    pool.error = some e ∧ pool.tasks[before.length]? = some ⟨(work p).post, .ended⟩ ∧
    (∀ i < before.length, ∃ q, posts[i]? = some q ∧ pool.tasks[i]? = some ⟨(work q).post, .ended⟩) ∧
    ∀ (i : Nat) (t : Task), before.length < i → pool.tasks[i]? = some t → posts[i]? = some t.post := by
  have hp : posts[before.length]? = some p := by
    rw [hposts, List.getElem?_append_right (Nat.le_refl _), Nat.sub_self, List.getElem?_cons_zero]
  obtain ⟨e', he'⟩ := Option.isSome_iff_exists.mp
    ((htrack.error_isSome_iff hover).mpr ⟨p, List.mem_of_getElem? hp, Option.isSome_iff_exists.mpr ⟨e, he⟩⟩)
  obtain ⟨j, p', hp', hwork', hj, hdone, hleft⟩ := h.first e' he'
  obtain rfl : j = before.length := by
    rcases Nat.lt_trichotomy j before.length with hlt | heq | hgt
    · rw [hposts, List.getElem?_append_left hlt] at hp'
      rw [hok p' (List.mem_of_getElem? hp')] at hwork'
      cases hwork'
    · exact heq
    · obtain ⟨q, hq, hnone, -⟩ := hdone _ hgt
      obtain rfl := Option.some.inj (hp.symm.trans hq)
      rw [he] at hnone
      cases hnone
  obtain rfl := Option.some.inj (hp.symm.trans hp')
  obtain rfl := Option.some.inj (he.symm.trans hwork')
  refine ⟨he', hj, fun i hi => ?_, fun i t hi ht => (hleft i t hi ht).1⟩
  obtain ⟨q, hq, -, hi'⟩ := hdone i hi
  exact ⟨q, hq, hi'⟩

/-- A single worker stops at the first post that fails. -/
theorem stops (h : InOrder work posts pool) (htrack : Tracks work posts pool) (hover : pool.isOver = true)
    {before behind : List Post} {p : Post} {e : HandlerError} (hposts : posts = before ++ p :: behind)
    (hok : ∀ q ∈ before, (work q).error = none) (he : (work p).error = some e) :
    pool.error = some e ∧ pool.posts = before.map (fun q => (work q).post) ++ (work p).post :: behind := by
  obtain ⟨herror, hp, hdone, hleft⟩ := h.first_of_split htrack hover hposts hok he
  obtain ⟨heq, hlen⟩ := htrack.posts_eq hover
  refine ⟨herror, List.ext_getElem (by simp [hlen, hposts]) fun i hi hi' => Option.some.inj ?_⟩
  rw [← List.getElem?_eq_getElem hi, ← List.getElem?_eq_getElem hi']
  have hi'' : i < pool.tasks.length := by rwa [heq, List.length_map] at hi
  rw [heq, List.getElem?_map]
  rcases Nat.lt_trichotomy i before.length with hlt | rfl | hgt
  · obtain ⟨q, hq, ht⟩ := hdone i hlt
    rw [hposts, List.getElem?_append_left hlt] at hq
    rw [ht, List.getElem?_append_left (by rwa [List.length_map]), List.getElem?_map, hq]
    rfl
  · rw [hp, List.getElem?_append_right (Nat.le_of_eq (List.length_map _)), List.length_map, Nat.sub_self]
    rfl
  · have ht := List.getElem?_eq_getElem hi''
    have hq := hleft i _ hgt ht
    obtain ⟨d, rfl⟩ : ∃ d, i = before.length + (d + 1) := ⟨i - before.length - 1, by omega⟩
    rw [hposts, List.getElem?_append_right (by omega), Nat.add_sub_cancel_left, List.getElem?_cons_succ] at hq
    rw [ht, List.getElem?_append_right (by rw [List.length_map]; omega), List.length_map, Nat.add_sub_cancel_left,
      List.getElem?_cons_succ, hq]
    rfl

end InOrder

end Pool

/-! ### The comments of a site -/

namespace Site

variable {s : Site} {config : Config} {tree : File.Tree} {p : Post} {turns : Schedule}

theorem processPost_post :
    (processPost config tree p).post = { p with comments := (p.loadComments tree).toOption } := by
  unfold processPost outcomeOf
  cases p.loadComments tree with
  | ok cs => rfl
  | error e => cases config.failOnCommentError <;> rfl

theorem processPost_error :
    (processPost config tree p).error = match p.loadComments tree with
      | .ok _ => none
      | .error e => if config.failOnCommentError then some (.comments p.sourcePath e) else none := by
  unfold processPost outcomeOf
  cases p.loadComments tree with
  | ok cs => rfl
  | error e => cases config.failOnCommentError <;> rfl

theorem workerLimit_pos (config : Config) : 0 < workerLimit config := by
  unfold workerLimit
  omega

/-- The workers on the posts of a site after turns in order, if each of them can be taken. -/
def takeTurns (s : Site) (turns : Schedule) : Option Pool :=
  (Pool.ofPosts s.timeline).follow (processPost s.config s.tree) (workerLimit s.config) turns

/-- What comes of the loading of comments when the work is over. -/
def afterWork (s : Site) (pool : Pool) : Except HandlerError Unit × Site :=
  (match pool.error with
    | some e => .error e
    | none => .ok (),
   { s with timeline := pool.posts, log := if s.logged then s.log ++ pool.entries else s.log })

theorem run_loadComments (s : Site) :
    s.run Build.loadComments = s.afterWork
      ((Pool.ofPosts s.timeline).run (processPost s.config s.tree) (workerLimit s.config) s.schedule) := by
  rw [Build.loadComments, run_get_bind, run_bind, run_set, foldl_note, afterWork]
  generalize Pool.run _ _ s.schedule _ = pool
  cases pool.error <;> rfl

/-- Loading comments is taking turns in some way until all is over. -/
theorem exists_takeTurns (s : Site) :
    ∃ turns pool, s.takeTurns turns = some pool ∧ pool.isOver = true ∧ s.run Build.loadComments = s.afterWork pool := by
  obtain ⟨turns, hturns, hover⟩ := Pool.run_follows (workerLimit_pos s.config) s.schedule (Pool.ofPosts s.timeline)
  exact ⟨turns, _, hturns, hover, run_loadComments s⟩

section
variable {posts : List Post} {pool : Pool}

theorem processPost_error_eq_none_iff :
    (processPost config tree p).error = none ↔
      config.failOnCommentError = false ∨ ∃ cs, p.loadComments tree = .ok cs := by
  rw [processPost_error]
  cases p.loadComments tree <;> cases config.failOnCommentError <;> simp

theorem processPost_error_eq_some {err : HandlerError} (h : (processPost config tree p).error = some err) :
    ∃ e, p.loadComments tree = .error e ∧ err = .comments p.sourcePath e := by
  rw [processPost_error] at h
  split at h
  · cases h
  · rename_i e hload
    split at h
    · exact ⟨e, hload, (Option.some.inj h).symm⟩
    · cases h

/-- With the comments of no post stopping the building, each post has those that could be loaded. -/
theorem all_loaded (h : Pool.Tracks (processPost config tree) posts pool) (hover : pool.isOver = true)
    (hok : config.failOnCommentError = false ∨ ∀ p ∈ posts, ∃ cs, p.loadComments tree = .ok cs) :
    pool.error = none ∧ pool.posts = posts.map fun p => { p with comments := (p.loadComments tree).toOption } := by
  obtain ⟨hnone, hposts⟩ := h.all_done hover fun p hp =>
    processPost_error_eq_none_iff.mpr (hok.imp_right fun hall => hall p hp)
  rw [hposts]
  exact ⟨hnone, List.map_congr_left fun p _ => processPost_post⟩

theorem error_isSome_iff_load (h : Pool.Tracks (processPost config tree) posts pool) (hover : pool.isOver = true)
    (hfail : config.failOnCommentError = true) :
    pool.error.isSome = true ↔ ∃ p ∈ posts, ∃ e, p.loadComments tree = .error e := by
  rw [h.error_isSome_iff hover]
  refine exists_congr fun p => and_congr_right fun _ => ?_
  rw [processPost_error, hfail]
  cases p.loadComments tree <;> simp

/-- What has become of a post: it has its whole thread, no comments since they are broken, or it is left as it
was since an error was reported. -/
theorem post_ends (h : Pool.Tracks (processPost config tree) posts pool) (hover : pool.isOver = true) {k : Nat}
    {p q : Post} (hp : posts[k]? = some p) (hq : pool.posts[k]? = some q) :
    (∃ cs, p.loadComments tree = .ok cs ∧ q = { p with comments := some cs }) ∨
    ((∃ e, p.loadComments tree = .error e) ∧ q = { p with comments := none }) ∨
    (q = p ∧ pool.error.isSome = true) := by
  rcases h.ended hover hp hq with ⟨rfl, -⟩ | hleft
  · rw [processPost_post]
    cases p.loadComments tree with
    | ok cs => exact Or.inl ⟨cs, rfl, rfl⟩
    | error e => exact Or.inr (Or.inl ⟨⟨e, rfl⟩, rfl⟩)
  · exact Or.inr (Or.inr hleft)

/-- A single worker stops at the first post with broken comments. -/
theorem stops_at_first (hturns : s.takeTurns turns = some pool) (hover : pool.isOver = true)
    (hfail : s.config.failOnCommentError = true) (hworkers : s.config.workers ≤ 1) {before behind : List Post}
    {e : CommentsError} (hposts : s.timeline = before ++ p :: behind)
    (hok : ∀ q ∈ before, ∃ cs, q.loadComments s.tree = .ok cs) (he : p.loadComments s.tree = .error e) :
    pool.error = some (.comments p.sourcePath e) ∧
    pool.posts = before.map (fun q => { q with comments := (q.loadComments s.tree).toOption })
      ++ { p with comments := none } :: behind := by
  have hlimit : workerLimit s.config = 1 := by
    unfold workerLimit
    omega
  rw [takeTurns, hlimit] at hturns
  have hwork : (processPost s.config s.tree p).error = some (.comments p.sourcePath e) := by
    rw [processPost_error, he, hfail]
    rfl
  obtain ⟨herror, heq⟩ := (Pool.InOrder.follow hturns).stops (Pool.Tracks.follow hturns) hover hposts
    (fun q hq => processPost_error_eq_none_iff.mpr (Or.inr (hok q hq))) hwork
  refine ⟨herror, ?_⟩
  simp only [heq, processPost_post, he]
  rfl

end

/-- The comments of a site come out the same however the workers take turns, up to which error is reported first.
Turns always end, and any turns that end are those of a schedule. If broken comments do not stop the building, or
there are none, every post has its thread, or no comments where they are broken. Otherwise an error is reported
exactly if some post has broken comments; it is that of such a post, and every post has its whole thread, or
no comments if they are broken, or is left as it was. A single worker stops at the first post with broken
comments. -/
theorem loadComments_any_schedule (s : Site) :
    (∀ turns pool, s.takeTurns turns = some pool →
      turns.length ≤ 4 * s.timeline.length ∧
      (pool.isOver = false →
        ∃ turn, (pool.step (processPost s.config s.tree) (workerLimit s.config) turn).isSome = true) ∧
      (pool.isOver = true →
        ({ s with schedule := turns }).run Build.loadComments = ({ s with schedule := turns }).afterWork pool)) ∧
    ∀ (schedule : Schedule) (r : Except HandlerError Unit) (s' : Site),
      ({ s with schedule }).run Build.loadComments = (r, s') →
      ((s.config.failOnCommentError = false ∨ ∀ p ∈ s.timeline, ∃ cs, p.loadComments s.tree = .ok cs) →
        r = .ok () ∧
        s'.timeline = s.timeline.map fun p => { p with comments := (p.loadComments s.tree).toOption }) ∧
      (s.config.failOnCommentError = true →
        ((∃ err, r = .error err) ↔ ∃ p ∈ s.timeline, ∃ e, p.loadComments s.tree = .error e) ∧
        (∀ err, r = .error err →
          ∃ p ∈ s.timeline, ∃ e, p.loadComments s.tree = .error e ∧ err = .comments p.sourcePath e) ∧
        s'.timeline.length = s.timeline.length ∧
        ∀ (k : Nat) (p q : Post), s.timeline[k]? = some p → s'.timeline[k]? = some q →
          (∃ cs, p.loadComments s.tree = .ok cs ∧ q = { p with comments := some cs }) ∨
          ((∃ e, p.loadComments s.tree = .error e) ∧ q = { p with comments := none }) ∨
          (q = p ∧ ∃ err, r = .error err)) ∧
      (s.config.failOnCommentError = true → s.config.workers ≤ 1 →
        ∀ (before behind : List Post) (p : Post) (e : CommentsError), s.timeline = before ++ p :: behind →
          (∀ q ∈ before, ∃ cs, q.loadComments s.tree = .ok cs) → p.loadComments s.tree = .error e →
          r = .error (.comments p.sourcePath e) ∧
          s'.timeline = before.map (fun q => { q with comments := (q.loadComments s.tree).toOption })
            ++ { p with comments := none } :: behind) := by
  constructor
  · intro turns pool hturns
    refine ⟨?_, fun hover => ?_, fun hover => ?_⟩
    · have hlen := Pool.length_le_of_follow hturns
      rw [Pool.turnsLeft_ofPosts] at hlen
      omega
    · obtain ⟨next, hnext⟩ := Pool.step_nextInOrder _ (workerLimit_pos s.config) hover
      exact ⟨_, Option.isSome_iff_exists.mpr ⟨next, hnext⟩⟩
    · rw [run_loadComments, Pool.run_of_follow hturns hover]
  · intro schedule r s' hrun
    obtain ⟨turns, pool, hturns, hover, hwork⟩ := exists_takeTurns { s with schedule }
    have htrack : Pool.Tracks (processPost s.config s.tree) s.timeline pool := Pool.Tracks.follow hturns
    obtain ⟨rfl, rfl⟩ := Prod.mk.inj (hrun.symm.trans hwork)
    have herror : ∀ err, (match pool.error with | some e => .error e | none => .ok () : Except HandlerError Unit)
        = .error err ↔ pool.error = some err := fun err => by cases pool.error <;> simp
    refine ⟨fun hok => ?_, fun hfail => ⟨?_, fun err herr => ?_, ?_, fun k p q hp hq => ?_⟩, ?_⟩
    · obtain ⟨hnone, hposts⟩ := all_loaded htrack hover hok
      exact ⟨by rw [hnone], hposts⟩
    · simp only [herror]
      rw [← Option.isSome_iff_exists]
      exact error_isSome_iff_load htrack hover hfail
    · obtain ⟨p, hp, hperr⟩ := htrack.reported err ((herror err).mp herr)
      exact ⟨p, hp, processPost_error_eq_some hperr⟩
    · exact (htrack.posts_eq hover).2
    · simp only [herror]
      rw [← Option.isSome_iff_exists]
      exact post_ends htrack hover hp hq
    · intro hfail hworkers before behind p e hposts hok he
      obtain ⟨herr, heq⟩ := stops_at_first hturns hover hfail hworkers hposts hok he
      exact ⟨(herror _).mpr herr, heq⟩

end Site

end Marginalia
