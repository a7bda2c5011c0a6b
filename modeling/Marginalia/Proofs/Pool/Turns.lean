import Mathlib.Data.List.Basic
import Marginalia.Site.Pool

/-!
The turns of a pool. A turn takes up the next post, below the limit, or lets one task make its move, and nothing
else can happen. Every turn leaves fewer turns, and while the pool is not over some turn can be taken, so the work
always ends. What a schedule makes of a pool is the end of one way of taking turns, and every way of taking
turns is that of a schedule.
-/

namespace Marginalia

/-! ### The moves of a task -/

namespace Task

variable {work : Post → Site.PostOutcome} {calledOff : Bool} {t : Task} {m : Move}

theorem isOver_iff : t.isOver = true ↔ t.stage = .ended := beq_iff_eq

/-- A task looks whether it is called off, does its work, or reports that the work failed. -/
theorem move?_cases (h : t.move? work calledOff = some m) :
    (t.stage = .taken ∧ m = { task := ⟨t.post, if calledOff then .ended else .working⟩ }) ∨
    (t.stage = .working ∧ (work t.post).error = none ∧
      m = { task := ⟨(work t.post).post, .ended⟩, entry := (work t.post).entry }) ∨
    (∃ e, t.stage = .working ∧ (work t.post).error = some e ∧
      m = { task := ⟨(work t.post).post, .failed e⟩, entry := (work t.post).entry }) ∨
    (∃ e, t.stage = .failed e ∧ m = { task := ⟨t.post, .ended⟩, report := some e }) := by
  unfold move? at h
  cases hs : t.stage with
  | taken =>
    rw [hs] at h
    exact Or.inl ⟨rfl, (Option.some.inj h).symm⟩
  | working =>
    rw [hs] at h
    cases he : (work t.post).error with
    | none =>
      simp only [he] at h
      exact Or.inr (Or.inl ⟨rfl, rfl, (Option.some.inj h).symm⟩)
    | some e =>
      simp only [he] at h
      exact Or.inr (Or.inr (Or.inl ⟨e, rfl, rfl, (Option.some.inj h).symm⟩))
  | failed e =>
    rw [hs] at h
    exact Or.inr (Or.inr (Or.inr ⟨e, rfl, (Option.some.inj h).symm⟩))
  | ended =>
    rw [hs] at h
    cases h

theorem exists_move? (work : Post → Site.PostOutcome) (calledOff : Bool) (h : t.stage ≠ .ended) :
    ∃ m, t.move? work calledOff = some m := by
  unfold move?
  cases hs : t.stage with
  | ended => exact absurd hs h
  | _ => exact ⟨_, rfl⟩

theorem turnsLeft_move? (h : t.move? work calledOff = some m) : m.task.stage.turnsLeft < t.stage.turnsLeft := by
  rcases move?_cases h with ⟨hs, rfl⟩ | ⟨hs, -, rfl⟩ | ⟨e, hs, -, rfl⟩ | ⟨e, hs, rfl⟩ <;> rw [hs]
  · cases calledOff <;> simp [Stage.turnsLeft]
  all_goals simp [Stage.turnsLeft]

/-- Once a task is over it makes no move. -/
theorem ne_ended_of_move? (h : t.move? work calledOff = some m) : t.stage ≠ .ended := by
  intro hs
  have hlt := turnsLeft_move? h
  rw [hs] at hlt
  exact Nat.not_lt_zero _ hlt

end Task

namespace Pool

variable {work : Post → Site.PostOutcome} {limit : Nat} {pool pool' : Pool} {turn : Turn} {turns : Schedule}

/-! ### One turn -/

/-- All that can happen in a turn. -/
theorem step_cases (h : pool.step work limit turn = some pool') :
    (∃ p more, turn = .take ∧ pool.waiting = p :: more ∧ pool.active < limit ∧
      pool' = { pool with tasks := pool.tasks ++ [⟨p, .taken⟩], waiting := more }) ∨
    (∃ k t m, turn = .go k ∧ pool.tasks[k]? = some t ∧ t.move? work pool.error.isSome = some m ∧
      pool' = pool.apply k m) := by
  cases turn with
  | take =>
    simp only [step] at h
    split at h
    · cases h
    · rename_i p more hw
      split at h
      · rename_i hlt
        exact Or.inl ⟨p, more, rfl, hw, hlt, (Option.some.inj h).symm⟩
      · cases h
  | go k =>
    simp only [step, Option.bind_eq_bind, Option.bind_eq_some_iff] at h
    obtain ⟨t, ht, m, hm, h⟩ := h
    exact Or.inr ⟨k, t, m, rfl, ht, hm, (Option.some.inj h).symm⟩

theorem isOver_iff : pool.isOver = true ↔ pool.waiting = [] ∧ ∀ t ∈ pool.tasks, t.stage = .ended := by
  simp only [isOver, Bool.and_eq_true, List.isEmpty_iff, List.all_eq_true, Task.isOver_iff]

theorem active_eq_zero_iff : pool.active = 0 ↔ ∀ t ∈ pool.tasks, t.stage = .ended := by
  simp only [active, List.countP_eq_zero, Bool.not_eq_true', Bool.not_eq_false, Task.isOver_iff]

theorem step_eq_none (h : pool.isOver = true) : pool.step work limit turn = none := by
  obtain ⟨hw, hover⟩ := isOver_iff.mp h
  cases hstep : pool.step work limit turn with
  | none => rfl
  | some pool' =>
    rcases step_cases hstep with ⟨p, more, -, hw', -⟩ | ⟨k, t, m, -, ht, hm, -⟩
    · rw [hw] at hw'
      cases hw'
    · exact absurd (hover t (List.mem_of_getElem? ht)) (Task.ne_ended_of_move? hm)

/-- While the pool is not over, the next turn in order can be taken. -/
theorem step_nextInOrder (work : Post → Site.PostOutcome) (hlimit : 0 < limit) (h : pool.isOver = false) :
    ∃ pool', pool.step work limit pool.nextInOrder = some pool' := by
  unfold nextInOrder
  cases hfind : pool.tasks.findIdx? (!·.isOver) with
  | some k =>
    obtain ⟨hk, hnot, -⟩ := List.findIdx?_eq_some_iff_getElem.mp hfind
    have hne : pool.tasks[k].stage ≠ .ended := fun hover => by simp [Task.isOver_iff.mpr hover] at hnot
    obtain ⟨m, hm⟩ := Task.exists_move? work pool.error.isSome hne
    exact ⟨pool.apply k m, by simp [step, List.getElem?_eq_getElem hk, hm]⟩
  | none =>
    have hover : ∀ t ∈ pool.tasks, t.stage = .ended := fun t ht =>
      Task.isOver_iff.mp (by simpa using List.findIdx?_eq_none_iff.mp hfind t ht)
    cases hw : pool.waiting with
    | nil => rw [isOver_iff.mpr ⟨hw, hover⟩] at h; cases h
    | cons p more =>
      simp only [step, hw, active_eq_zero_iff.mpr hover, if_pos hlimit]
      exact ⟨_, rfl⟩

/-! ### Fewer turns are left -/

theorem foldr_add_lt {α : Type} (f : α → Nat) {m n : Nat} (hlt : m < n) (l : List α) :
    l.foldr (f · + ·) m < l.foldr (f · + ·) n := by
  induction l with
  | nil => exact hlt
  | cons a l ih => exact Nat.add_lt_add_left ih (f a)

theorem foldr_add_set_lt {α : Type} {f : α → Nat} {n : Nat} {a b : α} (hlt : f b < f a) :
    ∀ {l : List α} {k : Nat}, l[k]? = some a → (l.set k b).foldr (f · + ·) n < l.foldr (f · + ·) n
  | [], _, h => by cases h
  | c :: l, 0, h => by
    obtain rfl : c = a := Option.some.inj h
    exact Nat.add_lt_add_right hlt _
  | c :: l, k + 1, h => Nat.add_lt_add_left (foldr_add_set_lt hlt (l := l) (k := k) h) (f c)

theorem turnsLeft_step (h : pool.step work limit turn = some pool') : pool'.turnsLeft < pool.turnsLeft := by
  rcases step_cases h with ⟨p, more, -, hw, -, rfl⟩ | ⟨k, t, m, -, ht, hm, rfl⟩
  · have hlt : 3 + 4 * more.length < 4 * (p :: more).length := by rw [List.length_cons]; omega
    simp only [turnsLeft, hw, List.foldr_append]
    exact foldr_add_lt (fun t : Task => t.stage.turnsLeft) hlt pool.tasks
  · exact foldr_add_set_lt (f := (·.stage.turnsLeft)) (Task.turnsLeft_move? hm) ht

/-! ### Many turns -/

theorem follow_nil : pool.follow work limit [] = some pool := rfl

theorem follow_cons :
    pool.follow work limit (turn :: turns) = (pool.step work limit turn).bind (·.follow work limit turns) := rfl

theorem follow_cons_eq_some :
    pool.follow work limit (turn :: turns) = some pool' ↔
      ∃ next, pool.step work limit turn = some next ∧ next.follow work limit turns = some pool' := by
  rw [follow_cons, Option.bind_eq_some_iff]

/-- What every turn keeps is kept by turns in order. -/
theorem follow_keeps {P : Pool → Prop}
    (hstep : ∀ {pool pool' : Pool} {turn : Turn}, P pool → pool.step work limit turn = some pool' → P pool')
    (hp : P pool) (h : pool.follow work limit turns = some pool') : P pool' := by
  induction turns generalizing pool with
  | nil =>
    obtain rfl : pool = pool' := Option.some.inj h
    exact hp
  | cons turn turns ih =>
    obtain ⟨next, hnext, h⟩ := follow_cons_eq_some.mp h
    exact ih (hstep hp hnext) h

theorem length_le_of_follow (h : pool.follow work limit turns = some pool') :
    turns.length + pool'.turnsLeft ≤ pool.turnsLeft := by
  induction turns generalizing pool with
  | nil =>
    obtain rfl : pool = pool' := Option.some.inj h
    simp
  | cons turn turns ih =>
    obtain ⟨next, hnext, h⟩ := follow_cons_eq_some.mp h
    have hlt := turnsLeft_step hnext
    have hle := ih h
    rw [List.length_cons]
    omega

/-! ### Schedules -/

/-- Nothing happens to a pool that is over. -/
theorem runFor_isOver (h : pool.isOver = true) (n : Nat) (schedule : Schedule) :
    runFor work limit n schedule pool = pool := by
  cases n with
  | zero => rfl
  | succ n => cases schedule <;> simp [runFor, step_eq_none h]

/-- What a schedule makes of a pool is reached turn by turn, and then all is over. -/
theorem runFor_follows (hlimit : 0 < limit) :
    ∀ (n : Nat) (schedule : Schedule) (pool : Pool), pool.turnsLeft ≤ n →
      ∃ turns, pool.follow work limit turns = some (runFor work limit n schedule pool) ∧
        (runFor work limit n schedule pool).isOver = true
  | n, schedule, pool, hn => by
    cases hover : pool.isOver with
    | true =>
      rw [runFor_isOver hover]
      exact ⟨[], follow_nil, hover⟩
    | false =>
      obtain ⟨due, hdue⟩ := step_nextInOrder work hlimit hover
      have hpos := turnsLeft_step hdue
      cases n with
      | zero => omega
      | succ n =>
        -- The turn taken is the one of the schedule, or the next in order.
        obtain ⟨turn, next, hnext, hrun⟩ : ∃ turn next, pool.step work limit turn = some next ∧
            runFor work limit (n + 1) schedule pool = runFor work limit n schedule.tail next := by
          cases hsched : schedule.head?.bind (pool.step work limit) with
          | none => exact ⟨_, due, hdue, by simp only [runFor, hsched, hdue, Option.none_or]⟩
          | some next =>
            obtain ⟨turn, -, hnext⟩ := Option.bind_eq_some_iff.mp hsched
            exact ⟨turn, next, hnext, by simp only [runFor, hsched, Option.some_or]⟩
        have hlt := turnsLeft_step hnext
        obtain ⟨turns, hturns, hend⟩ := runFor_follows hlimit n schedule.tail next (by omega)
        rw [hrun]
        exact ⟨turn :: turns, follow_cons_eq_some.mpr ⟨next, hnext, hturns⟩, hend⟩

/-- Turns after which all is over are what their schedule does. -/
theorem runFor_of_follow {n : Nat} (hn : pool.turnsLeft ≤ n) (h : pool.follow work limit turns = some pool')
    (hover : pool'.isOver = true) : runFor work limit n turns pool = pool' := by
  induction turns generalizing pool n with
  | nil =>
    obtain rfl : pool = pool' := Option.some.inj h
    exact runFor_isOver hover n []
  | cons turn turns ih =>
    obtain ⟨next, hnext, h⟩ := follow_cons_eq_some.mp h
    have hlt := turnsLeft_step hnext
    cases n with
    | zero => omega
    | succ n =>
      simp only [runFor, List.head?_cons, Option.bind_some, hnext, Option.some_or, List.tail_cons]
      exact ih (by omega) h

theorem run_follows (hlimit : 0 < limit) (schedule : Schedule) (pool : Pool) :
    ∃ turns, pool.follow work limit turns = some (pool.run work limit schedule) ∧
      (pool.run work limit schedule).isOver = true :=
  runFor_follows hlimit _ schedule pool (Nat.le_refl _)

theorem run_of_follow (h : pool.follow work limit turns = some pool') (hover : pool'.isOver = true) :
    pool.run work limit turns = pool' :=
  runFor_of_follow (Nat.le_refl _) h hover

theorem turnsLeft_ofPosts (posts : List Post) : (ofPosts posts).turnsLeft = 4 * posts.length := rfl

end Pool

end Marginalia
