import Mathlib
import Marginalia.Proofs.File.Erasure
import Marginalia.Watch.Session

/-!
What the steps of a session do, and how a session goes that is left alone: it comes to rest, and when it begins to watch a
directory, it then watches this and the directories below it that are not hidden.
-/

namespace Marginalia

namespace Watch

open File (Tree Place Node)

/-! ### Steps -/

namespace Session

variable {s s' : Session} {a : Action}

/-- What can happen to a session. -/
theorem step_cases (h : s.step a = some s') :
    (∃ d, a = .change d ∧ s.suffer? d = some s') ∨
    (∃ n queue, a = .receive ∧ s.phase = .waiting ∧ s.queue = n :: queue ∧
      s' = { s with queue, phase := n.response }) ∨
    (a = .proceed ∧ s.proceed? = some s') ∨
    (a = .fire ∧ s.armed = true ∧ s' = { s with armed := false, fired := true }) ∨
    (a = .tick ∧ s.phase = .waiting ∧ s.fired = true ∧ s' = { s with fired := false, phase := .rebuilding }) ∨
    (∃ succeeded, a = .finish succeeded ∧ s.phase = .rebuilding ∧ s' = { s with phase := .waiting }) ∨
    (a = .stop ∧ s.phase = .waiting ∧ s' = { s with phase := .stopped }) := by
  cases a with
  | change d => exact Or.inl ⟨d, rfl, h⟩
  | receive =>
    rw [step] at h
    split at h
    · rename_i n queue hphase hqueue
      exact Or.inr (Or.inl ⟨n, queue, rfl, hphase, hqueue, (Option.some.inj h).symm⟩)
    · cases h
  | proceed => exact Or.inr (Or.inr (Or.inl ⟨rfl, h⟩))
  | fire =>
    obtain ⟨harmed, heq⟩ := Option.ite_none_right_eq_some.mp h
    exact Or.inr (Or.inr (Or.inr (Or.inl ⟨rfl, harmed, (Option.some.inj heq).symm⟩)))
  | tick =>
    obtain ⟨hready, heq⟩ := Option.ite_none_right_eq_some.mp h
    rw [Bool.and_eq_true, beq_iff_eq] at hready
    exact Or.inr (Or.inr (Or.inr (Or.inr (Or.inl ⟨rfl, hready.1, hready.2, (Option.some.inj heq).symm⟩))))
  | finish succeeded =>
    obtain ⟨hphase, heq⟩ := Option.ite_none_right_eq_some.mp h
    exact Or.inr (Or.inr (Or.inr (Or.inr (Or.inr (Or.inl
      ⟨succeeded, rfl, beq_iff_eq.mp hphase, (Option.some.inj heq).symm⟩)))))
  | stop =>
    obtain ⟨hphase, heq⟩ := Option.ite_none_right_eq_some.mp h
    exact Or.inr (Or.inr (Or.inr (Or.inr (Or.inr (Or.inr ⟨rfl, beq_iff_eq.mp hphase, (Option.some.inj heq).symm⟩)))))

/-- How a session goes on with what it is at. -/
theorem proceed_cases (h : s.proceed? = some s') :
    (∃ first, s.phase = .walking first [] ∧ s' = { s with phase := if first then .waiting else .arming }) ∨
    (∃ first v todo added more, s.phase = .walking first (v :: todo) ∧ v.outcome? s.tree = some (added, more) ∧
      s' = { s with watched := s.watched ++ added, phase := .walking first (more ++ todo) }) ∨
    (∃ first v todo, s.phase = .walking first (v :: todo) ∧ v.outcome? s.tree = none ∧
      s' = { s with phase := if first then .stopped else .arming }) ∨
    (∃ place, s.phase = .looking place ∧
      s' = { s with phase := if s.tree.get? place == some .dir then .walking false [.enter place] else .arming }) ∨
    (s.phase = .arming ∧ s' = { s with armed := true, phase := .waiting }) := by
  unfold proceed? at h
  split at h
  · rename_i first hphase
    exact Or.inl ⟨first, hphase, (Option.some.inj h).symm⟩
  · rename_i first v todo hphase
    split at h
    · rename_i added more hvisit
      exact Or.inr (Or.inl ⟨first, v, todo, added, more, hphase, hvisit, (Option.some.inj h).symm⟩)
    · rename_i hvisit
      exact Or.inr (Or.inr (Or.inl ⟨first, v, todo, hphase, hvisit, (Option.some.inj h).symm⟩))
  · rename_i place hphase
    exact Or.inr (Or.inr (Or.inr (Or.inl ⟨place, hphase, (Option.some.inj h).symm⟩)))
  · rename_i hphase
    exact Or.inr (Or.inr (Or.inr (Or.inr ⟨hphase, (Option.some.inj h).symm⟩)))
  all_goals cases h

@[simp] theorem follow_nil : s.follow [] = some s := rfl

theorem follow_cons_eq_some {actions : List Action} :
    s.follow (a :: actions) = some s' ↔ ∃ next, s.step a = some next ∧ next.follow actions = some s' := by
  rw [follow, List.foldlM_cons]
  exact Option.bind_eq_some_iff

theorem follow_append_eq_some {before after : List Action} :
    s.follow (before ++ after) = some s' ↔ ∃ next, s.follow before = some next ∧ next.follow after = some s' := by
  rw [follow, List.foldlM_append]
  exact Option.bind_eq_some_iff

end Session

/-! ### Directories -/

section
variable {t : Tree} {dir p : Place} {name : Text}

theorem mem_subdirectories : p ∈ subdirectories t dir ↔
    ∃ name, p = dir ++ [name] ∧ t.get? p = some .dir ∧ isHidden name = false := by
  simp only [subdirectories, List.mem_filterMap, Option.ite_none_right_eq_some, Bool.and_eq_true, beq_iff_eq,
    Bool.not_eq_true', Option.some.injEq, File.Tree.mem_names]
  constructor
  · rintro ⟨name, -, ⟨hdir, hshown⟩, rfl⟩
    exact ⟨name, rfl, hdir, hshown⟩
  · rintro ⟨name, rfl, hdir, hshown⟩
    exact ⟨name, by rw [hdir]; rfl, ⟨hdir, hshown⟩, rfl⟩

/-- How a visit goes. -/
theorem outcome?_cases {v : Visit} {added : List Place} {more : List Visit} (h : v.outcome? t = some (added, more)) :
    t.get? v.dir = some .dir ∧
    (v = .enter v.dir ∧ added = [v.dir] ∧ more = [.read v.dir] ∨
      v = .read v.dir ∧ added = [] ∧ more = (subdirectories t v.dir).map .enter) := by
  obtain ⟨hdir, h⟩ := Option.ite_none_right_eq_some.mp h
  refine ⟨beq_iff_eq.mp hdir, ?_⟩
  cases v with
  | enter dir =>
    obtain ⟨rfl, rfl⟩ := Prod.mk.inj (Option.some.inj h)
    exact Or.inl ⟨rfl, rfl, rfl⟩
  | read dir =>
    obtain ⟨rfl, rfl⟩ := Prod.mk.inj (Option.some.inj h)
    exact Or.inr ⟨rfl, rfl, rfl⟩

/-- A visit fails only if its directory is gone. -/
theorem outcome?_ne_none {v : Visit} (h : t.get? v.dir = some .dir) : v.outcome? t ≠ none := by
  unfold Visit.outcome?
  rw [if_pos (beq_iff_eq.mpr h)]
  cases v <;> exact Option.some_ne_none _

theorem subdirectories_eq_nil (h : t.depth ≤ dir.length) : subdirectories t dir = [] := by
  rw [subdirectories, File.Tree.names_eq_nil h, List.filterMap_nil]

theorem directoriesBelow_enough {n m : Nat} (hn : t.depth ≤ n + dir.length) (hm : t.depth ≤ m + dir.length) :
    directoriesBelow t (n + 1) dir = directoriesBelow t (m + 1) dir := by
  -- Where the depth is used up there are no directories any more.
  induction n generalizing m dir with
  | zero => rw [directoriesBelow, directoriesBelow, subdirectories_eq_nil (by omega), List.flatMap_nil, List.flatMap_nil]
  | succ n ih =>
    cases m with
    | zero =>
      rw [directoriesBelow, directoriesBelow, subdirectories_eq_nil (by omega), List.flatMap_nil, List.flatMap_nil]
    | succ m =>
      rw [directoriesBelow, directoriesBelow]
      refine congrArg (dir :: ·) (List.flatMap_congr fun p hp => ?_)
      obtain ⟨name, rfl, -, -⟩ := mem_subdirectories.mp hp
      have hlength : (dir ++ [name]).length = dir.length + 1 := List.length_append
      exact ih (by omega) (by omega)

/-- The directories to watch for a directory are itself and those for the directories in it. -/
theorem directories_eq (h : t.get? dir = some .dir) :
    directories t dir = dir :: (subdirectories t dir).flatMap (directories t) := by
  rw [directories, if_pos (beq_iff_eq.mpr h), directoriesBelow]
  refine congrArg (dir :: ·) (List.flatMap_congr fun p hp => ?_)
  have hdepth : t.depth ≠ 0 := fun hzero => by
    rw [subdirectories_eq_nil (hzero ▸ Nat.zero_le _)] at hp
    cases hp
  obtain ⟨name, rfl, hdir, -⟩ := mem_subdirectories.mp hp
  obtain ⟨k, hk⟩ := Nat.exists_eq_succ_of_ne_zero hdepth
  have hlength : (dir ++ [name]).length = dir.length + 1 := List.length_append
  rw [directories, if_pos (beq_iff_eq.mpr hdir), hk]
  exact directoriesBelow_enough (by omega) (by omega)

/-! ### Visits -/

theorem total_turns_enter (dirs : List Place) :
    Session.total (Visit.turns t) (dirs.map Visit.enter) = 2 * (dirs.flatMap (directories t)).length := by
  induction dirs with
  | nil => rfl
  | cons dir dirs ih =>
    rw [List.map_cons, Session.total_cons, ih, List.flatMap_cons, List.length_append, Visit.turns, Visit.adds]
    omega

/-- A step of a visit adds what the visit has to add, the rest being left to what comes of it, which is less to do. -/
theorem spec_of_outcome? {v : Visit} {added : List Place} {more : List Visit} (h : v.outcome? t = some (added, more)) :
    (∀ w ∈ more, t.get? w.dir = some .dir) ∧ v.adds t = added ++ more.flatMap (Visit.adds t) ∧
    Session.total (Visit.turns t) more < v.turns t := by
  obtain ⟨hdir, ⟨hv, rfl, rfl⟩ | ⟨hv, rfl, rfl⟩⟩ := outcome?_cases h
  · refine ⟨List.forall_mem_singleton.mpr hdir, ?_, ?_⟩
    · rw [hv, Visit.adds, Visit.dir, directories_eq hdir, List.flatMap_singleton]
      rfl
    · rw [hv, Session.total_cons, Session.total_nil, Visit.turns, Visit.turns, Visit.adds, Visit.adds, Visit.dir,
        directories_eq hdir, List.length_cons]
      omega
  · refine ⟨fun w hw => ?_, ?_, ?_⟩
    · obtain ⟨p, hp, rfl⟩ := List.mem_map.mp hw
      obtain ⟨-, -, hdir', -⟩ := mem_subdirectories.mp hp
      exact hdir'
    · rw [List.flatMap_map, hv]
      rfl
    · rw [total_turns_enter, hv, Visit.turns, Visit.adds, Visit.dir]
      omega

end

/-! ### Sessions that are left alone -/

namespace Session

variable {s s' : Session} {a : Action}

/-- What comes next can happen. -/
theorem step_next? (h : s.next? = some a) : ∃ s', s.step a = some s' := by
  unfold next? at h
  split at h
  · rename_i hphase
    split at h
    · rename_i hqueue
      obtain rfl := Option.some.inj h
      cases hq : s.queue with
      | nil => simp [hq] at hqueue
      | cons n queue => exact ⟨_, by simp only [step, hphase, hq]; rfl⟩
    split at h
    · rename_i hfired
      obtain rfl := Option.some.inj h
      exact ⟨_, if_pos (by simp [hphase, hfired])⟩
    split at h
    · rename_i harmed
      obtain rfl := Option.some.inj h
      exact ⟨_, if_pos harmed⟩
    · cases h
  · rename_i hphase
    obtain rfl := Option.some.inj h
    exact ⟨_, if_pos (by simp [hphase])⟩
  · cases h
  · rename_i hwaiting hrebuilding hstopped
    obtain rfl := Option.some.inj h
    rw [step, proceed?]
    split
    · exact ⟨_, rfl⟩
    · split <;> exact ⟨_, rfl⟩
    · exact ⟨_, rfl⟩
    · exact ⟨_, rfl⟩
    · exact absurd ‹_› hwaiting
    · exact absurd ‹_› hrebuilding
    · exact absurd ‹_› hstopped

theorem turnsLeft_proceed (h : s.proceed? = some s') : s'.turnsLeft < s.turnsLeft := by
  rcases proceed_cases h with ⟨first, hphase, rfl⟩ | ⟨first, v, todo, added, more, hphase, hvisit, rfl⟩ |
    ⟨first, v, todo, hphase, -, rfl⟩ | ⟨place, hphase, rfl⟩ | ⟨hphase, rfl⟩
  · cases first <;> simp [turnsLeft, hphase, phaseTurns]
  · obtain ⟨-, -, hless⟩ := spec_of_outcome? hvisit
    simp only [turnsLeft, hphase, phaseTurns, total_append, total_cons]
    omega
  · cases first <;> simp [turnsLeft, hphase, phaseTurns]
  · simp only [turnsLeft, hphase]
    split <;> simp [phaseTurns]
  · simp only [turnsLeft, hphase, phaseTurns, if_true]
    omega

/-- Every step of a session that is left alone brings it nearer to its rest. -/
theorem turnsLeft_next? (h : s.next? = some a) (hs : s.step a = some s') : s'.turnsLeft < s.turnsLeft := by
  rcases step_cases hs with ⟨d, rfl, -⟩ | ⟨n, queue, -, hphase, hqueue, rfl⟩ | ⟨-, hproceed⟩ | ⟨-, harmed, rfl⟩ |
    ⟨-, hphase, hfired, rfl⟩ | ⟨_, -, hphase, rfl⟩ | ⟨rfl, -, -⟩
  · unfold next? at h
    grind
  · simp only [turnsLeft, hphase, hqueue, phaseTurns, total_cons]
    omega
  · exact turnsLeft_proceed hproceed
  · simp only [turnsLeft, harmed, if_true, Bool.false_eq_true, if_false]
    split <;> omega
  · simp only [turnsLeft, hphase, hfired, phaseTurns, if_true, Bool.false_eq_true, if_false]
    omega
  · simp only [turnsLeft, hphase, phaseTurns]
    omega
  · unfold next? at h
    grind

theorem runFor_succ {turns : Nat} (h : s.next? = some a) (hs : s.step a = some s') :
    (runFor (turns + 1) s).2 = (runFor turns s').2 := by
  rw [runFor, h]
  simp only [hs]

theorem runFor_of_rest (turns : Nat) (h : s.next? = none) : (runFor turns s).2 = s := by
  cases turns with
  | zero => rfl
  | succ turns => rw [runFor, h]

/-- A session that is left alone comes to rest, and what its steps keep holds then. -/
theorem run_rests {P : Session → Prop} (hkeeps : ∀ {s a s'}, P s → s.next? = some a → s.step a = some s' → P s')
    (hs : P s) : P s.run.2 ∧ s.run.2.next? = none := by
  suffices hrun : ∀ turns s, P s → s.turnsLeft ≤ turns → P (runFor turns s).2 ∧ (runFor turns s).2.next? = none from
    hrun s.turnsLeft s hs (Nat.le_refl _)
  intro turns
  induction turns with
  | zero =>
    intro s hs hturns
    refine ⟨hs, ?_⟩
    cases hnext : s.next? with
    | none => exact hnext
    | some a =>
      obtain ⟨s', hs'⟩ := step_next? hnext
      have := turnsLeft_next? hnext hs'
      omega
  | succ turns ih =>
    intro s hs hturns
    cases hnext : s.next? with
    | none =>
      rw [runFor_of_rest (turns + 1) hnext]
      exact ⟨hs, hnext⟩
    | some a =>
      obtain ⟨s', hs'⟩ := step_next? hnext
      rw [runFor_succ hnext hs']
      have := turnsLeft_next? hnext hs'
      exact ih s' (hkeeps hs hnext hs') (by omega)

/-! ### Beginning to watch -/

/-- A session on the way to watching its directory and those below it. -/
structure Beginning (t : Tree) (place : Place) (s : Session) : Prop where
  tree : s.tree = t
  queue : s.queue = []
  armed : s.armed = false
  fired : s.fired = false
  phase : s.phase = .waiting ∧ s.watched = directories t place ∨
    ∃ todo, s.phase = .walking true todo ∧ (∀ v ∈ todo, t.get? v.dir = some .dir) ∧
      s.watched ++ todo.flatMap (Visit.adds t) = directories t place

variable {t : Tree} {place : Place}

theorem beginning_opened (t : Tree) (place : Place) : Beginning t place (opened t place) where
  tree := rfl
  queue := rfl
  armed := rfl
  fired := rfl
  phase := by
    refine Or.inr ⟨_, rfl, ?_, ?_⟩
    · intro v hv
      split at hv
      · rename_i hdir
        rw [List.mem_singleton.mp hv]
        exact beq_iff_eq.mp hdir
      · cases hv
    · rw [directories]
      split
      · rename_i hdir
        rw [List.flatMap_singleton, Visit.adds, directories, if_pos hdir]
        rfl
      · rfl

theorem Beginning.step (h : Beginning t place s) (hnext : s.next? = some a) (hs : s.step a = some s') :
    Beginning t place s' := by
  rcases h.phase with ⟨hphase, -⟩ | ⟨todo, hphase, hdirs, hadds⟩
  · simp [next?, hphase, h.queue, h.armed, h.fired] at hnext
  · have ha : a = .proceed := by simpa [next?, hphase] using hnext.symm
    subst ha
    cases todo with
    | nil =>
      obtain rfl : { s with phase := .waiting } = s' := by simpa [Session.step, proceed?, hphase] using hs
      refine ⟨h.tree, h.queue, h.armed, h.fired, Or.inl ⟨rfl, ?_⟩⟩
      rwa [List.flatMap_nil, List.append_nil] at hadds
    | cons v todo =>
      obtain ⟨⟨added, more⟩, hvisit⟩ := Option.ne_none_iff_exists'.mp (outcome?_ne_none (hdirs v List.mem_cons_self))
      obtain ⟨hmore, hv, -⟩ := spec_of_outcome? hvisit
      obtain rfl : { s with watched := s.watched ++ added, phase := .walking true (more ++ todo) } = s' := by
        simpa [Session.step, proceed?, hphase, h.tree, hvisit] using hs
      refine ⟨h.tree, h.queue, h.armed, h.fired, Or.inr ⟨more ++ todo, rfl, fun w hw => ?_, ?_⟩⟩
      · rcases List.mem_append.mp hw with hw | hw
        · exact hmore w hw
        · exact hdirs w (List.mem_cons_of_mem _ hw)
      · rw [← hadds, List.flatMap_cons, hv, List.flatMap_append]
        simp only [List.append_assoc]

/-- A session begins with watching its directory and those below it that are not hidden. -/
theorem start_eq_ok {root : Text} {node : Node} (h : t.find false root = .ok (place, node)) :
    start t root = .ok { tree := t, watched := directories t place } := by
  obtain ⟨⟨htree, hqueue, harmed, hfired, hphase⟩, hrest⟩ :=
    run_rests (fun h hnext hs => Beginning.step h hnext hs) (beginning_opened t place)
  rw [start, h]
  refine congrArg Except.ok ?_
  generalize (opened t place).run.2 = s at *
  obtain ⟨tree, watched, queue, armed, fired, phase⟩ := s
  rcases hphase with ⟨hphase, hwatched⟩ | ⟨todo, hphase, -⟩
  · simp only at *
    subst htree hqueue harmed hfired hphase hwatched
    rfl
  · simp only at hphase
    subst hphase
    cases hrest

end Session

end Watch

end Marginalia
