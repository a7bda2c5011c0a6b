import Mathlib
import Marginalia.Proofs.Watch.Deeds
import Marginalia.Proofs.Watch.Relevance
import Marginalia.Proofs.Watch.Session

/-!
No change is lost. While directories are only made, and never removed or moved, a session knows of every directory below
its own whose names are not ignored: the directory is watched, or something that the session has still to do will come
upon it. So a change in such a directory is told, or the session is about to set its timer anyway, and a session that
comes to wait in vain has begun a rebuilding after the change.
-/

namespace Marginalia

namespace Watch

open File (Tree Place Node)

/-! ### Places that are not ignored -/

/-- The place is the base or below it, and no name on the way from the base is ignored. -/
def Visible (base p : Place) : Prop := ∃ names, p = base ++ names ∧ ∀ n ∈ names, Path.IsName n ∧ isIgnoredName n = false

section
variable {base dir p : Place} {name : Text}

theorem isHidden_of_not_ignored (h : isIgnoredName name = false) : isHidden name = false :=
  (Bool.or_eq_false_iff.mp h).1

theorem Visible.parent (h : Visible base (dir ++ [name])) (hne : dir ++ [name] ≠ base) :
    Visible base dir ∧ Path.IsName name ∧ isIgnoredName name = false := by
  obtain ⟨names, heq, hnames⟩ := h
  rcases List.eq_nil_or_concat names with rfl | ⟨init, n, rfl⟩
  · exact absurd (heq.trans (List.append_nil base)) hne
  · rw [List.concat_eq_append, ← List.append_assoc] at heq
    obtain ⟨rfl, hn⟩ := List.append_inj' heq rfl
    obtain rfl := List.singleton_injective hn
    rw [List.concat_eq_append, List.forall_mem_append, List.forall_mem_singleton] at hnames
    exact ⟨⟨init, rfl, hnames.1⟩, hnames.2⟩

/-- The next directory on the way from a directory to a place. -/
theorem Visible.next (h : Visible base p) (hbase : base <+: dir) (hdir : dir <+: p) (hne : dir ≠ p) :
    ∃ name, dir ++ [name] <+: p ∧ isIgnoredName name = false := by
  obtain ⟨names, rfl, hnames⟩ := h
  obtain ⟨before, rfl⟩ := hbase
  rw [List.prefix_append_right_inj] at hdir
  obtain ⟨behind, rfl⟩ := hdir
  cases behind with
  | nil => exact absurd (by rw [List.append_nil]) hne
  | cons name behind =>
    refine ⟨name, ⟨behind, by simp⟩, (hnames name (by simp)).2⟩

end

/-! ### What a session will come upon -/

/-- The visit, or one that comes of it, will add the directory at the place. -/
def Visit.Covers (p : Place) : Visit → Prop
  | enter dir => dir <+: p
  | read dir => dir <+: p ∧ dir ≠ p

/-- What a session is at will have it add the directory at the place, unless it has stopped. -/
def Phase.Covers (p : Place) : Phase → Prop
  | walking _ todo => ∃ v ∈ todo, v.Covers p
  | looking place => place <+: p
  | stopped => True
  | waiting | arming | rebuilding => False

/-- The notice will have a session add the directory at the place. -/
def Notice.Covers (p : Place) (n : Notice) : Prop := n.matters = true ∧ n.change.created = true ∧ n.place <+: p

/-- What a phase is about lies below the base, and the directories that are to be visited are there. -/
def Phase.Placed (base : Place) (t : Tree) : Phase → Prop
  | walking _ todo => ∀ v ∈ todo, base <+: v.dir ∧ t.get? v.dir = some .dir
  | looking place => base <+: place
  | _ => True

namespace Session

/-- Something that the session has still to do will have it add the directory at the place. -/
def Covers (s : Session) (p : Place) : Prop := s.phase.Covers p ∨ ∃ n ∈ s.queue, n.Covers p

/-- The session knows of every directory below the base that is not ignored, or will come upon it. -/
structure Aware (base : Place) (s : Session) : Prop where
  supported : s.tree.Supported
  here : s.tree.get? base = some .dir
  watched : ∀ dir ∈ s.watched, base <+: dir
  queue : ∀ n ∈ s.queue, base <+: n.place
  phase : s.phase.Placed base s.tree
  covered : ∀ p, Visible base p → s.tree.get? p = some .dir → p ∈ s.watched ∨ s.Covers p

end Session

section
variable {t : Tree} {base p q : Place}

theorem Visit.Covers.below {v : Visit} (h : v.Covers p) (hq : p <+: q) : v.Covers q := by
  cases v with
  | enter dir => exact h.trans hq
  | read dir =>
    refine ⟨h.1.trans hq, fun heq => h.2 ?_⟩
    subst heq
    exact h.1.eq_of_length_le hq.length_le

theorem Phase.Covers.below {phase : Phase} (h : phase.Covers p) (hq : p <+: q) : phase.Covers q := by
  cases phase with
  | walking first todo =>
    obtain ⟨v, hv, hcovers⟩ := h
    exact ⟨v, hv, hcovers.below hq⟩
  | looking place => exact List.IsPrefix.trans h hq
  | stopped => trivial
  | _ => exact h

theorem Session.Covers.below {s : Session} (h : s.Covers p) (hq : p <+: q) : s.Covers q :=
  h.imp (fun hphase => hphase.below hq) fun ⟨n, hn, hmatters, hcreated, hplace⟩ =>
    ⟨n, hn, hmatters, hcreated, hplace.trans hq⟩

theorem Phase.Placed.mono {phase : Phase} {t' : Tree} (h : phase.Placed base t)
    (hdirs : ∀ q, t.get? q = some .dir → t'.get? q = some .dir) : phase.Placed base t' := by
  cases phase with
  | walking first todo => exact fun v hv => ⟨(h v hv).1, hdirs _ (h v hv).2⟩
  | _ => exact h

/-- A step of a visit loses nothing: what it will come upon is added, or left to the visits that come of it. -/
theorem covers_of_outcome? {v : Visit} {added : List Place} {more : List Visit} (ht : t.Supported)
    (h : v.outcome? t = some (added, more)) (hbase : base <+: v.dir) (hvisible : Visible base p)
    (hp : t.get? p = some .dir) (hcovers : v.Covers p) : p ∈ added ∨ ∃ w ∈ more, w.Covers p := by
  obtain ⟨hdir, ⟨hv, rfl, rfl⟩ | ⟨hv, rfl, rfl⟩⟩ := outcome?_cases h
  · rw [hv] at hcovers
    by_cases heq : v.dir = p
    · exact Or.inl (List.mem_singleton.mpr heq.symm)
    · exact Or.inr ⟨.read v.dir, List.mem_singleton_self _, hcovers, heq⟩
  · rw [hv] at hcovers
    obtain ⟨name, hnext, hname⟩ := hvisible.next hbase hcovers.1 hcovers.2
    have hsub : t.get? (v.dir ++ [name]) = some .dir := by
      by_cases heq : v.dir ++ [name] = p
      · rwa [heq]
      · exact ht.way (by rw [hp]; exact Option.some_ne_none _) hnext heq
    refine Or.inr ⟨.enter (v.dir ++ [name]), List.mem_map_of_mem ?_, hnext⟩
    exact mem_subdirectories.mpr ⟨name, rfl, hsub, isHidden_of_not_ignored hname⟩

theorem inside_of_outcome? {v : Visit} {added : List Place} {more : List Visit} (h : v.outcome? t = some (added, more))
    (hbase : base <+: v.dir) : (∀ dir ∈ added, base <+: dir) ∧ ∀ w ∈ more, base <+: w.dir := by
  obtain ⟨-, ⟨-, rfl, rfl⟩ | ⟨-, rfl, rfl⟩⟩ := outcome?_cases h
  · exact ⟨List.forall_mem_singleton.mpr hbase, List.forall_mem_singleton.mpr hbase⟩
  · refine ⟨nofun, fun w hw => ?_⟩
    obtain ⟨q, hq, rfl⟩ := List.mem_map.mp hw
    obtain ⟨name, rfl, -, -⟩ := mem_subdirectories.mp hq
    exact List.IsPrefix.trans hbase (List.prefix_append _ _)

end

/-! ### Sessions stay aware -/

namespace Session

variable {s s' : Session} {a : Action} {t : Tree} {base p : Place}

theorem aware_opened (ht : t.Supported) (hbase : t.get? base = some .dir) : Aware base (opened t base) := by
  have hphase : (opened t base).phase = .walking true [.enter base] := by simp [opened, hbase]
  refine ⟨ht, hbase, nofun, nofun, ?_, fun p ⟨names, hp, _⟩ _ => ?_⟩
  · rw [hphase]
    exact List.forall_mem_singleton.mpr ⟨List.prefix_refl base, hbase⟩
  · refine Or.inr (Or.inl ?_)
    rw [hphase]
    exact ⟨.enter base, List.mem_singleton_self _, hp ▸ List.prefix_append base names⟩

/-- A new directory was made in one that is watched, so that it was told, or in one that the session will come upon. -/
theorem Aware.suffer (h : Aware base s) {d : Deed} (hd : d.keepsDirectories = true) (hs : s.suffer? d = some s') :
    Aware base s' := by
  obtain ⟨t', ht', rfl⟩ := Option.map_eq_some_iff.mp hs
  have hdirs := fun q => Deed.perform_dirs h.supported hd ht' (q := q)
  have hgrows : ∀ {p}, s.Covers p →
      Covers { s with tree := t', watched := d.stillWatched s.watched, queue := s.queue ++ d.notices s.watched } p :=
    Or.imp_right fun ⟨n, hn, hcovers⟩ => ⟨n, List.mem_append_left _ hn, hcovers⟩
  refine ⟨Deed.perform_supported h.supported hd ht', hdirs base h.here, ?_, ?_, h.phase.mono hdirs, ?_⟩
  · simpa only [Deed.stillWatched_eq hd] using h.watched
  · exact List.forall_mem_append.mpr ⟨h.queue, fun n hn => Deed.notices_inside h.watched hn⟩
  · intro p hvisible hp
    simp only [Deed.stillWatched_eq hd]
    by_cases hold : s.tree.get? p = some .dir
    · exact (h.covered p hvisible hold).imp_right hgrows
    rcases Deed.perform_cases h.supported hd ht' with ⟨-, rfl⟩ | ⟨dir, name, haltered, hdir, -, hsame, hnew⟩
    · exact absurd hp hold
    obtain rfl : p = dir ++ [name] := by
      by_contra hne
      exact hold (hsame p hne ▸ hp)
    obtain ⟨hparent, hname, hshown⟩ := hvisible.parent fun heq => hold (heq ▸ h.here)
    rcases h.covered dir hparent hdir with hwatched | hcovers
    · obtain ⟨c, halters, hcreated, htold⟩ := Deed.notices_of_watched haltered hwatched
      refine Or.inr (Or.inr ⟨_, List.mem_append_right _ htold, ?_, hcreated .dir (hnew hp), List.prefix_refl _⟩)
      exact (Notice.matters_concat halters hname).mpr hshown
    · exact Or.inr (hgrows (hcovers.below (List.prefix_append dir [name])))

theorem Aware.receive (h : Aware base s) {n : Notice} {queue : List Notice} (hphase : s.phase = .waiting)
    (hqueue : s.queue = n :: queue) : Aware base { s with queue, phase := n.response } := by
  have hn := h.queue n (hqueue ▸ List.mem_cons_self)
  refine ⟨h.supported, h.here, h.watched, fun m hm => h.queue m (hqueue ▸ List.mem_cons_of_mem _ hm), ?_, ?_⟩
  · simp only [Notice.response]
    split
    · trivial
    · split
      · exact hn
      · trivial
  · intro p hvisible hp
    refine (h.covered p hvisible hp).imp_right fun hcovers => ?_
    rcases hcovers with hcovers | ⟨m, hm, hmatters, hcreated, hplace⟩
    · rw [hphase] at hcovers
      exact hcovers.elim
    rw [hqueue] at hm
    rcases List.mem_cons.mp hm with rfl | hm
    · refine Or.inl ?_
      simp only [Notice.response, hmatters, hcreated, Bool.not_true, Bool.false_eq_true, if_false, if_true]
      exact hplace
    · exact Or.inr ⟨m, hm, hmatters, hcreated, hplace⟩

/-- A session that goes on to another phase stays aware if what the old phase would come upon is not lost. -/
theorem Aware.turn (h : Aware base s) {watched : List Place} {phase : Phase} {armed fired : Bool}
    (hwatched : ∀ dir ∈ watched, base <+: dir) (hkept : ∀ dir ∈ s.watched, dir ∈ watched)
    (hplaced : phase.Placed base s.tree)
    (hcovers : ∀ p, Visible base p → s.tree.get? p = some .dir → s.phase.Covers p → p ∈ watched ∨ phase.Covers p) :
    Aware base { s with watched, armed, fired, phase } where
  supported := h.supported
  here := h.here
  watched := hwatched
  queue := h.queue
  phase := hplaced
  covered := by
    intro p hvisible hp
    rcases h.covered p hvisible hp with hp' | hphase | hqueue
    · exact Or.inl (hkept p hp')
    · exact (hcovers p hvisible hp hphase).imp_right Or.inl
    · exact Or.inr (Or.inr hqueue)

theorem Aware.proceed (h : Aware base s) (hs : s.proceed? = some s') : Aware base s' := by
  rcases proceed_cases hs with ⟨first, hphase, rfl⟩ | ⟨first, v, todo, added, more, hphase, hvisit, rfl⟩ |
    ⟨first, v, todo, hphase, hvisit, rfl⟩ | ⟨place, hphase, rfl⟩ | ⟨hphase, rfl⟩
  · refine h.turn h.watched (fun _ => id) (by cases first <;> trivial) fun p _ _ hcovers => ?_
    rw [hphase] at hcovers
    obtain ⟨v, hv, -⟩ := hcovers
    cases hv
  · have hplaced := h.phase
    rw [hphase] at hplaced
    obtain ⟨hv, htodo⟩ := List.forall_mem_cons.mp hplaced
    obtain ⟨hadded, hmore⟩ := inside_of_outcome? hvisit hv.1
    refine h.turn (List.forall_mem_append.mpr ⟨h.watched, hadded⟩) (fun _ => List.mem_append_left _) ?_ ?_
    · exact List.forall_mem_append.mpr ⟨fun w hw => ⟨hmore w hw, (spec_of_outcome? hvisit).1 w hw⟩, htodo⟩
    · intro p hvisible hp hcovers
      rw [hphase] at hcovers
      obtain ⟨w, hw, hcovers⟩ := hcovers
      rcases List.mem_cons.mp hw with rfl | hw
      · rcases covers_of_outcome? h.supported hvisit hv.1 hvisible hp hcovers with hp | ⟨w, hw, hcovers⟩
        · exact Or.inl (List.mem_append_right _ hp)
        · exact Or.inr ⟨w, List.mem_append_left _ hw, hcovers⟩
      · exact Or.inr ⟨w, List.mem_append_right _ hw, hcovers⟩
  · -- The directories that are to be visited have not gone.
    have hplaced := h.phase
    rw [hphase] at hplaced
    exact absurd hvisit (outcome?_ne_none (hplaced v List.mem_cons_self).2)
  · have hplaced := h.phase
    rw [hphase] at hplaced
    refine h.turn h.watched (fun _ => id) ?_ fun p _ hp hcovers => ?_
    · split
      · rename_i hdir
        exact List.forall_mem_singleton.mpr ⟨hplaced, beq_iff_eq.mp hdir⟩
      · trivial
    · rw [hphase] at hcovers
      have hdir : s.tree.get? place = some .dir := by
        by_cases heq : place = p
        · rwa [heq]
        · exact h.supported.way (by rw [hp]; exact Option.some_ne_none _) hcovers heq
      rw [if_pos (beq_iff_eq.mpr hdir)]
      exact Or.inr ⟨.enter place, List.mem_singleton_self _, hcovers⟩
  · refine h.turn h.watched (fun _ => id) trivial fun p _ _ hcovers => ?_
    rw [hphase] at hcovers
    exact hcovers.elim

theorem Aware.step (h : Aware base s) (ha : ∀ d, a = .change d → d.keepsDirectories = true) (hs : s.step a = some s') :
    Aware base s' := by
  -- Who waits or rebuilds will come upon nothing by that.
  have hidle : ∀ {phase : Phase} {armed fired : Bool}, phase.Placed base s.tree →
      s.phase = .waiting ∨ s.phase = .rebuilding → Aware base { s with armed, fired, phase } := by
    intro phase armed fired hplaced hphase
    refine h.turn h.watched (fun _ => id) hplaced fun p _ _ hcovers => ?_
    rcases hphase with hphase | hphase <;> rw [hphase] at hcovers <;> exact hcovers.elim
  rcases step_cases hs with ⟨d, rfl, hs⟩ | ⟨n, queue, -, hphase, hqueue, rfl⟩ | ⟨-, hs⟩ | ⟨-, -, rfl⟩ |
    ⟨-, hphase, -, rfl⟩ | ⟨_, -, hphase, rfl⟩ | ⟨-, hphase, rfl⟩
  · exact h.suffer (ha d rfl) hs
  · exact h.receive hphase hqueue
  · exact h.proceed hs
  · exact h.turn h.watched (fun _ => id) h.phase fun p _ _ => Or.inr
  · exact hidle trivial (Or.inl hphase)
  · exact hidle trivial (Or.inr hphase)
  · exact hidle trivial (Or.inl hphase)

theorem Aware.follow (h : Aware base s) {actions : List Action}
    (hkeeps : ∀ d, .change d ∈ actions → d.keepsDirectories = true) (hs : s.follow actions = some s') : Aware base s' := by
  induction actions generalizing s with
  | nil =>
    obtain rfl := Option.some.inj hs
    exact h
  | cons a actions ih =>
    obtain ⟨next, hstep, hs⟩ := follow_cons_eq_some.mp hs
    refine ih (h.step (fun d hd => hkeeps d (hd ▸ List.mem_cons_self)) hstep) (fun d hd => ?_) hs
    exact hkeeps d (List.mem_cons_of_mem a hd)

end Session

/-! ### Rebuilding is owed -/

/-- The timer will be set before the session waits again, if it ever does. -/
def Phase.Arms : Phase → Prop
  | walking first _ => first = false
  | looking _ | arming | stopped => True
  | waiting | rebuilding => False

theorem Phase.Covers.arms {phase : Phase} {p : Place} (h : phase.Covers p) (hbegun : ∀ todo, phase ≠ .walking true todo) :
    phase.Arms := by
  cases phase with
  | walking first todo => exact Bool.eq_false_iff.mpr fun hfirst => hbegun todo (hfirst ▸ rfl)
  | waiting => exact h
  | rebuilding => exact h
  | _ => trivial

theorem Notice.arms_response {n : Notice} (h : n.matters = true) : n.response.Arms := by
  simp only [Notice.response, h, Bool.not_true, Bool.false_eq_true, if_false]
  split <;> trivial

namespace Session

variable {s s' : Session} {a : Action} {t : Tree} {base p : Place}

/-- The session will begin a rebuilding before it waits in vain. -/
def Owes (s : Session) : Prop := s.phase.Arms ∨ (∃ n ∈ s.queue, n.matters = true) ∨ s.armed = true ∨ s.fired = true

/-- The session waits, but no notice is left to take and the timer is not set. -/
structure Idle (s : Session) : Prop where
  phase : s.phase = .waiting
  queue : s.queue = []
  armed : s.armed = false
  fired : s.fired = false

theorem Idle.not_owes (h : s.Idle) : ¬ s.Owes := by
  rintro (harms | ⟨n, hn, -⟩ | harmed | hfired)
  · rw [h.phase] at harms
    exact harms
  · rw [h.queue] at hn
    cases hn
  · exact Bool.false_ne_true (h.armed.symm.trans harmed)
  · exact Bool.false_ne_true (h.fired.symm.trans hfired)

theorem Owes.proceed (h : s.Owes) (hs : s.proceed? = some s') : s'.Owes := by
  rcases proceed_cases hs with ⟨first, hphase, rfl⟩ | ⟨first, v, todo, added, more, hphase, -, rfl⟩ |
    ⟨first, v, todo, hphase, -, rfl⟩ | ⟨place, hphase, rfl⟩ | ⟨hphase, rfl⟩
  · refine h.imp_left fun harms => ?_
    rw [hphase] at harms
    obtain rfl : first = false := harms
    trivial
  · refine h.imp_left fun harms => ?_
    rw [hphase] at harms
    exact harms
  · refine Or.inl ?_
    cases first <;> trivial
  · refine Or.inl ?_
    simp only
    split
    · exact rfl
    · trivial
  · exact Or.inr (Or.inr (Or.inl rfl))

/-- What is owed is owed until the rebuilding begins. -/
theorem Owes.step (h : s.Owes) (ha : a ≠ .tick) (hs : s.step a = some s') : s'.Owes := by
  rcases step_cases hs with ⟨d, -, hs⟩ | ⟨n, queue, -, hphase, hqueue, rfl⟩ | ⟨-, hs⟩ | ⟨-, -, rfl⟩ |
    ⟨rfl, -⟩ | ⟨_, -, hphase, rfl⟩ | ⟨-, -, rfl⟩
  · obtain ⟨t', -, rfl⟩ := Option.map_eq_some_iff.mp hs
    exact h.imp_right (Or.imp_left fun ⟨n, hn, hmatters⟩ => ⟨n, List.mem_append_left _ hn, hmatters⟩)
  · rcases h with harms | ⟨m, hm, hmatters⟩ | htimer
    · rw [hphase] at harms
      exact harms.elim
    · rw [hqueue] at hm
      rcases List.mem_cons.mp hm with rfl | hm
      · exact Or.inl (Notice.arms_response hmatters)
      · exact Or.inr (Or.inl ⟨m, hm, hmatters⟩)
    · exact Or.inr (Or.inr htimer)
  · exact h.proceed hs
  · exact Or.inr (Or.inr (Or.inr rfl))
  · exact absurd rfl ha
  · refine h.imp_left fun harms => ?_
    rw [hphase] at harms
    exact harms.elim
  · exact Or.inl trivial

theorem Owes.follow (h : s.Owes) {actions : List Action} (hactions : .tick ∉ actions) (hs : s.follow actions = some s') :
    s'.Owes := by
  induction actions generalizing s with
  | nil =>
    obtain rfl := Option.some.inj hs
    exact h
  | cons a actions ih =>
    obtain ⟨next, hstep, hs⟩ := follow_cons_eq_some.mp hs
    rw [List.mem_cons, not_or] at hactions
    exact ih (h.step (Ne.symm hactions.1) hstep) hactions.2 hs

/-- What a session will come upon owes a rebuilding, if the session is past its beginning. -/
theorem Covers.owes (h : s.Covers p) (hbegun : ∀ todo, s.phase ≠ .walking true todo) : s.Owes :=
  h.imp (fun hphase => hphase.arms hbegun) fun ⟨n, hn, hmatters, _⟩ => Or.inl ⟨n, hn, hmatters⟩

/-- Where something is altered that is not ignored, a rebuilding is owed. -/
theorem Aware.owes (h : Aware base s) {d : Deed} (hbegun : ∀ todo, s.phase ≠ .walking true todo)
    (hd : d.keepsDirectories = true) (haltered : d.altered? = some p) (hvisible : Visible base p) (hne : p ≠ base)
    (hs : s.suffer? d = some s') : s'.Owes := by
  obtain ⟨t', ht', rfl⟩ := Option.map_eq_some_iff.mp hs
  rcases Deed.perform_cases h.supported hd ht' with ⟨hnone, -⟩ | ⟨dir, name, haltered', hdir, -, -⟩
  · rw [hnone] at haltered
    cases haltered
  obtain rfl := Option.some.inj (haltered.symm.trans haltered')
  obtain ⟨hparent, hname, hshown⟩ := hvisible.parent hne
  rcases h.covered dir hparent hdir with hwatched | hcovers
  · obtain ⟨c, halters, -, htold⟩ := Deed.notices_of_watched haltered hwatched
    refine Or.inr (Or.inl ⟨_, List.mem_append_right _ htold, ?_⟩)
    exact (Notice.matters_concat halters hname).mpr hshown
  · exact (hcovers.owes hbegun).imp_right (Or.imp_left fun ⟨n, hn, hmatters⟩ => ⟨n, List.mem_append_left _ hn, hmatters⟩)

/-- No change is lost. Whatever comes in whatever order after a session was opened on a directory, be it that directories
are made, that other things are made, written or removed, or that the session takes a step: if it waits in vain in the
end, a rebuilding began after each change that was made, once the first directories had been added, at a place below its
directory that is not ignored. -/
theorem rebuilding_follows_change {before after : List Action} {d : Deed} {begun : Session} (ht : t.Supported)
    (hbase : t.get? base = some .dir) (hbefore : (opened t base).follow before = some begun)
    (hbegun : ∀ todo, begun.phase ≠ .walking true todo)
    (hs : (opened t base).follow (before ++ .change d :: after) = some s) (hidle : s.Idle)
    (hkeeps : ∀ d', .change d' ∈ before ++ .change d :: after → d'.keepsDirectories = true)
    (haltered : d.altered? = some p) (hvisible : Visible base p) (hne : p ≠ base) :
    .tick ∈ after := by
  obtain ⟨begun', hbefore', hs⟩ := follow_append_eq_some.mp hs
  obtain rfl := Option.some.inj (hbefore'.symm.trans hbefore)
  obtain ⟨changed, hchange, hafter⟩ := follow_cons_eq_some.mp hs
  have haware : Aware base begun' :=
    (aware_opened ht hbase).follow (fun d' hd' => hkeeps d' (List.mem_append_left _ hd')) hbefore
  have howes : changed.Owes := haware.owes hbegun (hkeeps d (by simp)) haltered hvisible hne hchange
  by_contra htick
  exact hidle.not_owes (howes.follow htick hafter)

/-- The first directory is added, a directory is made and looked at, and another is made in it before it is watched. -/
def nestedBefore : List Action :=
  [.proceed, .proceed, .proceed, .change (.make ["posts", "a"] .dir), .receive, .proceed,
    .change (.make ["posts", "a", "b"] .dir)]

/-- The new directories are added, and the timer is set and runs out. -/
def nestedAfter : List Action :=
  [.proceed, .proceed, .proceed, .proceed, .proceed, .proceed, .fire, .tick, .finish true]

/-- A file that is made where nobody watches yet is not lost. -/
theorem nestedFile_rebuilt : ∃ s : Session,
    (opened { entries := [(["posts"], .dir)] } ["posts"]).follow
      (nestedBefore ++ .change (.make ["posts", "a", "b", "c.md"] (.file "c")) :: nestedAfter) = some s ∧
    s.Idle ∧ .tick ∈ nestedAfter := by
  have hend : ((opened { entries := [(["posts"], .dir)] } ["posts"]).follow
      (nestedBefore ++ .change (.make ["posts", "a", "b", "c.md"] (.file "c")) :: nestedAfter)).map
      (fun s => (s.phase, s.queue, s.armed, s.fired)) = some (.waiting, [], false, false) := by
    decide +kernel
  have hbefore : ((opened { entries := [(["posts"], .dir)] } ["posts"]).follow nestedBefore).map (·.phase) =
      some (.walking false [.enter ["posts", "a"]]) := by
    decide +kernel
  obtain ⟨s, hs, hfinal⟩ := Option.map_eq_some_iff.mp hend
  obtain ⟨begun, hbegun, hphase⟩ := Option.map_eq_some_iff.mp hbefore
  simp only [Prod.mk.injEq] at hfinal
  have hidle : s.Idle := ⟨hfinal.1, hfinal.2.1, hfinal.2.2.1, hfinal.2.2.2⟩
  refine ⟨s, hs, hidle, ?_⟩
  have hsupported : File.Tree.Supported { entries := [(["posts"], .dir)] } := File.Tree.supported_of_entries (by decide +kernel)
  have hkeeps : ∀ d', .change d' ∈ nestedBefore ++ .change (.make ["posts", "a", "b", "c.md"] (.file "c")) :: nestedAfter →
      d'.keepsDirectories = true := by
    simp [nestedBefore, nestedAfter, Deed.keepsDirectories]
  have hvisible : Visible ["posts"] ["posts", "a", "b", "c.md"] := ⟨["a", "b", "c.md"], rfl, by decide +kernel⟩
  exact rebuilding_follows_change hsupported rfl hbegun (by rw [hphase]; exact nofun) hs hidle hkeeps rfl hvisible (by decide)

end Session

end Watch

end Marginalia
