import Mathlib
import Marginalia.Command.Run
import Marginalia.Proofs.Watch.Changes

/-!
Looking at the files again. A session suffers what has been done since its last look and goes on as it would have if it had
been told of each deed, so that whatever has changed in a watched directory calls for a new build.
-/

namespace Marginalia

namespace Watch

open File (Tree)

/-! ### Sessions that look again -/

namespace Session

variable {s s' : Session} {a : Action} {after t : Tree} {dir : File.Place} {name : Text}

/-- A session that suffers deeds that can be done takes them as changes. -/
theorem sufferAll_follow {ds : List Deed} (h : Deed.performAll? s.tree ds = some t) :
    s.follow (ds.map .change) = some (s.sufferAll ds) ∧ (s.sufferAll ds).tree = t ∧ (s.sufferAll ds).phase = s.phase := by
  induction ds generalizing s with
  | nil => exact ⟨rfl, Option.some.inj h, rfl⟩
  | cons d ds ih =>
    obtain ⟨t', ht', hrest⟩ := Deed.performAll?_cons_eq_some.mp h
    obtain ⟨s', hs', htree, hphase⟩ : ∃ s', s.suffer? d = some s' ∧ s'.tree = t' ∧ s'.phase = s.phase := by
      rw [suffer?, ht']
      exact ⟨_, rfl, rfl, rfl⟩
    obtain ⟨hfollow, htree', hphase'⟩ := ih (s := s') (htree ▸ hrest)
    have hall : s.sufferAll (d :: ds) = s'.sufferAll ds := by rw [sufferAll, List.foldl_cons, hs']; rfl
    rw [hall]
    exact ⟨follow_cons_eq_some.mpr ⟨s', hs', hfollow⟩, htree', hphase'.trans hphase⟩

theorem mem_watched_of_follow {ds : List Deed} (hds : ∀ d ∈ ds, ∀ watched, dir ∈ watched → dir ∈ d.stillWatched watched)
    (hs : s.follow (ds.map .change) = some s') (hdir : dir ∈ s.watched) : dir ∈ s'.watched := by
  induction ds generalizing s with
  | nil => exact Option.some.inj hs ▸ hdir
  | cons d ds ih =>
    obtain ⟨next, hnext, hs⟩ := follow_cons_eq_some.mp hs
    refine ih (fun d hd => hds d (List.mem_cons_of_mem _ hd)) hs ?_
    obtain ⟨t', -, rfl⟩ := Option.map_eq_some_iff.mp hnext
    exact hds d List.mem_cons_self _ hdir

/-- What a session does when it is left alone is a row of actions, and it tells whether a rebuilding began. -/
theorem runFor_follow (turns : Nat) (s : Session) : ∃ actions, s.follow actions = some (runFor turns s).2 ∧
    ((runFor turns s).1 = true ↔ .tick ∈ actions) := by
  induction turns generalizing s with
  | zero => exact ⟨[], rfl, by simp [runFor]⟩
  | succ turns ih =>
    cases hnext : s.next? with
    | none => exact ⟨[], by rw [runFor_of_rest _ hnext]; rfl, by simp [runFor, hnext]⟩
    | some a =>
      obtain ⟨s', hs'⟩ := step_next? hnext
      obtain ⟨actions, hactions, htick⟩ := ih s'
      refine ⟨a :: actions, ?_, ?_⟩
      · rw [runFor_succ hnext hs']
        exact follow_cons_eq_some.mpr ⟨s', hs', hactions⟩
      · rw [runFor, hnext]
        simp only [hs', Bool.or_eq_true, beq_iff_eq, htick, List.mem_cons]
        exact or_congr_left eq_comm

/-- The session is past its beginning, and has not stopped. -/
structure Goes (s : Session) : Prop where
  stopped : s.phase ≠ .stopped
  begun : ∀ todo, s.phase ≠ .walking true todo

theorem Idle.goes (h : s.Idle) : s.Goes := by
  constructor <;> simp [h.phase]

theorem goes_arming : ({ s with phase := .arming } : Session).Goes := ⟨by simp, by simp⟩

theorem next?_ne_change (d : Deed) : s.next? ≠ some (.change d) := by
  unfold next?
  split
  · split
    · simp
    split
    · simp
    split <;> simp
  all_goals simp

theorem next?_ne_stop : s.next? ≠ some .stop := by
  unfold next?
  split
  · split
    · simp
    split
    · simp
    split <;> simp
  all_goals simp

theorem response_goes (n : Notice) : n.response ≠ .stopped ∧ ∀ todo, n.response ≠ .walking true todo := by
  unfold Notice.response
  split
  · simp
  · split <;> simp

theorem Goes.proceed (h : s.Goes) (hs : s.proceed? = some s') : s'.Goes ∧ s'.tree = s.tree := by
  have hfirst : ∀ first todo, s.phase = .walking first todo → first = false := fun first todo hphase =>
    Bool.eq_false_iff.mpr fun htrue => h.begun todo (htrue ▸ hphase)
  rcases proceed_cases hs with ⟨first, hphase, rfl⟩ | ⟨first, v, todo, added, more, hphase, -, rfl⟩ |
    ⟨first, v, todo, hphase, -, rfl⟩ | ⟨place, hphase, rfl⟩ | ⟨hphase, rfl⟩
  · obtain rfl := hfirst _ _ hphase
    exact ⟨goes_arming, rfl⟩
  · obtain rfl := hfirst _ _ hphase
    exact ⟨⟨by simp, by simp⟩, rfl⟩
  · obtain rfl := hfirst _ _ hphase
    exact ⟨goes_arming, rfl⟩
  · refine ⟨?_, rfl⟩
    split
    · exact ⟨by simp, by simp⟩
    · exact goes_arming
  · exact ⟨⟨by simp, by simp⟩, rfl⟩

/-- Left alone, a session that goes goes on, and leaves the files alone. -/
theorem Goes.next (h : s.Goes) (hnext : s.next? = some a) (hs : s.step a = some s') : s'.Goes ∧ s'.tree = s.tree := by
  rcases step_cases hs with ⟨d, rfl, -⟩ | ⟨n, queue, -, -, -, rfl⟩ | ⟨-, hs⟩ | ⟨-, -, rfl⟩ | ⟨-, -, -, rfl⟩ |
    ⟨_, -, -, rfl⟩ | ⟨rfl, -⟩
  · exact absurd hnext (next?_ne_change d)
  · exact ⟨⟨(response_goes n).1, (response_goes n).2⟩, rfl⟩
  · exact h.proceed hs
  · exact ⟨⟨h.stopped, h.begun⟩, rfl⟩
  · exact ⟨⟨by simp, by simp⟩, rfl⟩
  · exact ⟨⟨by simp, by simp⟩, rfl⟩
  · exact absurd hnext next?_ne_stop

theorem Goes.idle (h : s.Goes) (hrest : s.next? = none) : s.Idle := by
  unfold next? at hrest
  split at hrest
  · rename_i hphase
    split at hrest
    · cases hrest
    rename_i hqueue
    split at hrest
    · cases hrest
    rename_i hfired
    split at hrest
    · cases hrest
    rename_i harmed
    exact ⟨hphase, by simpa using hqueue, by simpa using harmed, by simpa using hfired⟩
  · cases hrest
  · rename_i hphase
    exact absurd hphase h.stopped
  · cases hrest

/-- The session waits in vain, and its files stand as they can. -/
structure Settled (s : Session) : Prop where
  idle : s.Idle
  supported : s.tree.Supported
  wellFormed : s.tree.WellFormed

theorem settled_start {root : Text} (h : start t root = .ok s) (ht : t.Supported) (hwf : t.WellFormed) : s.Settled := by
  cases hfind : t.find false root with
  | error e =>
    rw [start, hfind] at h
    cases h
  | ok found =>
    obtain rfl := Except.ok.inj ((start_eq_ok hfind).symm.trans h)
    exact ⟨⟨rfl, rfl, rfl, rfl⟩, ht, hwf⟩

/-- A session that looks again suffers what has been done, goes on until it waits in vain, and has the files then as they
are. -/
theorem look_spec (hs : s.Settled) (hafter : after.Supported) (hwf : after.WellFormed) :
    (s.look after).2.Settled ∧ (∀ q, (s.look after).2.tree.get? q = after.get? q) ∧
    ∃ actions, s.follow ((Deed.changes s.tree after).map .change ++ actions) = some (s.look after).2 ∧
      ((s.look after).1 = true ↔ .tick ∈ actions) := by
  obtain ⟨t, ht, hget⟩ := Deed.performAll?_changes hs.supported hafter hs.wellFormed hwf
  obtain ⟨hfollow, htree, hphase⟩ := sufferAll_follow ht
  have hgoes : (s.sufferAll (Deed.changes s.tree after)).Goes := by
    constructor <;> simp [hphase, hs.idle.phase]
  obtain ⟨⟨hgoes', htree'⟩, hrest⟩ := run_rests (P := fun u => u.Goes ∧ u.tree = t)
    (fun h hnext hstep => ⟨(h.1.next hnext hstep).1, (h.1.next hnext hstep).2.trans h.2⟩) ⟨hgoes, htree⟩
  obtain ⟨actions, hactions, htick⟩ := runFor_follow _ (s.sufferAll (Deed.changes s.tree after))
  have hsame : ∀ q, (s.look after).2.tree.get? q = after.get? q := fun q => by rw [look, htree', hget]
  refine ⟨⟨hgoes'.idle hrest, ⟨fun dir name => ?_⟩, ?_⟩, hsame, actions,
    follow_append_eq_some.mpr ⟨_, hfollow, hactions⟩, htick⟩
  · rw [hsame, hsame]
    exact hafter.stands dir name
  · rw [look, htree']
    exact Deed.performAll?_wellFormed hwf (List.Subset.refl _) hs.wellFormed ht

/-- However often it has looked, the session waits in vain, with the files as they stood at the last look. -/
theorem settled_looks (hs : s.Settled) {trees : List Tree} (htrees : ∀ t ∈ trees, t.Supported ∧ t.WellFormed) :
    (trees.foldl (fun s t => (s.look t).2) s).Settled := by
  induction trees generalizing s with
  | nil => exact hs
  | cons t trees ih =>
    obtain ⟨ht, hwf⟩ := htrees t List.mem_cons_self
    exact ih (look_spec hs ht hwf).1 fun t' ht' => htrees t' (List.mem_cons_of_mem _ ht')

/-- Whatever has changed in a watched directory under a name that is not ignored calls for a new build. -/
theorem look_of_other (hs : s.Settled) (hafter : after.Supported) (hwf : after.WellFormed) (hdir : dir ∈ s.watched)
    (hthere : s.tree.get? dir = some .dir) (hstays : after.get? dir = some .dir) (hname : Path.IsName name)
    (hshown : isIgnoredName name = false) (hother : s.tree.get? (dir ++ [name]) ≠ after.get? (dir ++ [name])) :
    (s.look after).1 = true := by
  obtain ⟨hsettled, -, actions, hfollow, htick⟩ := look_spec hs hafter hwf
  obtain ⟨d, hd, htold⟩ := Deed.exists_told hname hshown hother
  have hkept : Deed.isFreed s.tree after dir = false := by simp [Deed.isFreed, hthere, hstays]
  obtain ⟨ds, ds', hchanges⟩ := List.append_of_mem hd
  rw [hchanges, List.map_append, List.map_cons, List.append_assoc] at hfollow
  obtain ⟨next, hds, hfollow⟩ := follow_append_eq_some.mp hfollow
  obtain ⟨changed, hchanged, hfollow⟩ := follow_cons_eq_some.mp hfollow
  have hwatched : dir ∈ next.watched := by
    refine mem_watched_of_follow (fun d' hd' watched => Deed.mem_stillWatched ?_ hkept) hds hdir
    rw [hchanges]
    exact List.mem_append_left _ hd'
  -- Once it is told, a rebuilding is owed, and a session that waits in vain owes none.
  have howes : changed.Owes := .of_told hchanged (htold _ hwatched)
  rw [htick]
  by_contra hnone
  refine hsettled.idle.not_owes (howes.follow (fun hmem => ?_) hfollow)
  rcases List.mem_append.mp hmem with hmem | hmem
  · obtain ⟨d', -, hd'⟩ := List.mem_map.mp hmem
    cases hd'
  · exact hnone hmem

/-- Where the files are as they were, nothing calls for a new build. -/
theorem look_of_same (hs : s.Idle) (hsame : ∀ q, after.get? q = s.tree.get? q) : s.look after = (false, s) := by
  have hrest : s.next? = none := by simp [next?, hs.phase, hs.queue, hs.armed, hs.fired]
  rw [look, Deed.changes_eq_nil hsame, sufferAll, List.foldl_nil, run]
  cases s.turnsLeft <;> simp [runFor, hrest]

end Session

end Watch

/-! ### The program -/

namespace Command

open Watch (Session isIgnoredName)

variable {w : Session} {after : File.Tree} {dir : File.Place} {name : Text}

/-- Whatever has changed since the last look in a watched directory under a name that is not ignored, the site is built
anew from the files as they are. -/
theorem lookAgain_of_other (hw : w.Settled) (hafter : after.Supported) (hwf : after.WellFormed) (hdir : dir ∈ w.watched)
    (hthere : w.tree.get? dir = some .dir) (hstays : after.get? dir = some .dir) (hname : Path.IsName name)
    (hshown : isIgnoredName name = false) (hother : w.tree.get? (dir ++ [name]) ≠ after.get? (dir ++ [name]))
    (s : Site) (now : Moment) : (lookAgain s w after now).1 = rebuild { s with tree := after, now, log := [] } := by
  have hlook := Session.look_of_other hw hafter hwf hdir hthere hstays hname hshown hother
  rw [lookAgain]
  simp only [hlook, if_true]

/-- Where nothing has changed since the last look, the site stays as it is. -/
theorem lookAgain_of_same (hw : w.Settled) (hsame : ∀ q, after.get? q = w.tree.get? q) (s : Site) (now : Moment) :
    lookAgain s w after now = ({ s with tree := after, now, log := [] }, w) := by
  rw [lookAgain, Session.look_of_same hw.idle hsame]
  rfl

end Command

end Marginalia
