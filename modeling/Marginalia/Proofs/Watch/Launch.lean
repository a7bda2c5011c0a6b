import Mathlib
import Marginalia.Command.Run
import Marginalia.Proofs.Site.Course
import Marginalia.Proofs.Watch.Awareness
import Marginalia.Watch.Launch

/-!
Changes at the beginning. While a site is built for the first time nothing is watched, and when watching begins the site is
not built again. So a change is followed by a rebuilding if its directory was watched already or another change that was
told calls for one, and otherwise it is not: the pages stay as they were made of what was read before.
-/

namespace Marginalia

namespace Watch

open File (Tree Place)

namespace Deed

variable {d : Deed} {dir : Place} {name : Text} {watched : List Place} {n : Notice}

/-- Those who watch the directories are told of it, and it matters. -/
def Told (watched : List Place) (d : Deed) : Prop := ∃ n ∈ d.notices watched, n.matters = true

theorem watched_of_notices (h : d.altered? = some (dir ++ [name])) (hn : n ∈ d.notices watched) : dir ∈ watched := by
  have hentry : ∀ c, n ∈ ofEntry watched (dir ++ [name]) c → dir ∈ watched := by
    intro c hn
    have hwatched := (List.mem_ite_nil_right.mp hn).1
    rw [List.dropLast_concat, Bool.and_eq_true, List.contains_iff_mem] at hwatched
    exact hwatched.2
  cases d with
  | make place node =>
    obtain rfl := Option.some.inj h
    exact hentry _ hn
  | write place node =>
    obtain rfl := Option.some.inj h
    exact hentry _ hn
  | unlink place =>
    obtain rfl := Option.some.inj h
    exact hentry _ hn
  | rmdir place => cases h
  | move source target => cases h
  | changeMode place => cases h

/-- An alteration under a name that is not ignored is told exactly if its directory is watched. -/
theorem told_iff (h : d.altered? = some (dir ++ [name])) (hname : Path.IsName name) (hshown : isIgnoredName name = false) :
    d.Told watched ↔ dir ∈ watched := by
  constructor
  · rintro ⟨n, hn, -⟩
    exact watched_of_notices h hn
  · intro hdir
    obtain ⟨c, halters, -, htold⟩ := notices_of_watched h hdir
    exact ⟨_, htold, (Notice.matters_concat halters hname).mpr hshown⟩

theorem not_told_nil (d : Deed) : ¬ d.Told [] := by
  rintro ⟨n, hn, -⟩
  cases d <;> simp [notices, ofEntry, ofItself] at hn

end Deed

namespace Session

variable {s s' : Session} {a : Action}

theorem Owes.of_proceed (hs : s.proceed? = some s') (hstopped : s'.phase ≠ .stopped) (h : s'.Owes) : s.Owes := by
  rcases proceed_cases hs with ⟨first, hphase, rfl⟩ | ⟨first, v, todo, added, more, hphase, -, rfl⟩ |
    ⟨first, v, todo, hphase, -, rfl⟩ | ⟨place, hphase, rfl⟩ | ⟨hphase, rfl⟩
  · refine h.imp_left fun harms => ?_
    cases first with
    | true => exact harms.elim
    | false => rw [hphase]; rfl
  · refine h.imp_left fun harms => ?_
    rw [hphase]
    exact harms
  · cases first with
    | true => exact absurd rfl hstopped
    | false => exact Or.inl (by rw [hphase]; rfl)
  · exact Or.inl (by rw [hphase]; trivial)
  · exact Or.inl (by rw [hphase]; trivial)

/-- A rebuilding comes to be owed only by a change that is told. -/
theorem Owes.of_step (hs : s.step a = some s') (hstopped : s'.phase ≠ .stopped) (h : s'.Owes) :
    s.Owes ∨ ∃ d, a = .change d ∧ d.Told s.watched := by
  rcases step_cases hs with ⟨d, rfl, hs⟩ | ⟨n, queue, -, hphase, hqueue, rfl⟩ | ⟨-, hs⟩ | ⟨-, harmed, rfl⟩ |
    ⟨-, -, hfired, rfl⟩ | ⟨_, -, -, rfl⟩ | ⟨-, -, rfl⟩
  · obtain ⟨t', -, rfl⟩ := Option.map_eq_some_iff.mp hs
    rcases h with harms | ⟨n, hn, hmatters⟩ | htimer
    · exact Or.inl (Or.inl harms)
    · rcases List.mem_append.mp hn with hn | hn
      · exact Or.inl (Or.inr (Or.inl ⟨n, hn, hmatters⟩))
      · exact Or.inr ⟨d, rfl, n, hn, hmatters⟩
    · exact Or.inl (Or.inr (Or.inr htimer))
  · refine Or.inl (Or.inr ?_)
    rcases h with harms | ⟨m, hm, hmatters⟩ | htimer
    · have hmatters : n.matters = true := by
        by_contra hnot
        rw [Bool.not_eq_true] at hnot
        rw [Notice.response, hnot] at harms
        exact harms
      exact Or.inl ⟨n, hqueue ▸ List.mem_cons_self, hmatters⟩
    · exact Or.inl ⟨m, hqueue ▸ List.mem_cons_of_mem n hm, hmatters⟩
    · exact Or.inr htimer
  · exact Or.inl (h.of_proceed hs hstopped)
  · exact Or.inl (Or.inr (Or.inr (Or.inl harmed)))
  · exact Or.inl (Or.inr (Or.inr (Or.inr hfired)))
  · exact Or.inl (h.imp_left False.elim)
  · exact absurd rfl hstopped

/-- What is told and matters is owed. -/
theorem Owes.of_told {d : Deed} (hs : s.suffer? d = some s') (h : d.Told s.watched) : s'.Owes := by
  obtain ⟨t', -, rfl⟩ := Option.map_eq_some_iff.mp hs
  obtain ⟨n, hn, hmatters⟩ := h
  exact Or.inr (Or.inl ⟨n, List.mem_append_right _ hn, hmatters⟩)

theorem owes_of_tick (hs : s.step .tick = some s') : s.Owes := by
  obtain ⟨hready, -⟩ := Option.ite_none_right_eq_some.mp hs
  exact Or.inr (Or.inr (Or.inr (Bool.and_eq_true_iff.mp hready).2))

/-- A session that has stopped stays so. -/
theorem stopped_of_step (h : s.phase = .stopped) (hs : s.step a = some s') : s'.phase = .stopped := by
  rcases step_cases hs with ⟨d, -, hs⟩ | ⟨n, queue, -, hphase, -⟩ | ⟨-, hs⟩ | ⟨-, -, rfl⟩ | ⟨-, hphase, -⟩ |
    ⟨_, -, hphase, -⟩ | ⟨-, -, rfl⟩
  · obtain ⟨t', -, rfl⟩ := Option.map_eq_some_iff.mp hs
    exact h
  · rw [h] at hphase
    cases hphase
  · rw [proceed?, h] at hs
    cases hs
  · exact h
  · rw [h] at hphase
    cases hphase
  · rw [h] at hphase
    cases hphase
  · rfl

end Session

namespace Launch

variable {l l' : Launch} {a : Action} {s : Site} {w : Session}

theorem follow_cons_eq_some {actions : List Action} :
    l.follow (a :: actions) = some l' ↔ ∃ next, l.step a = some next ∧ next.follow actions = some l' := by
  rw [follow, List.foldlM_cons]
  exact Option.bind_eq_some_iff

theorem follow_append_eq_some {before after : List Action} :
    l.follow (before ++ after) = some l' ↔ ∃ next, l.follow before = some next ∧ next.follow after = some l' := by
  rw [follow, List.foldlM_append]
  exact Option.bind_eq_some_iff

/-! ### The beginning if nobody interferes -/

theorem follow_building (left : Course SiteError Unit) (s : Site) : ∃ n,
    (building s left).follow (List.replicate n .proceed) =
      some (building (s.run left.alone).2 (.done (s.run left.alone).1)) := by
  induction left generalizing s with
  | done r => exact ⟨0, rfl⟩
  | act effect next ih =>
    obtain ⟨n, hn⟩ := ih s (effect s)
    exact ⟨n + 1, follow_cons_eq_some.mpr ⟨_, rfl, hn⟩⟩

/-- What the command to watch comes to when it is interrupted. -/
def outcome : Launch → Command.Outcome
  | failed s e => .failed s e.message
  | building s _ => { site := s }
  | watching s session =>
    { site := s.note { level := .info, message := "watching for changes"
                       fields := [("dir", .text s.config.postsPath)] }
      session := session.run.2 }

theorem runWatch_eq (s : Site) : Command.runWatch s =
    (watch (built (s.run (Build.build false)).2 (s.run (Build.build false)).1)).outcome := by
  unfold Command.runWatch
  generalize s.run (Build.build false) = x
  obtain ⟨e | _, t⟩ := x <;> dsimp only [built] <;> rw [watch, Session.start] <;>
    cases File.Tree.find _ _ _ <;> rfl

/-- If nobody interferes, watching begins as the command to watch begins it. -/
theorem follow_alone {depth : Nat} (hdepth : s.tree.depth < depth) : ∃ n l,
    (start depth s).follow (List.replicate n .proceed) = some l ∧ Command.runWatch s = l.outcome := by
  obtain ⟨n, hn⟩ := follow_building (.build depth) s
  rw [Course.run_alone_build hdepth] at hn
  refine ⟨n + 1, _, ?_, runWatch_eq s⟩
  rw [List.replicate_succ', follow_append_eq_some]
  exact ⟨_, hn, rfl⟩

/-! ### What calls for a rebuilding -/

/-- A rebuilding will begin before the session waits in vain. -/
def Owes : Launch → Prop
  | watching _ session => session.Owes
  | _ => False

/-- Some change among the actions is told when it is made, and matters. -/
def SomeTold (l : Launch) (actions : List Action) : Prop :=
  ∃ before d after l', actions = before ++ .change d :: after ∧ l.follow before = some l' ∧ d.Told l'.watched

theorem someTold_cons {next : Launch} {actions : List Action} (hs : l.step a = some next) :
    l.SomeTold (a :: actions) ↔ (∃ d, a = .change d ∧ d.Told l.watched) ∨ next.SomeTold actions := by
  constructor
  · rintro ⟨before, d, after, l', heq, hbefore, htold⟩
    cases before with
    | nil =>
      obtain ⟨rfl, rfl⟩ := List.cons.inj heq
      obtain rfl := Option.some.inj hbefore
      exact Or.inl ⟨d, rfl, htold⟩
    | cons b before =>
      obtain ⟨rfl, rfl⟩ := List.cons.inj heq
      obtain ⟨next', hs', hbefore⟩ := follow_cons_eq_some.mp hbefore
      obtain rfl := Option.some.inj (hs.symm.trans hs')
      exact Or.inr ⟨before, d, after, l', rfl, hbefore, htold⟩
  · rintro (⟨d, rfl, htold⟩ | ⟨before, d, after, l', rfl, hbefore, htold⟩)
    · exact ⟨[], d, actions, l, rfl, rfl, htold⟩
    · exact ⟨a :: before, d, after, l', rfl, follow_cons_eq_some.mpr ⟨next, hs, hbefore⟩, htold⟩

/-- What can happen in the beginning. -/
theorem step_cases (hs : l.step a = some l') :
    (∃ s left d tree, l = building s left ∧ a = .change d ∧ l' = building { s with tree } left) ∨
    (∃ s effect next, l = building s (.act effect next) ∧ a = .proceed ∧ l' = building (effect s) (next s)) ∨
    (∃ s r, l = building s (.done r) ∧ a = .proceed ∧ l' = watch (built s r)) ∨
    (∃ s w w', l = watching s w ∧ w.step a = some w' ∧ l' = watching s w') := by
  unfold step at hs
  split at hs
  · obtain ⟨tree, -, rfl⟩ := Option.map_eq_some_iff.mp hs
    exact Or.inl ⟨_, _, _, tree, rfl, rfl, rfl⟩
  · exact Or.inr (Or.inl ⟨_, _, _, rfl, rfl, (Option.some.inj hs).symm⟩)
  · exact Or.inr (Or.inr (Or.inl ⟨_, _, rfl, rfl, (Option.some.inj hs).symm⟩))
  · obtain ⟨w', hw, rfl⟩ := Option.map_eq_some_iff.mp hs
    exact Or.inr (Or.inr (Or.inr ⟨_, _, w', rfl, hw, rfl⟩))
  · cases hs

/-- A session that begins to watch owes nothing. -/
theorem not_owes_watch (s : Site) : ¬ (watch s).Owes := by
  unfold watch
  split
  · rename_i place node _
    rintro (harms | ⟨n, hn, -⟩ | harmed | hfired)
    · cases harms
    · cases hn
    · cases harmed
    · cases hfired
  · exact id

/-- A rebuilding is owed exactly if it was owed before or the change is told. -/
theorem owes_step_iff (hs : l.step a = some l') (ha : a ≠ .tick) (hstopped : ∀ s w, l' = watching s w → w.phase ≠ .stopped) :
    l'.Owes ↔ l.Owes ∨ ∃ d, a = .change d ∧ d.Told l.watched := by
  rcases step_cases hs with ⟨s, left, d, tree, rfl, rfl, rfl⟩ | ⟨s, effect, next, rfl, rfl, rfl⟩ |
    ⟨s, r, rfl, rfl, rfl⟩ | ⟨s, w, w', rfl, hw, rfl⟩
  · exact iff_of_false id (not_or.mpr ⟨id, fun ⟨d', _, htold⟩ => d'.not_told_nil htold⟩)
  · exact iff_of_false id (not_or.mpr ⟨id, nofun⟩)
  · exact iff_of_false (not_owes_watch _) (not_or.mpr ⟨id, nofun⟩)
  · constructor
    · exact fun howes => Session.Owes.of_step hw (hstopped s w' rfl) howes
    · rintro (howes | ⟨d, rfl, htold⟩)
      · exact Session.Owes.step howes ha hw
      · exact Session.Owes.of_told hw htold

theorem follow_stopped {actions : List Action} (h : w.phase = .stopped) (hs : (watching s w).follow actions = some l') :
    ∃ w', l' = watching s w' ∧ w'.phase = .stopped := by
  induction actions generalizing w with
  | nil => exact ⟨w, (Option.some.inj hs).symm, h⟩
  | cons a actions ih =>
    obtain ⟨next, hstep, hs⟩ := follow_cons_eq_some.mp hs
    obtain ⟨w', hw, rfl⟩ := Option.map_eq_some_iff.mp hstep
    exact ih (Session.stopped_of_step h hw) hs

/-- A rebuilding begins exactly if one is owed or some change is told. -/
theorem tick_mem_iff {actions : List Action} (hrun : l.follow actions = some (watching s w)) (hidle : w.Idle) :
    .tick ∈ actions ↔ l.Owes ∨ l.SomeTold actions := by
  induction actions generalizing l with
  | nil =>
    obtain rfl := Option.some.inj hrun
    exact iff_of_false List.not_mem_nil (not_or.mpr ⟨hidle.not_owes, fun ⟨_, _, _, _, heq, _⟩ => by simp at heq⟩)
  | cons a actions ih =>
    obtain ⟨next, hstep, hrun⟩ := follow_cons_eq_some.mp hrun
    rw [someTold_cons hstep, List.mem_cons, ih hrun]
    by_cases ha : a = .tick
    · subst ha
      have howes : l.Owes := by
        rcases step_cases hstep with ⟨_, _, _, _, _, ha, _⟩ | ⟨_, _, _, _, ha, _⟩ | ⟨_, _, _, ha, _⟩ |
          ⟨s, w, w', rfl, hw, -⟩
        · cases ha
        · cases ha
        · cases ha
        · exact Session.owes_of_tick hw
      exact iff_of_true (Or.inl rfl) (Or.inl howes)
    · have hstopped : ∀ s' w', next = watching s' w' → w'.phase ≠ .stopped := by
        rintro s' w' rfl hphase
        obtain ⟨w'', heq, hphase'⟩ := follow_stopped hphase hrun
        obtain ⟨-, rfl⟩ := watching.inj heq
        rw [hidle.phase] at hphase'
        cases hphase'
      rw [owes_step_iff hstep ha hstopped, or_iff_right (Ne.symm ha), or_assoc]

/-- When a change is followed by a rebuilding: exactly if it is told, a rebuilding is owed already, or a later change is
told. While the site is built, this rests on later changes alone; and a change in a directory is told if the directory is
watched. -/
theorem rebuilt_iff_told {changed : Launch} {after : List Action} {d : Deed} (hchange : l.step (.change d) = some changed)
    (hafter : changed.follow after = some (watching s w)) (hidle : w.Idle) :
    (.tick ∈ after ↔ d.Told l.watched ∨ l.Owes ∨ changed.SomeTold after) ∧
    (∀ site left, l = building site left → (.tick ∈ after ↔ changed.SomeTold after)) ∧
    ∀ dir name, d.altered? = some (dir ++ [name]) → Path.IsName name → isIgnoredName name = false →
      (d.Told l.watched ↔ dir ∈ l.watched) := by
  have htick : .tick ∈ after ↔ d.Told l.watched ∨ l.Owes ∨ changed.SomeTold after := by
    have hrun : l.follow (.change d :: after) = some (watching s w) := follow_cons_eq_some.mpr ⟨changed, hchange, hafter⟩
    have hfirst : (∃ d', Action.change d = .change d' ∧ d'.Told l.watched) ↔ d.Told l.watched := by simp
    have hall := tick_mem_iff hrun hidle
    rw [List.mem_cons, or_iff_right nofun, someTold_cons hchange, hfirst] at hall
    rw [hall, or_left_comm]
  refine ⟨htick, ?_, fun dir name haltered hname hshown => Deed.told_iff haltered hname hshown⟩
  rintro site left rfl
  exact htick.trans ((or_iff_right d.not_told_nil).trans (or_iff_right id))

/-! ### Changes that come too late to be read and too early to be told -/

/-- The files as they are. -/
def tree : Launch → Tree
  | building s _ | failed s _ => s.tree
  | watching _ session => session.tree

/-- Does a session wait in vain? -/
def isIdle : Launch → Bool
  | watching _ session => session.phase == .waiting && session.queue.isEmpty && !session.armed && !session.fired
  | _ => false

theorem exists_idle (h : l.isIdle = true) : ∃ s w, l = watching s w ∧ w.Idle := by
  cases l with
  | watching s w =>
    simp only [isIdle, Bool.and_eq_true, beq_iff_eq, List.isEmpty_iff, Bool.not_eq_true'] at h
    exact ⟨s, w, rfl, h.1.1.1, h.1.1.2, h.1.2, h.2⟩
  | _ => cases h

/-- A site with one post. -/
def single : Site := .withComments {} { entries := [(["posts"], .dir), (["posts", "a.md"], .file "Old.")] }

/-- The post is read. -/
def reading : List Action := List.replicate 4 .proceed

/-- The post is written anew. -/
def rewriting : Deed := .write ["posts", "a.md"] (.file "New.")

/-- The building is finished, and the directory is added to what is watched. -/
def finishing : List Action := List.replicate 25 .proceed

/-- Another post is made, which is told, and the site is built anew. -/
def another : List Action :=
  [.change (.make ["posts", "b.md"] (.file "More.")), .receive, .proceed, .proceed, .fire, .tick, .finish true]

/-- The other change saves the first. -/
theorem another_rebuilt : ∃ l changed s w, (start 3 single).follow reading = some l ∧
    l.step (.change rewriting) = some changed ∧ changed.follow (finishing ++ another) = some (watching s w) ∧ w.Idle ∧
    .tick ∈ finishing ++ another := by
  have hend : ((start 3 single).follow (reading ++ .change rewriting :: (finishing ++ another))).map isIdle = some true := by
    decide +kernel
  have hmid : ((start 3 single).follow (reading ++ .change rewriting :: finishing)).map watched =
      some ([["posts"]] : List Place) := by
    decide +kernel
  obtain ⟨ended, hrun, hended⟩ := Option.map_eq_some_iff.mp hend
  obtain ⟨s, w, rfl, hidle⟩ := exists_idle hended
  obtain ⟨mid, hmid, hwatched⟩ := Option.map_eq_some_iff.mp hmid
  obtain ⟨l, hreading, hmid⟩ := follow_append_eq_some.mp hmid
  obtain ⟨changed, hchange, hfinishing⟩ := follow_cons_eq_some.mp hmid
  have hafter : changed.follow (finishing ++ another) = some (watching s w) := by
    obtain ⟨l', hreading', hrest⟩ := follow_append_eq_some.mp hrun
    obtain rfl := Option.some.inj (hreading'.symm.trans hreading)
    obtain ⟨changed', hchange', hafter⟩ := follow_cons_eq_some.mp hrest
    obtain rfl := Option.some.inj (hchange'.symm.trans hchange)
    exact hafter
  have htold : (Deed.make ["posts", "b.md"] (.file "More.")).Told mid.watched := by
    rw [hwatched]
    exact ⟨⟨["posts", "b.md"], { created := true }⟩, by decide, by decide⟩
  have hsome : changed.SomeTold (finishing ++ another) := ⟨finishing, _, _, mid, rfl, hfinishing, htold⟩
  exact ⟨l, changed, s, w, hreading, hchange, hafter, hidle,
    (rebuilt_iff_told hchange hafter hidle).1.mpr (Or.inr (Or.inr hsome))⟩

/-- The page of the post. -/
def pagePlace : Place := ["output", "posts", "a", "index.html"]

/-- What is at the place of the page when a site has been built of files. -/
def pageOf (t : Tree) : Option File.Node := ((Site.withComments {} t).run (Build.build false)).2.tree.get? pagePlace

/-- A post that is written anew while the site is built, after it was read, is not built anew: its old page stays. -/
theorem overtaken_not_rebuilt : ∃ s w,
    (start 3 single).follow (reading ++ .change rewriting :: finishing) = some (watching s w) ∧ w.Idle ∧
    .tick ∉ finishing ∧ w.tree.get? ["posts", "a.md"] = some (.file "New.") ∧
    w.tree.get? pagePlace = pageOf single.tree ∧ w.tree.get? pagePlace ≠ pageOf w.tree := by
  have hend : ((start 3 single).follow (reading ++ .change rewriting :: finishing)).map (fun l =>
      (l.isIdle, l.tree.get? ["posts", "a.md"], l.tree.get? pagePlace == pageOf single.tree,
        l.tree.get? pagePlace == pageOf l.tree)) = some (true, some (.file "New."), true, false) := by
    decide +kernel
  obtain ⟨l, hrun, hl⟩ := Option.map_eq_some_iff.mp hend
  simp only [Prod.mk.injEq, beq_iff_eq, beq_eq_false_iff_ne] at hl
  obtain ⟨s, w, rfl, hidle⟩ := exists_idle hl.1
  exact ⟨s, w, hrun, hidle, by decide, hl.2⟩

end Launch

end Watch

end Marginalia
