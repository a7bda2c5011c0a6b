import Mathlib
import Marginalia.RenderCache

/-!
What a cache of renderings gives. Those who share a cache look for renderings and keep new ones, in any order between
each other, and now and then the cache is set up anew. All that is ever in it are renderings under the digests of
their sources, so whoever takes the rendering of a source from it gets what rendering it would give, unless
another source with the same digest has been kept.
-/

namespace Marginalia.RenderCache

variable {render : Text → Text} {sources : Set Text} {c : RenderCache} {source : Text}

/-- What is done with a cache of renderings. -/
inductive Use where
  /-- The rendering of a source is looked for. -/
  | look (source : Text)
  /-- The rendering of a source is kept. -/
  | keep (source : Text)
  /-- The cache is set up anew. -/
  | configure (size : Int)
deriving DecidableEq, Repr

def use (render : Text → Text) (c : RenderCache) : Use → RenderCache
  | .look source => (c.lookup source).2
  | .keep source => c.store source (render source)
  | .configure size => ofSize size

/-- A cache of the default size after uses in order. -/
def after (render : Text → Text) (uses : List Use) : RenderCache :=
  uses.foldl (use render) (ofSize defaultCapacity)

/-- Each entry is the rendering of one of the sources under its digest. -/
def Genuine (render : Text → Text) (sources : Set Text) (c : RenderCache) : Prop :=
  ∀ e ∈ c.entries, ∃ source ∈ sources, e = (Digest.sha256 source, render source)

namespace Genuine

theorem ofSize (size : Int) : Genuine render sources (RenderCache.ofSize size) := fun _ he => nomatch he

theorem lookup (h : Genuine render sources c) (source : Text) : Genuine render sources (c.lookup source).2 := by
  unfold RenderCache.lookup Recent.get
  split
  · rename_i found hfound
    intro e he
    rcases List.mem_cons.mp he with rfl | he
    · exact h e (List.mem_of_find?_eq_some hfound)
    · exact h e (List.mem_of_mem_filter he)
  · exact h

theorem store (h : Genuine render sources c) (hsource : source ∈ sources) :
    Genuine render sources (c.store source (render source)) := by
  intro e he
  rcases List.mem_cons.mp (List.mem_of_mem_take he) with rfl | he
  · exact ⟨source, hsource, rfl⟩
  · exact h e (List.mem_of_mem_filter he)

theorem use (h : Genuine render sources c) {u : Use} (hu : ∀ source, u = .keep source → source ∈ sources) :
    Genuine render sources (c.use render u) := by
  cases u with
  | look source => exact h.lookup source
  | keep source => exact h.store (hu source rfl)
  | configure size => exact ofSize size

theorem after (uses : List Use) : Genuine render {source | .keep source ∈ uses} (RenderCache.after render uses) := by
  -- The sources are fixed before the induction: they are those of all uses, not of the uses that are left.
  suffices h : ∀ (sources : Set Text) (c : RenderCache), Genuine render sources c →
      (∀ source, .keep source ∈ uses → source ∈ sources) →
      Genuine render sources (uses.foldl (RenderCache.use render) c)
    from h _ _ (ofSize _) fun _ hkept => hkept
  intro sources
  induction uses with
  | nil => exact fun _ h _ => h
  | cons u uses ih =>
    intro c h hkept
    refine ih _ (h.use fun source hu => ?_) fun source hsource => hkept source (List.mem_cons_of_mem u hsource)
    exact hkept source (hu ▸ List.mem_cons_self)

/-- What is found for a source is its rendering, if no other source has its digest. -/
theorem lookup_eq (h : Genuine render sources c)
    (hdigest : ∀ other ∈ sources, Digest.sha256 other = Digest.sha256 source → other = source) {out : Text}
    (hout : (c.lookup source).1 = some out) : out = render source := by
  unfold RenderCache.lookup Recent.get at hout
  split at hout
  · rename_i e hfound
    obtain ⟨other, hother, rfl⟩ := h e (List.mem_of_find?_eq_some hfound)
    obtain rfl := hdigest other hother (by simpa using List.find?_some hfound)
    exact (Option.some.inj hout).symm
  · cases hout

theorem through_eq (h : Genuine render sources c)
    (hdigest : ∀ other ∈ sources, Digest.sha256 other = Digest.sha256 source → other = source) :
    (c.through render source).1 = render source := by
  unfold through
  split
  · rename_i out _ hfound
    exact h.lookup_eq hdigest (congrArg Prod.fst hfound)
  · rfl

end Genuine

end Marginalia.RenderCache
