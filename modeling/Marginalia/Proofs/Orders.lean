import Mathlib.Data.List.Lex
import Mathlib.Data.Prod.Lex
import Mathlib.Order.Compare
import Marginalia.Calendar.Basic

/-!
The comparisons of texts and moments as linear orders. Texts are ordered octet by octet, and moments as
instants, by seconds and then by nanoseconds; the clock a moment was read from does not count.
-/

namespace Marginalia

/-! ### Comparisons -/

/-- A comparison by a first part and then by a second one is that of the lexicographic product. -/
theorem compares_then {α β : Type} [LinearOrder α] [LinearOrder β] {o o' : Ordering} {x y : α × β}
    (h : o.Compares x.1 y.1) (h' : o'.Compares x.2 y.2) : (o.then o').Compares (toLex x) (toLex y) := by
  cases o with
  | lt => exact Prod.Lex.toLex_lt_toLex.mpr (Or.inl h)
  | gt => exact Prod.Lex.toLex_lt_toLex.mpr (Or.inl h)
  | eq =>
    have hfst : x.1 = y.1 := h
    cases o' with
    | lt => exact Prod.Lex.toLex_lt_toLex.mpr (Or.inr ⟨hfst, h'⟩)
    | eq => exact congrArg toLex (Prod.ext hfst h')
    | gt => exact Prod.Lex.toLex_lt_toLex.mpr (Or.inr ⟨hfst.symm, h'⟩)

theorem compares_compare {α : Type} [LinearOrder α] (a b : α) : (compare a b).Compares a b := by
  cases h : compare a b with
  | lt => exact compare_lt_iff_lt.mp h
  | eq => exact compare_eq_iff_eq.mp h
  | gt => exact compare_gt_iff_gt.mp h

theorem isLE_iff_of_compares {α : Type} [LinearOrder α] {o : Ordering} {a b : α} (h : o.Compares a b) :
    o.isLE = true ↔ a ≤ b := by
  rw [← h.ne_gt]
  cases o <;> simp

/-! ### Texts -/

namespace Orders

/-- Octets in the order of their numbers. -/
scoped instance octetOrder : LinearOrder UInt8 where
  le_refl := UInt8.le_refl
  le_trans _ _ _ := UInt8.le_trans
  le_antisymm _ _ := UInt8.le_antisymm
  le_total := UInt8.le_total
  lt_iff_le_not_ge a b := by
    rw [UInt8.not_le]
    exact ⟨fun h => ⟨UInt8.le_of_lt h, h⟩, And.right⟩
  toDecidableLE := inferInstance

end Orders

open scoped Orders

/-- Texts are compared octet by octet, a beginning before what it begins. -/
theorem Text.order_compares : ∀ a b : Text, (Text.order a b).Compares a b
  | [], [] => rfl
  | [], _ :: _ => List.Lex.nil
  | _ :: _, [] => List.Lex.nil
  | x :: a, y :: b => by
    have hhead := compares_compare x y
    have htail := order_compares a b
    rw [Text.order, List.compare_cons_cons]
    rw [Text.order] at htail
    generalize compare x y = o at hhead ⊢
    generalize compare a b = o' at htail ⊢
    cases o with
    | lt => exact List.Lex.rel hhead
    | gt => exact List.Lex.rel hhead
    | eq =>
      obtain rfl : x = y := hhead
      cases o' with
      | lt => exact List.Lex.cons htail
      | eq => exact congrArg (x :: ·) htail
      | gt => exact List.Lex.cons htail

theorem Text.order_append (lead a b : Text) : Text.order (lead ++ a) (lead ++ b) = Text.order a b := by
  induction lead with
  | nil => rfl
  | cons c lead ih =>
    rw [Text.order, Text.order] at *
    rw [List.cons_append, List.cons_append, List.compare_cons_cons, ih, compare_eq_iff_eq.mpr rfl]
    rfl

theorem Text.order_ne_gt_iff (a b : Text) : (Text.order a b != .gt) = true ↔ a ≤ b := by
  rw [bne_iff_ne]
  exact (Text.order_compares a b).ne_gt

/-- Texts that are sorted stand in order. -/
theorem Text.pairwise_mergeSort (ts : List Text) :
    (ts.mergeSort fun a b => Text.order a b != .gt).Pairwise fun a b => a ≤ b := by
  refine (List.pairwise_mergeSort ?_ ?_ ts).imp fun h => (order_ne_gt_iff _ _).mp h
  · intro a b c hab hbc
    exact (order_ne_gt_iff a c).mpr (((order_ne_gt_iff a b).mp hab).trans ((order_ne_gt_iff b c).mp hbc))
  · intro a b
    rw [Bool.or_eq_true, order_ne_gt_iff, order_ne_gt_iff]
    exact le_total a b

/-- Texts that are sorted stand in strict order if no two are the same. -/
theorem Text.ascends_mergeSort {ts : List Text} (h : ts.Nodup) :
    (ts.mergeSort fun a b => Text.order a b != .gt).Pairwise fun a b => Text.order a b = .lt := by
  have hnodup := (List.mergeSort_perm ts fun a b => Text.order a b != .gt).nodup_iff.mpr h
  refine ((pairwise_mergeSort ts).and hnodup).imp fun {a b} hab => ?_
  exact (order_compares a b).eq_lt.mpr (lt_of_le_of_ne hab.1 hab.2)

/-- Sorting gives the texts in the order that they have already. -/
theorem Text.mergeSort_eq_of_perm {ts us : List Text} (h : ts.Perm us)
    (hs : us.Pairwise fun a b => Text.order a b = .lt) : (ts.mergeSort fun a b => Text.order a b != .gt) = us := by
  have hle : us.Pairwise fun a b => a ≤ b := hs.imp fun hab => ((order_compares _ _).eq_lt.mp hab).le
  refine List.Perm.eq_of_pairwise (fun a b _ _ => le_antisymm) (pairwise_mergeSort ts) hle ?_
  exact (List.mergeSort_perm ts _).trans h

/-! ### Moments -/

/-- The instant of a moment, whatever clock it was read from. -/
def Moment.instant (m : Moment) : Int ×ₗ Nat := toLex (m.seconds, m.nano)

theorem Moment.order_compares (a b : Moment) : (a.order b).Compares a.instant b.instant :=
  compares_then (compares_compare a.seconds b.seconds) (compares_compare a.nano b.nano)

end Marginalia
