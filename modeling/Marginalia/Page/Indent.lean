import Marginalia.Text.Basic

/-!
The indentation of a comment: one and a half widths for each reply between it and the post, up to a
limit, computed with 53 significant bits.
-/

namespace Marginalia

namespace Page

/-- The number rounded to at most `bits` significant bits, a half to the even neighbour. -/
def roundToBits (bits n : Nat) : Nat :=
  let unit := 1 <<< (n.log2 + 1 - bits)
  let low := n / unit
  let rest := n % unit
  if 2 * rest < unit || (2 * rest == unit && low % 2 == 0) then low * unit else (low + 1) * unit

/-- Replies below this depth are indented no further. -/
def maxIndentDepth : Int := 6

/-- The indentation at a depth, with one decimal. -/
def indentText (depth : Int) : Text :=
  let d := min depth maxIndentDepth
  let halves := roundToBits 53 (3 * roundToBits 53 d.natAbs)
  (if d < 0 then "-" else "") ++ Text.ofNat (halves / 2)
    ++ (if halves % 2 == 1 then ".5em" else ".0em")

end Page

end Marginalia
