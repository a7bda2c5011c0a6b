import Marginalia.Text.Romanize.Han
import Marginalia.Text.Romanize.Scripts

/-!
The Latin letters and digits nearest to a character of another script, in lower case, as names of files need
them. A sign is a hyphen, and what only marks a letter is nothing.
-/

namespace Marginalia

namespace Text

/-- The first consonants of Korean syllables. -/
def hangulHeads : List Text := (splitOn ' ' "g gg n d dd r m b bb s ss  j jj c k t p h")

/-- The vowels of Korean syllables. -/
def hangulVowels : List Text := words "a ae ya yae eo e yeo ye o wa wae oe yo u weo we wi yu eu yi i"

/-- The last consonants of Korean syllables; there may be none. -/
def hangulTails : List Text :=
  [] :: words "g gg gs n nj nh d l lg lm lb ls lt lp lh m b bs s ss ng j c k t p h"

/-- A Korean syllable is numbered by its first consonant, its vowel and its last consonant. -/
def romanizeHangul (n : Nat) : Text :=
  (hangulHeads[n / 588]?).getD [] ++ (hangulVowels[n % 588 / 28]?).getD [] ++ (hangulTails[n % 28]?).getD []

/-- The word at a place of a run, and nothing for a point. -/
def romanWord (run : String) (k : Nat) : Text :=
  match (words run)[k]? with
  | some w => if w == "." then [] else w
  | none => []

/-- Is the number in one of the ranges? -/
def isWithin (ranges : List (Nat × Nat)) (n : Nat) : Bool :=
  ranges.any fun (low, high) => low ≤ n && n ≤ high

/-- The Latin letters for a character. -/
def romanizeChar (c : Char) : Text :=
  let n := c.toNat
  if n < 0x80 then [c.toUInt8]
  else if 0xac00 ≤ n && n ≤ 0xd7a3 then romanizeHangul (n - 0xac00)
  else if 0x4e00 ≤ n && n ≤ 0x9fa5 then romanizeHan c ++ "-"
  else if 0xff01 ≤ n && n ≤ 0xff5e then [toLower (UInt8.ofNat (n - 0xfee0))]
  else match romanRuns.find? fun (first, last, _) => first ≤ n && n ≤ last with
    | some (first, _, run) => romanWord run (n - first)
    | none => if isWithin silentRuns n then [] else onlyIf (isWithin knownBlocks (n / 256)) "-"

end Text

end Marginalia
