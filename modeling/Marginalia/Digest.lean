import Marginalia.Text.Basic

/-!
The SHA-256 digest of a text.
-/

namespace Marginalia

/-- A digest of 32 octets. -/
abbrev Digest := Text

namespace Digest

/-- The first 32 bits of the fractional parts of the cube roots of the first 64 primes. -/
def roundConstants : List UInt32 :=
  [0x428a2f98, 0x71374491, 0xb5c0fbcf, 0xe9b5dba5, 0x3956c25b, 0x59f111f1, 0x923f82a4, 0xab1c5ed5,
    0xd807aa98, 0x12835b01, 0x243185be, 0x550c7dc3, 0x72be5d74, 0x80deb1fe, 0x9bdc06a7, 0xc19bf174,
    0xe49b69c1, 0xefbe4786, 0x0fc19dc6, 0x240ca1cc, 0x2de92c6f, 0x4a7484aa, 0x5cb0a9dc, 0x76f988da,
    0x983e5152, 0xa831c66d, 0xb00327c8, 0xbf597fc7, 0xc6e00bf3, 0xd5a79147, 0x06ca6351, 0x14292967,
    0x27b70a85, 0x2e1b2138, 0x4d2c6dfc, 0x53380d13, 0x650a7354, 0x766a0abb, 0x81c2c92e, 0x92722c85,
    0xa2bfe8a1, 0xa81a664b, 0xc24b8b70, 0xc76c51a3, 0xd192e819, 0xd6990624, 0xf40e3585, 0x106aa070,
    0x19a4c116, 0x1e376c08, 0x2748774c, 0x34b0bcb5, 0x391c0cb3, 0x4ed8aa4a, 0x5b9cca4f, 0x682e6ff3,
    0x748f82ee, 0x78a5636f, 0x84c87814, 0x8cc70208, 0x90befffa, 0xa4506ceb, 0xbef9a3f7, 0xc67178f2]

/-- The eight working words. -/
structure Words where
  a : UInt32
  b : UInt32
  c : UInt32
  d : UInt32
  e : UInt32
  f : UInt32
  g : UInt32
  h : UInt32
deriving DecidableEq, Repr, Inhabited

/-- The first 32 bits of the fractional parts of the square roots of the first eight primes. -/
def start : Words :=
  ⟨0x6a09e667, 0xbb67ae85, 0x3c6ef372, 0xa54ff53a, 0x510e527f, 0x9b05688c, 0x1f83d9ab, 0x5be0cd19⟩

def rotate (x : UInt32) (n : UInt32) : UInt32 := (x >>> n) ||| (x <<< (32 - n))

/-- A word of four octets, the most significant first. -/
def word : Text → UInt32 := fun t => t.foldl (fun n c => n * 256 + c.toUInt32) 0

/-- The octets of a word, the most significant first. -/
def octets (w : UInt32) : Text :=
  [(w >>> 24).toUInt8, (w >>> 16).toUInt8, (w >>> 8).toUInt8, w.toUInt8]

/-- Cuts a text into pieces of `size` octets. -/
def pieces (size : Nat) : (count : Nat) → Text → List Text
  | 0, _ => []
  | n + 1, t => t.take size :: pieces size n (t.drop size)

/-- The next word of the schedule from the last sixteen, which are listed latest first. -/
def scheduled (recent : List UInt32) : UInt32 :=
  let back (k : Nat) : UInt32 := (recent[k]?).getD 0
  let x := back 14
  let y := back 1
  let s0 := rotate x 7 ^^^ rotate x 18 ^^^ (x >>> 3)
  let s1 := rotate y 17 ^^^ rotate y 19 ^^^ (y >>> 10)
  back 15 + s0 + back 6 + s1

/-- The schedule of a block, latest word first. -/
def schedule (block : Text) : List UInt32 :=
  let first := ((pieces 4 16 block).map word).reverse
  (List.range 48).foldl (fun ws _ => scheduled ws :: ws) first

/-- One round. -/
def round (s : Words) (kw : UInt32 × UInt32) : Words :=
  let s1 := rotate s.e 6 ^^^ rotate s.e 11 ^^^ rotate s.e 25
  let choice := (s.e &&& s.f) ^^^ (~~~ s.e &&& s.g)
  let t1 := s.h + s1 + choice + kw.1 + kw.2
  let s0 := rotate s.a 2 ^^^ rotate s.a 13 ^^^ rotate s.a 22
  let majority := (s.a &&& s.b) ^^^ (s.a &&& s.c) ^^^ (s.b &&& s.c)
  ⟨t1 + (s0 + majority), s.a, s.b, s.c, s.d + t1, s.e, s.f, s.g⟩

/-- Takes a block of 64 octets into the working words. -/
def absorb (s : Words) (block : Text) : Words :=
  let t := (roundConstants.zip (schedule block).reverse).foldl round s
  ⟨s.a + t.a, s.b + t.b, s.c + t.c, s.d + t.d, s.e + t.e, s.f + t.f, s.g + t.g, s.h + t.h⟩

/-- The text with a mark bit, zeros, and its length in bits on eight octets, in whole blocks. -/
def padded (t : Text) : Text :=
  let zeros := (64 - (t.length + 9) % 64) % 64
  let bits := t.length * 8
  t ++ 0x80 :: (List.replicate zeros 0
    ++ octets (bits / 0x100000000).toUInt32 ++ octets bits.toUInt32)

/-- The SHA-256 digest of a text. -/
def sha256 (t : Text) : Digest :=
  let all := padded t
  let s := (pieces 64 (all.length / 64) all).foldl absorb start
  [s.a, s.b, s.c, s.d, s.e, s.f, s.g, s.h].flatMap octets

end Digest

end Marginalia
