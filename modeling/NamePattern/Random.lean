/-!
# Random words and picks

Randomness is an endless row of 32-bit words, read through a position that only grows. A
`Source` describes such a row; `pick` turns one or two of its words into an index below a bound.
-/

namespace NamePattern

/-- An endless row of random words; a reader keeps the position of the next one. -/
abbrev Words := Nat → UInt32

/-! ## Sources -/

/-- Where random words come from. -/
inductive Source where
  /-- The listed words, over and over; without any, zero for ever. -/
  | cycle (words : Array UInt32)
  /-- A 64-bit state that goes up by a fixed odd number; each word is made by mixing the state. -/
  | splitMix (seed : UInt64)
  deriving DecidableEq, Repr

/-- Spreads every bit of a 64-bit state over the whole state. -/
def mix (state : UInt64) : UInt64 :=
  let first := (state ^^^ (state >>> 30)) * 0xBF58476D1CE4E5B9
  let second := (first ^^^ (first >>> 27)) * 0x94D049BB133111EB
  second ^^^ (second >>> 31)

def Source.word : Source → Words
  | .cycle words, position =>
      if filled : 0 < words.size then
        have inside := Nat.mod_lt position filled
        words[position % words.size]
      else 0
  | .splitMix seed, position =>
      (mix (seed + UInt64.ofNat (position + 1) * 0x9E3779B97F4A7C15) >>> 32).toUInt32

/-! ## Picks -/

/-- Draws an index below `n`, for `n` from 1 to 2 ^ 32 - 1, with the words at a position; gives the
index and the position after these words.

The word `w` picks the index `w * n / 2 ^ 32`. The fraction that this drops could still reach the
next index if it is so large that a second word might fill it up, so a second word is read then
and only then. -/
def pick (words : Words) (n position : Nat) : Nat × Nat :=
  let product := (words position).toNat * n
  let index := product / 4294967296
  let fraction := product % 4294967296
  if 4294967296 - n < fraction then
    let more := (words (position + 1)).toNat * n / 4294967296
    (if 4294967296 ≤ fraction + more then index + 1 else index, position + 2)
  else
    (index, position + 1)

/-- Where there is one index only, one word is read and never a second. -/
theorem pick_one (words : Words) (position : Nat) : pick words 1 position = (0, position + 1) := by
  have bound := (words position).toNat_lt
  have few : ¬ 4294967296 - 1 < (words position).toNat * 1 % 4294967296 := by omega
  have first : (words position).toNat * 1 / 4294967296 = 0 := by omega
  simp only [pick, few, if_false, first]

end NamePattern
