import NamePattern.Random

/-!
# Picks

`pick` never leaves its range, the carry of a second word included (`pick_fst_lt`), and it reaches
all of its range: for each index there is a block of one or two words that picks it
(`exists_block_pick`). Blocks are put one behind the other by `standsAt_append`.
-/

namespace NamePattern

/-! ## Blocks of words -/

/-- The words from a position on start with a block. -/
def StandsAt (words : Words) (position : Nat) (block : List UInt32) : Prop :=
  ∀ offset word, block[offset]? = some word → words (position + offset) = word

theorem standsAt_append {words : Words} {position : Nat} {front back : List UInt32} :
    StandsAt words position (front ++ back) ↔
      StandsAt words position front ∧ StandsAt words (position + front.length) back := by
  constructor
  · intro stands
    constructor
    · intro offset word there
      refine stands offset word ?_
      have inside := (List.getElem?_eq_some_iff.mp there).1
      rw [List.getElem?_append_left inside, there]
    · intro offset word there
      rw [Nat.add_assoc]
      refine stands (front.length + offset) word ?_
      rw [List.getElem?_append_right (Nat.le_add_right _ _), Nat.add_sub_cancel_left, there]
  · rintro ⟨first, second⟩ offset word there
    by_cases inside : offset < front.length
    · rw [List.getElem?_append_left inside] at there
      exact first offset word there
    · rw [List.getElem?_append_right (Nat.le_of_not_lt inside)] at there
      have later := second (offset - front.length) word there
      rwa [Nat.add_assoc, Nat.add_sub_of_le (Nat.le_of_not_lt inside)] at later

theorem exists_standsAt (position : Nat) (block : List UInt32) :
    ∃ words : Words, StandsAt words position block := by
  refine ⟨fun place => (block[place - position]?).getD 0, ?_⟩
  intro offset word there
  simp [there]

/-! ## The words of a pick -/

/-- A pick reads one word or two. -/
theorem pick_snd_eq_or (words : Words) (n position : Nat) :
    (pick words n position).2 = position + 1 ∨ (pick words n position).2 = position + 2 := by
  unfold pick
  dsimp only
  split
  · exact .inr rfl
  · exact .inl rfl

/-- Where the number of indices is a power of two, a second word is never read: the fraction is a
multiple of that number, as 2 ^ 32 is, so the number fits once more below 2 ^ 32. -/
theorem pick_snd_of_isPowerOfTwo (words : Words) {n : Nat} (power : n.isPowerOfTwo)
    (small : n < 4294967296) (position : Nat) : (pick words n position).2 = position + 1 := by
  obtain ⟨exponent, rfl⟩ := power
  have divides : 2 ^ exponent ∣ 2 ^ 32 :=
    Nat.pow_dvd_pow 2 (Nat.le_of_lt ((Nat.pow_lt_pow_iff_right (by decide)).mp small))
  obtain ⟨times, whole⟩ : 2 ^ exponent ∣ 4294967296 := divides
  generalize 2 ^ exponent = n at whole small
  have times_pos : 0 < times := by
    refine Nat.pos_of_ne_zero ?_
    rintro rfl
    simp at whole
  have fraction : (words position).toNat * n % 4294967296 =
      n * ((words position).toNat % times) := by
    rw [whole, Nat.mul_comm, Nat.mul_mod_mul_left]
  have once_more : n * ((words position).toNat % times + 1) ≤ n * times :=
    Nat.mul_le_mul_left n (Nat.mod_lt _ times_pos)
  rw [Nat.mul_add_one, ← fraction, ← whole] at once_more
  have one : ¬ 4294967296 - n < (words position).toNat * n % 4294967296 := by omega
  simp [pick, one]

/-- A pick depends on the words that it reads, and not on where they stand. -/
theorem pick_congr {words words' : Words} {n position position' : Nat}
    (first : words' position' = words position)
    (second : (pick words n position).2 = position + 2 →
      words' (position' + 1) = words (position + 1)) :
    pick words' n position' =
      ((pick words n position).1, position' + ((pick words n position).2 - position)) := by
  by_cases two : 4294967296 - n < (words position).toNat * n % 4294967296
  · have again : words' (position' + 1) = words (position + 1) := second (by simp [pick, two])
    simp [pick, first, again, two]
  · simp [pick, first, two]

/-! ## The range of a pick -/

/-- A pick stays below its bound. The carry cannot push the last index out: for that the two
products would have to reach `n * 2 ^ 32` together, and they stay at least one below it. -/
theorem pick_fst_lt (words : Words) {n : Nat} (pos : 0 < n) (position : Nat) :
    (pick words n position).1 < n := by
  have word_lt := (words position).toNat_lt
  have more_lt := (words (position + 1)).toNat_lt
  have product_le : (words position).toNat * n ≤ 4294967295 * n :=
    Nat.mul_le_mul_right n (by omega)
  have more_product_le : (words (position + 1)).toNat * n ≤ 4294967295 * n :=
    Nat.mul_le_mul_right n (by omega)
  -- the rest is linear in the two products, so the words themselves are forgotten
  unfold pick
  generalize (words position).toNat * n = product at product_le ⊢
  generalize (words (position + 1)).toNat * n = more at more_product_le ⊢
  dsimp only
  split
  · split <;> omega
  · show product / 4294967296 < n
    omega

/-- The least word whose product with `n` reaches an index has a product that passes it by less
than `n`. -/
theorem exists_word_of_lt {n index : Nat} (lt : index < n) (small : n < 4294967296) :
    ∃ word : UInt32, index * 4294967296 ≤ word.toNat * n ∧
      word.toNat * n < index * 4294967296 + n := by
  have pos : 0 < n := Nat.zero_lt_of_lt lt
  have division := Nat.div_add_mod' (index * 4294967296 + n - 1) n
  have remainder := Nat.mod_lt (index * 4294967296 + n - 1) pos
  have fits : (index * 4294967296 + n - 1) / n < 4294967296 := by
    refine Nat.div_lt_of_lt_mul ?_
    have step : (index + 1) * 4294967296 ≤ n * 4294967296 := Nat.mul_le_mul_right _ lt
    omega
  generalize (index * 4294967296 + n - 1) / n = least at division fits
  refine ⟨UInt32.ofNat least, ?_⟩
  rw [UInt32.toNat_ofNat_of_lt' fits]
  omega

/-- Every index below the bound is picked by some block. Where the first word alone leaves the
index open, a second word of zero leaves it as it is. -/
theorem exists_block_pick {n index : Nat} (lt : index < n) (small : n < 4294967296) :
    ∃ block, ∀ words position, StandsAt words position block →
      pick words n position = (index, position + block.length) := by
  obtain ⟨word, reaches, close⟩ := exists_word_of_lt lt small
  have quotient : word.toNat * n / 4294967296 = index := by omega
  have fraction : word.toNat * n % 4294967296 = word.toNat * n - index * 4294967296 := by omega
  by_cases one : 4294967296 - n < word.toNat * n % 4294967296
  · refine ⟨[word, 0], ?_⟩
    intro words position stands
    have first : words position = word := stands 0 word rfl
    have second : words (position + 1) = 0 := stands 1 0 rfl
    have no_carry : ¬ 4294967296 ≤ word.toNat * n % 4294967296 := by omega
    simp [pick, first, second, one, quotient, no_carry]
  · refine ⟨[word], ?_⟩
    intro words position stands
    have first : words position = word := stands 0 word rfl
    simp [pick, first, one, quotient]

end NamePattern
