import Mathlib.Algebra.Order.Floor.Div
import Mathlib.Data.Set.Card
import Mathlib.Order.Interval.Finset.Nat
import NamePattern.Generator.Buffer
import NamePattern.Proofs.Generator.Draws

/-!
# Picks are uniform up to one pair of words

A pick among `n` options is the whole part of `x * n / 2 ^ 64`, where `x` is the number of 64 bits
that two words make (`pick_fst_eq`). That the second word is often not read makes no difference:
then it could not have changed the whole part. So an index is picked by the numbers between two
multiples of `2 ^ 64 / n`, rounded up (`filter_mul_div_eq`), and of these there are as many for each
index, up to one (`card_filter_mul_div`).
-/

namespace NamePattern

/-! ## A pick as a product -/

/-- The number of 64 bits that a pair of words makes, the first being the upper half. -/
def pairNumber (pair : UInt32 × UInt32) : Nat := pair.1.toNat * 2 ^ 32 + pair.2.toNat

theorem pairNumber_injective : Function.Injective pairNumber := by
  rintro ⟨first, second⟩ ⟨first', second'⟩ same
  have bound := second.toNat_lt
  have bound' := second'.toNat_lt
  simp only [pairNumber] at same
  have upper : first.toNat = first'.toNat := by omega
  have lower : second.toNat = second'.toNat := by omega
  rw [UInt32.toNat_inj.mp upper, UInt32.toNat_inj.mp lower]

theorem mem_range_pairNumber {number : Nat} :
    number ∈ Set.range pairNumber ↔ number < 2 ^ 64 := by
  constructor
  · rintro ⟨⟨first, second⟩, rfl⟩
    have bound := first.toNat_lt
    have bound' := second.toNat_lt
    simp only [pairNumber]
    omega
  · intro small
    have high : number / 2 ^ 32 < 4294967296 := by omega
    have low : number % 2 ^ 32 < 4294967296 := by omega
    refine ⟨(UInt32.ofNat (number / 2 ^ 32), UInt32.ofNat (number % 2 ^ 32)), ?_⟩
    simp only [pairNumber, UInt32.toNat_ofNat_of_lt' high, UInt32.toNat_ofNat_of_lt' low]
    omega

/-- A pick is the whole part of an exact product, whether or not the second word is read. -/
theorem pick_fst_eq (words : Words) {n : Nat} (small : n < 2 ^ 32) (position : Nat) :
    (pick words n position).1 =
      pairNumber (words position, words (position + 1)) * n / 2 ^ 64 := by
  have more_lt := (words (position + 1)).toNat_lt
  have more_le : (words (position + 1)).toNat * n ≤ 4294967295 * n :=
    Nat.mul_le_mul_right n (by omega)
  have expand : pairNumber (words position, words (position + 1)) * n =
      (words position).toNat * n * 2 ^ 32 + (words (position + 1)).toNat * n := by
    rw [pairNumber, Nat.add_mul, Nat.mul_right_comm]
  -- what is left is linear in the products of the two words
  rw [expand]
  unfold pick
  generalize (words position).toNat * n = product
  generalize (words (position + 1)).toNat * n = more at more_le ⊢
  dsimp only
  split
  · split <;> omega
  · show product / 4294967296 = _
    omega

/-! ## How many numbers pick an index -/

section Count

variable {size n index : Nat}

theorem mul_ceilDiv_lt (pos : 0 < n) (size : Nat) : n * (size ⌈/⌉ n) < size + n := by
  have quotient := Nat.mul_div_le (size + n - 1) n
  rw [Nat.ceilDiv_eq_add_pred_div]
  omega

/-- The numbers that pick an index lie between two bounds. -/
theorem filter_mul_div_eq (pos : 0 < size) (lt : index < n) :
    {x ∈ Finset.range size | x * n / size = index} =
      Finset.Ico ((index * size) ⌈/⌉ n) (((index + 1) * size) ⌈/⌉ n) := by
  have n_pos : 0 < n := Nat.zero_lt_of_lt lt
  have last : (index + 1) * size ≤ size * n := by
    rw [Nat.mul_comm size]
    exact Nat.mul_le_mul_right size lt
  ext x
  have between : x * n / size = index ↔ index * size ≤ x * n ∧ x * n < (index + 1) * size := by
    rw [Nat.div_eq_iff pos, Nat.add_one_mul]
    omega
  rw [Finset.mem_filter, Finset.mem_range, Finset.mem_Ico, between,
    lt_iff_not_ge (a := x) (b := ((index + 1) * size) ⌈/⌉ n), ceilDiv_le_iff_le_mul n_pos,
    ceilDiv_le_iff_le_mul n_pos, not_le, Nat.mul_comm n x]
  constructor
  · rintro ⟨-, picked⟩
    exact picked
  · rintro ⟨reached, before⟩
    exact ⟨Nat.lt_of_mul_lt_mul_right (Nat.lt_of_lt_of_le before last), reached, before⟩

/-- A number of steps of width `n` that come to a size, up to less than a step. -/
theorem eq_div_or_eq_ceilDiv {steps : Nat} (pos : 0 < n) (least : size < n * steps + n)
    (most : n * steps < size + n) : steps = size / n ∨ steps = size ⌈/⌉ n := by
  by_cases within : n * steps ≤ size
  · left
    rw [Nat.mul_comm] at within least
    rw [← Nat.add_one_mul] at least
    exact (Nat.div_eq_of_lt_le within least).symm
  · right
    refine le_antisymm ?_ ?_
    · -- with one step less the size is not reached
      by_contra fewer
      have farther : n * (size ⌈/⌉ n + 1) ≤ n * steps := Nat.mul_le_mul_left n (by omega)
      have covered : size ≤ n * (size ⌈/⌉ n) := le_smul_ceilDiv pos
      rw [Nat.mul_add_one] at farther
      omega
    · rw [ceilDiv_le_iff_le_mul pos]
      omega

theorem card_filter_mul_div (pos : 0 < size) (lt : index < n) :
    ({x ∈ Finset.range size | x * n / size = index} : Finset Nat).card = size / n ∨
    ({x ∈ Finset.range size | x * n / size = index} : Finset Nat).card = size ⌈/⌉ n := by
  have n_pos : 0 < n := Nat.zero_lt_of_lt lt
  have low_le : index * size ≤ n * ((index * size) ⌈/⌉ n) := le_smul_ceilDiv n_pos
  have low_lt := mul_ceilDiv_lt n_pos (index * size)
  have high_le : (index + 1) * size ≤ n * (((index + 1) * size) ⌈/⌉ n) := le_smul_ceilDiv n_pos
  have high_lt := mul_ceilDiv_lt n_pos ((index + 1) * size)
  rw [filter_mul_div_eq pos lt, Nat.card_Ico]
  generalize (index * size) ⌈/⌉ n = low at low_le low_lt ⊢
  generalize ((index + 1) * size) ⌈/⌉ n = high at high_le high_lt ⊢
  rw [Nat.add_one_mul] at high_le high_lt
  refine eq_div_or_eq_ceilDiv n_pos ?_ ?_
  · rw [Nat.mul_sub]
    omega
  · rw [Nat.mul_sub]
    omega

end Count

/-! ## The pairs that pick an index -/

/-- The pairs of words that pick an index, whatever words come behind them. -/
def pickingPairs (n index : Nat) : Set (UInt32 × UInt32) :=
  {pair | ∀ words position, words position = pair.1 → words (position + 1) = pair.2 →
    (pick words n position).1 = index}

theorem mem_pickingPairs_iff {n index : Nat} (small : n < 2 ^ 32) {pair : UInt32 × UInt32} :
    pair ∈ pickingPairs n index ↔ pairNumber pair * n / 2 ^ 64 = index := by
  constructor
  · intro picks
    have picked := picks (fun place => if place = 0 then pair.1 else pair.2) 0 rfl rfl
    rw [pick_fst_eq _ small] at picked
    exact picked
  · rintro rfl words position first second
    rw [pick_fst_eq words small, first, second]

theorem ncard_pickingPairs {n index : Nat} (small : n < 2 ^ 32) (lt : index < n) :
    (pickingPairs n index).ncard = 2 ^ 64 / n ∨ (pickingPairs n index).ncard = 2 ^ 64 ⌈/⌉ n := by
  let numbers : Finset Nat := {x ∈ Finset.range (2 ^ 64) | x * n / 2 ^ 64 = index}
  have pairs : pickingPairs n index = Set.preimage pairNumber numbers := by
    ext pair
    have inside : pairNumber pair < 2 ^ 64 := mem_range_pairNumber.mp ⟨pair, rfl⟩
    rw [mem_pickingPairs_iff small, Set.mem_preimage, Finset.mem_coe, Finset.mem_filter,
      Finset.mem_range]
    exact (and_iff_right inside).symm
  have reached : (numbers : Set Nat) ⊆ Set.range pairNumber := by
    intro number member
    exact mem_range_pairNumber.mpr (Finset.mem_range.mp (Finset.mem_filter.mp member).1)
  rw [pairs, Set.ncard_preimage_of_injective_subset_range pairNumber_injective reached,
    Set.ncard_coe_finset]
  exact card_filter_mul_div (by decide) lt

namespace Generator

/-- **Uniform picks.** The index of the option that a choice takes is the whole part of
`x * n / 2 ^ 64`, where `n` is the number of options and `x` the number that the next two words
make, whether or not the second of them is read; this is below `n`. Of the `2 ^ 64` pairs of words
each option is taken by `2 ^ 64 / n` of them, rounded up or down. -/
theorem choice_uniform {options : List Generator} (filled : options ≠ [])
    (small : options.length < 2 ^ 32) :
    (∀ words position,
      let index := pairNumber (words position, words (position + 1)) * options.length / 2 ^ 64
      index < options.length ∧ (pick words options.length position).1 = index ∧
      ∃ option, options[index]? = some option ∧ generate words (choice options) position =
        generate words option (pick words options.length position).2) ∧
    ∀ index < options.length,
      (pickingPairs options.length index).ncard = 2 ^ 64 / options.length ∨
      (pickingPairs options.length index).ncard = 2 ^ 64 ⌈/⌉ options.length := by
  refine ⟨?_, fun index lt => ncard_pickingPairs small lt⟩
  intro words position index
  have product : (pick words options.length position).1 = index := pick_fst_eq words small position
  have inside := pick_fst_lt words (List.length_pos_iff.mpr filled) position
  obtain ⟨option, there, sampled, -⟩ := exists_picked words position filled
  rw [product] at inside there
  simp only [generate_eq_sample]
  exact ⟨inside, product, option, there, sampled⟩

/-- Three options: the second word carries the pick on to the second option, and `2 ^ 64` is no
multiple of three. -/
theorem choice_uniform_three :
    let options := [literal "a", literal "b", literal "c"]
    let words := Source.word (.cycle #[1431655765, 2863311530])
    options ≠ [] ∧ options.length < 2 ^ 32 ∧ (pick words 3 0).2 = 2 ∧ (pick words 3 0).1 = 1 ∧
      generate words (choice options) 0 = ("b", 2) ∧
      ((pickingPairs 3 1).ncard = 6148914691236517205 ∨
        (pickingPairs 3 1).ncard = 6148914691236517206) := by
  intro options words
  have filled : options ≠ [] := List.cons_ne_nil _ _
  have small : options.length < 2 ^ 32 := by decide
  have finish : (pick words options.length 0).2 = 2 := by decide
  have number : pairNumber (words 0, words (0 + 1)) * options.length / 2 ^ 64 = 1 := by decide
  obtain ⟨taken, shares⟩ := choice_uniform filled small
  obtain ⟨-, product, option, there, sampled⟩ := taken words 0
  rw [number] at product there
  refine ⟨filled, small, finish, product, ?_, ?_⟩
  · obtain rfl : literal "b" = option := Option.some.inj there
    rw [sampled, finish, generate_eq_sample, sample_literal]
  · have share : (pickingPairs 3 1).ncard = 2 ^ 64 / 3 ∨ (pickingPairs 3 1).ncard = 2 ^ 64 ⌈/⌉ 3 :=
      shares 1 (by decide)
    rw [Nat.ceilDiv_eq_add_pred_div] at share
    simpa using share

end Generator

end NamePattern
