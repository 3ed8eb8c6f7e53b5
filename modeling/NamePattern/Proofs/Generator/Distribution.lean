import NamePattern.Proofs.Generator.Building
import Mathlib

/-!
# How likely a text is

`Generator.ways` lists the ways in which a generator comes to its texts when every pick is uniform
and independent of the others, each way with its probability, and `Generator.probability` adds up
the ways that come to one text. A choice gives a text with the mean of the probabilities of its
options (`probability_choice`), and the parts of a row are independent
(`probability_concatenation_cons`). The probabilities of all ways add up to one (`mass_ways`), and
the texts that are likely at all are those that the generator can give (`probability_pos_iff`).

The building functions `oneOf`, `join` and `capitalized` leave the ways of the plain nodes as they
are, one by one (`ways_oneOf`, `ways_join`, `ways_capitalized`).
-/

namespace NamePattern

/-- Texts with weights; the same text may come several times. -/
abbrev Weighted := List (String × ℚ)

namespace Weighted

/-- The texts with their weights multiplied by a factor. -/
def scale (factor : ℚ) (ways : Weighted) : Weighted :=
  ways.map fun way => (way.1, factor * way.2)

/-- Each text of one list followed by each text of another; the weights are multiplied. -/
def product (front back : Weighted) : Weighted :=
  front.flatMap fun first => back.map fun second => (first.1 ++ second.1, first.2 * second.2)

def mapText (change : String → String) (ways : Weighted) : Weighted :=
  ways.map fun way => (change way.1, way.2)

def mass (ways : Weighted) : ℚ := (ways.map Prod.snd).sum

/-- The weights of a text added up. -/
def weight (ways : Weighted) (text : String) : ℚ := mass (ways.filter (·.1 = text))

/-! ## Algebra -/

theorem scale_one (ways : Weighted) : ways.scale 1 = ways := by
  simp [scale]

theorem product_empty_text (ways : Weighted) : product [("", 1)] ways = ways := by
  simp [product]

theorem product_only_empty_text (ways : Weighted) : ways.product [("", 1)] = ways := by
  simp [product]

theorem product_text_text (first second : String) (ways : Weighted) :
    product [(first, 1)] (product [(second, 1)] ways) = product [(first ++ second, 1)] ways := by
  simp [product, String.append_assoc]

theorem mapText_mapText (change : String → String)
    (idempotent : ∀ text, change (change text) = change text) (ways : Weighted) :
    (ways.mapText change).mapText change = ways.mapText change := by
  simp [mapText, idempotent]

/-! ## Masses -/

@[simp] theorem mass_nil : mass [] = 0 := rfl

@[simp] theorem mass_cons (way : String × ℚ) (ways : Weighted) :
    mass (way :: ways) = way.2 + ways.mass := by
  simp [mass]

@[simp] theorem mass_append (front back : Weighted) :
    mass (front ++ back) = front.mass + back.mass := by
  simp [mass]

theorem mass_scale (factor : ℚ) (ways : Weighted) :
    (ways.scale factor).mass = factor * ways.mass := by
  induction ways with
  | nil => simp [scale]
  | cons way ways ih =>
    rw [scale] at ih ⊢
    rw [List.map_cons, mass_cons, mass_cons, ih]
    ring

theorem mass_mapText (change : String → String) (ways : Weighted) :
    (ways.mapText change).mass = ways.mass := by
  simp [mass, mapText, Function.comp_def]

theorem mass_product (front back : Weighted) :
    (front.product back).mass = front.mass * back.mass := by
  induction front with
  | nil => simp [product]
  | cons first front ih =>
    have row : mass (back.map fun second => (first.1 ++ second.1, first.2 * second.2)) =
        first.2 * back.mass := by
      rw [← mass_scale]
      simp [mass, scale, Function.comp_def]
    rw [product] at ih ⊢
    rw [List.flatMap_cons, mass_append, mass_cons, ih, row]
    ring

/-- Lists that each add up to one, every one of them scaled down by how many they are, add up to
one together. -/
theorem mass_flatMap_scale (lists : List Weighted) (filled : lists ≠ [])
    (ones : ∀ ways ∈ lists, ways.mass = 1) :
    mass (lists.flatMap (scale (1 / lists.length))) = 1 := by
  -- the factor is freed from the number of lists, which the induction changes
  have general : ∀ factor : ℚ,
      mass (lists.flatMap (scale factor)) = lists.length * factor := by
    intro factor
    clear filled
    induction lists with
    | nil => simp
    | cons ways lists ih =>
      have later := ih fun other member => ones other (by simp [member])
      rw [List.flatMap_cons, mass_append, mass_scale, ones ways (by simp), later,
        List.length_cons]
      push_cast
      ring
  have some : (lists.length : ℚ) ≠ 0 := by
    simpa using filled
  rw [general]
  field_simp

/-! ## The weight of one text -/

@[simp] theorem weight_nil (text : String) : weight [] text = 0 := rfl

theorem weight_cons (way : String × ℚ) (ways : Weighted) (text : String) :
    weight (way :: ways) text = (if way.1 = text then way.2 else 0) + ways.weight text := by
  unfold weight
  by_cases same : way.1 = text
  · simp [same]
  · simp [same]

theorem weight_append (front back : Weighted) (text : String) :
    weight (front ++ back) text = front.weight text + back.weight text := by
  simp [weight]

theorem weight_scale (factor : ℚ) (ways : Weighted) (text : String) :
    (ways.scale factor).weight text = factor * ways.weight text := by
  induction ways with
  | nil => simp [scale]
  | cons way ways ih =>
    rw [scale] at ih ⊢
    rw [List.map_cons, weight_cons, weight_cons, ih, mul_add, mul_ite, mul_zero]

theorem weight_flatMap_scale (factor : ℚ) (lists : List Weighted) (text : String) :
    weight (lists.flatMap (scale factor)) text = factor * (lists.map (weight · text)).sum := by
  induction lists with
  | nil => simp
  | cons ways lists ih =>
    rw [List.flatMap_cons, weight_append, weight_scale, ih, List.map_cons, List.sum_cons, mul_add]

/-- Two texts join to a third at one of its cuts, or at none. -/
theorem ite_join_eq_sum_cuts (first second : String × ℚ) (text : String) :
    (if first.1 ++ second.1 = text then first.2 * second.2 else 0) =
      ∑ cut ∈ Finset.range (text.toList.length + 1),
        (if first.1 = String.ofList (text.toList.take cut) then first.2 else 0) *
          (if second.1 = String.ofList (text.toList.drop cut) then second.2 else 0) := by
  by_cases joined : first.1 ++ second.1 = text
  · -- the only cut that gives these two texts is behind the first of them
    subst joined
    rw [if_pos rfl, Finset.sum_eq_single first.1.toList.length]
    · simp
    · intro cut inside other
      have longer : first.1 ≠ String.ofList ((first.1 ++ second.1).toList.take cut) := by
        intro same
        have lengths := congrArg (·.toList.length) same
        simp only [String.toList_ofList, List.length_take] at lengths
        rw [Finset.mem_range] at inside
        omega
      rw [if_neg longer, zero_mul]
    · intro outside
      simp at outside
  · rw [if_neg joined]
    symm
    apply Finset.sum_eq_zero
    intro cut _
    by_cases front : first.1 = String.ofList (text.toList.take cut)
    · have behind : second.1 ≠ String.ofList (text.toList.drop cut) := by
        intro same
        apply joined
        rw [front, same, ← String.ofList_append, List.take_append_drop, String.ofList_toList]
      rw [if_neg behind, mul_zero]
    · rw [if_neg front, zero_mul]

theorem weight_map_join (first : String × ℚ) (back : Weighted) (text : String) :
    weight (back.map fun second => (first.1 ++ second.1, first.2 * second.2)) text =
      ∑ cut ∈ Finset.range (text.toList.length + 1),
        (if first.1 = String.ofList (text.toList.take cut) then first.2 else 0) *
          back.weight (String.ofList (text.toList.drop cut)) := by
  induction back with
  | nil => simp
  | cons second back ih =>
    rw [List.map_cons, weight_cons, ih, ite_join_eq_sum_cuts, ← Finset.sum_add_distrib]
    refine Finset.sum_congr rfl ?_
    intro cut _
    rw [weight_cons, mul_add]

/-- The weight of a text in a product is added up over the ways to cut it in two. -/
theorem weight_product (front back : Weighted) (text : String) :
    (front.product back).weight text =
      ∑ cut ∈ Finset.range (text.toList.length + 1),
        front.weight (String.ofList (text.toList.take cut)) *
          back.weight (String.ofList (text.toList.drop cut)) := by
  induction front with
  | nil => simp [product]
  | cons first front ih =>
    rw [product] at ih ⊢
    rw [List.flatMap_cons, weight_append, weight_map_join, ih, ← Finset.sum_add_distrib]
    refine Finset.sum_congr rfl ?_
    intro cut _
    rw [weight_cons, add_mul]

end Weighted

namespace Generator

open Weighted (scale product mapText mass weight)

/-- The ways in which a generator comes to its texts. An option is as likely as any other, and what
the parts give does not depend on one another. -/
def ways : Generator → Weighted := fold {
  literal := fun text => [(text, 1)]
  choice := fun each =>
    if each.isEmpty then [("", 1)] else each.flatMap (scale (1 / each.length))
  concatenation := fun each => each.foldr product [("", 1)]
  capitalize := mapText upperFirst }

/-- How likely it is that a generator gives a text. -/
def probability (g : Generator) (text : String) : ℚ := g.ways.weight text

section Equations

variable (options parts : List Generator)

@[simp] theorem ways_literal (text : String) : (literal text).ways = [(text, 1)] := by
  simp [ways]

@[simp] theorem ways_choice_nil : (choice []).ways = [("", 1)] := by
  simp [ways]

theorem ways_choice {options : List Generator} (filled : options ≠ []) :
    (choice options).ways = (options.map ways).flatMap (scale (1 / options.length)) := by
  simp [ways, filled]

@[simp] theorem ways_concatenation_nil : (concatenation []).ways = [("", 1)] := by
  simp [ways]

@[simp] theorem ways_concatenation_cons (part : Generator) :
    (concatenation (part :: parts)).ways = product part.ways (concatenation parts).ways := by
  simp [ways]

@[simp] theorem ways_capitalize (inner : Generator) :
    (capitalize inner).ways = mapText upperFirst inner.ways := by
  simp [ways]

end Equations

/-! ## Probabilities from those of the children -/

/-- What a choice gives is as likely as it is with its options on average. -/
theorem probability_choice {options : List Generator} (filled : options ≠ []) (text : String) :
    (choice options).probability text =
      (options.map (·.probability text)).sum / options.length := by
  rw [probability, ways_choice filled, Weighted.weight_flatMap_scale, List.map_map, one_div,
    div_eq_inv_mul]
  rfl

/-- What a row of parts gives is cut somewhere between its first part and the others. -/
theorem probability_concatenation_cons (part : Generator) (parts : List Generator)
    (text : String) :
    (concatenation (part :: parts)).probability text =
      ∑ cut ∈ Finset.range (text.toList.length + 1),
        part.probability (String.ofList (text.toList.take cut)) *
          (concatenation parts).probability (String.ofList (text.toList.drop cut)) := by
  rw [probability, ways_concatenation_cons, Weighted.weight_product]
  rfl

/-! ## Nodes see the ways of their children only -/

theorem ways_choice_congr {options others : List Generator}
    (same : options.map ways = others.map ways) :
    (choice options).ways = (choice others).ways := by
  have lengths : options.length = others.length := by
    simpa using congrArg List.length same
  by_cases filled : options = []
  · subst filled
    have blank : others = [] := List.eq_nil_of_length_eq_zero lengths.symm
    rw [blank]
  · have filled' : others ≠ [] := by
      intro blank
      rw [blank] at lengths
      exact filled (List.eq_nil_of_length_eq_zero lengths)
    rw [ways_choice filled, ways_choice filled', same, lengths]

theorem ways_concatenation (parts : List Generator) :
    (concatenation parts).ways = (parts.map ways).foldr product [("", 1)] := by
  induction parts with
  | nil => simp
  | cons part parts ih => simp [ih]

theorem ways_concatenation_congr {parts others : List Generator}
    (same : parts.map ways = others.map ways) :
    (concatenation parts).ways = (concatenation others).ways := by
  rw [ways_concatenation, ways_concatenation, same]

/-! ## A distribution on the language -/

/-- The probabilities of all ways add up to one. -/
theorem mass_ways (g : Generator) : g.ways.mass = 1 := by
  induction g using inductParts with
  | literal text => simp
  | choice options ih =>
    by_cases filled : options = []
    · subst filled
      simp
    · have ones : ∀ each ∈ options.map ways, mass each = 1 := by
        intro each member
        obtain ⟨option, among, rfl⟩ := List.mem_map.mp member
        exact ih option among
      rw [ways_choice filled, ← List.length_map (f := ways)]
      exact Weighted.mass_flatMap_scale _ (by simpa using filled) ones
  | nil => simp
  | cons part parts ih rest =>
    rw [ways_concatenation_cons, Weighted.mass_product, ih, rest, one_mul]
  | capitalize inner ih => rw [ways_capitalize, Weighted.mass_mapText, ih]

theorem pos_of_mem_ways {g : Generator} {way : String × ℚ} (member : way ∈ g.ways) :
    0 < way.2 := by
  induction g using inductParts generalizing way with
  | literal text => simp_all
  | choice options ih =>
    by_cases filled : options = []
    · subst filled
      simp_all
    · rw [ways_choice filled, List.flatMap_map, List.mem_flatMap] at member
      obtain ⟨option, among, member⟩ := member
      obtain ⟨inside, from_option, rfl⟩ := List.mem_map.mp member
      have likely := ih option among from_option
      have some : (0 : ℚ) < options.length := by
        exact_mod_cast List.length_pos_iff.mpr filled
      show 0 < 1 / (options.length : ℚ) * inside.2
      positivity
  | nil => simp_all
  | cons part parts ih rest =>
    rw [ways_concatenation_cons, product, List.mem_flatMap] at member
    obtain ⟨front, from_part, member⟩ := member
    obtain ⟨back, from_rest, rfl⟩ := List.mem_map.mp member
    exact mul_pos (ih from_part) (rest from_rest)
  | capitalize inner ih =>
    rw [ways_capitalize] at member
    obtain ⟨inside, from_inner, rfl⟩ := List.mem_map.mp member
    have likely := ih from_inner
    exact likely

/-- There is a way to a text exactly if the generator can give it. -/
theorem mem_texts_ways_iff {g : Generator} {text : String} :
    text ∈ g.ways.map Prod.fst ↔ Gives g text := by
  induction g using inductParts generalizing text with
  | literal written =>
    rw [← mem_texts_iff, mem_texts_literal]
    simp
  | choice options ih =>
    rw [← mem_texts_iff]
    by_cases filled : options = []
    · subst filled
      rw [mem_texts_choice_nil]
      simp
    · rw [mem_texts_choice filled, ways_choice filled, List.flatMap_map, List.map_flatMap,
        List.mem_flatMap]
      refine exists_congr fun option => and_congr_right fun among => ?_
      rw [mem_texts_iff, ← ih option among]
      simp [scale, Function.comp_def]
  | nil =>
    rw [← mem_texts_iff, mem_texts_concatenation_nil]
    simp
  | cons part parts ih rest =>
    rw [← mem_texts_iff, texts_concatenation_cons, mem_products, ways_concatenation_cons]
    simp only [mem_texts_iff, ← ih, ← rest]
    simp [product]
  | capitalize inner ih =>
    rw [← mem_texts_iff, mem_texts_capitalize]
    simp only [mem_texts_iff, ← ih]
    simp [mapText]

/-- The texts that are likely at all are those that the generator can give. -/
theorem probability_pos_iff {g : Generator} {text : String} :
    0 < g.probability text ↔ Gives g text := by
  rw [← mem_texts_ways_iff, probability, weight, mass]
  constructor
  · intro likely
    by_contra absent
    have nothing : g.ways.filter (·.1 = text) = [] := by
      rw [List.filter_eq_nil_iff]
      intro way member same
      exact absent (List.mem_map.mpr ⟨way, member, by simpa using same⟩)
    rw [nothing] at likely
    simp at likely
  · intro present
    obtain ⟨way, member, rfl⟩ := List.mem_map.mp present
    refine List.sum_pos _ ?_ ?_
    · intro weight weighed
      obtain ⟨other, kept, rfl⟩ := List.mem_map.mp weighed
      exact pos_of_mem_ways (List.mem_of_mem_filter kept)
    · have kept : way ∈ g.ways.filter (·.1 = way.1) := by simp [member]
      exact List.ne_nil_of_mem (List.mem_map_of_mem kept)

/-! ## Building keeps the ways -/

theorem seesChosen_ways : SeesChosen ways where
  nil := by simp [empty]
  singleton only := by simp [ways_choice, Weighted.scale_one]

theorem seesJoined_ways : SeesJoined ways where
  nil := by simp [empty]
  singleton only := by simp [Weighted.product_only_empty_text]
  cons part rest rest' same := by
    rw [ways_concatenation_cons, ways_concatenation_cons, same]
  blank rest := by simp [Weighted.product_empty_text]
  adjacent first second rest := by simp [Weighted.product_text_text]

theorem ways_oneOf (options : List Generator) : (oneOf options).ways = (choice options).ways :=
  seesChosen_ways.oneOf options

theorem ways_join (parts : List Generator) : (join parts).ways = (concatenation parts).ways :=
  seesJoined_ways.join parts

theorem upperFirst_upperFirst (text : String) : upperFirst (upperFirst text) = upperFirst text := by
  obtain ⟨chars, rfl⟩ : ∃ chars, text = String.ofList chars := ⟨text.toList, by simp⟩
  cases chars with
  | nil => rfl
  | cons first rest => simp [upperFirst]

theorem ways_capitalized (g : Generator) : g.capitalized.ways = (capitalize g).ways := by
  rcases capitalized_cases g with ⟨-, made⟩ | ⟨inner, rfl, same⟩
  · rw [made]
  · simp only [same, ways_capitalize, Weighted.mapText_mapText upperFirst upperFirst_upperFirst]

end Generator

end NamePattern
