import NamePattern.Generator.Sample
import Std.Data.ExtTreeSet

/-!
# The texts of a generator

`Generator.Gives g text` says that `g` can give `text`. `Generator.outcomes` lists these texts:
exactly them (`mem_outcomes_iff`), each once and in the order of their code points
(`outcomes_ordered`).
-/

namespace NamePattern.Generator

open Std (ExtTreeSet)

/-- The texts that a generator can give, whatever words are drawn. -/
inductive Gives : Generator → String → Prop where
  | literal (text : String) : Gives (.literal text) text
  | none : Gives (.choice []) ""
  | choice {option : Generator} {options : List Generator} {text : String} :
      option ∈ options → Gives option text → Gives (.choice options) text
  | nil : Gives (.concatenation []) ""
  | cons {part : Generator} {parts : List Generator} {first rest : String} :
      Gives part first → Gives (.concatenation parts) rest →
        Gives (.concatenation (part :: parts)) (first ++ rest)
  | capitalize {inner : Generator} {text : String} :
      Gives inner text → Gives (.capitalize inner) (upperFirst text)

abbrev TextSet := ExtTreeSet String

def TextSet.of (list : List String) : TextSet := ExtTreeSet.ofList list

@[simp] theorem TextSet.mem_of {list : List String} {text : String} :
    text ∈ TextSet.of list ↔ text ∈ list := by
  simp [TextSet.of, ExtTreeSet.mem_ofList]

/-- Each text of one set followed by each text of another. -/
def products (heads tails : TextSet) : TextSet :=
  .of (heads.toList.flatMap fun head => tails.toList.map (head ++ ·))

/-- The set of the texts that a generator can give. -/
def texts : Generator → TextSet := fold {
  literal := fun text => .of [text]
  choice := fun each =>
    if each.isEmpty then .of [""] else .of (each.flatMap ExtTreeSet.toList)
  concatenation := fun each => each.foldr products (.of [""])
  capitalize := fun inner => .of (inner.toList.map upperFirst) }

/-- The texts that a generator can give, each once, in the order of their code points. -/
def outcomes (g : Generator) : List String := g.texts.toList

theorem mem_products {heads tails : TextSet} {text : String} :
    text ∈ products heads tails ↔ ∃ head ∈ heads, ∃ tail ∈ tails, head ++ tail = text := by
  simp [products]

section Equations

variable {text : String} {inner : Generator} {options parts : List Generator}

theorem mem_texts_literal {written : String} : text ∈ (literal written).texts ↔ text = written := by
  simp [texts]

theorem mem_texts_choice_nil : text ∈ (choice []).texts ↔ text = "" := by
  simp [texts]

theorem mem_texts_choice (filled : options ≠ []) :
    text ∈ (choice options).texts ↔ ∃ option ∈ options, text ∈ option.texts := by
  simp [texts, filled, List.flatMap_map]

theorem mem_texts_concatenation_nil : text ∈ (concatenation []).texts ↔ text = "" := by
  simp [texts]

theorem texts_concatenation_cons {part : Generator} :
    (concatenation (part :: parts)).texts =
      products part.texts (concatenation parts).texts := by
  simp [texts]

theorem mem_texts_capitalize :
    text ∈ (capitalize inner).texts ↔ ∃ given ∈ inner.texts, upperFirst given = text := by
  simp [texts]

end Equations

theorem mem_texts_iff {g : Generator} {text : String} : text ∈ g.texts ↔ Gives g text := by
  induction g using inductParts generalizing text with
  | literal written =>
    rw [mem_texts_literal]
    exact ⟨fun same => same ▸ Gives.literal written, fun given => by cases given; rfl⟩
  | choice options ih =>
    cases options with
    | nil =>
      rw [mem_texts_choice_nil]
      refine ⟨fun same => same ▸ Gives.none, fun given => ?_⟩
      cases given with
      | none => rfl
      | choice member => simp at member
    | cons option options =>
      rw [mem_texts_choice (by simp)]
      constructor
      · rintro ⟨chosen, member, within⟩
        exact Gives.choice member ((ih chosen member).mp within)
      · intro given
        cases given with
        | choice member given => exact ⟨_, member, (ih _ member).mpr given⟩
  | nil =>
    rw [mem_texts_concatenation_nil]
    exact ⟨fun same => same ▸ Gives.nil, fun given => by cases given; rfl⟩
  | cons part parts ih rest =>
    rw [texts_concatenation_cons, mem_products]
    constructor
    · rintro ⟨head, front, tail, back, rfl⟩
      exact Gives.cons (ih.mp front) (rest.mp back)
    · intro given
      cases given with
      | cons front back => exact ⟨_, ih.mpr front, _, rest.mpr back, rfl⟩
  | capitalize inner ih =>
    rw [mem_texts_capitalize]
    constructor
    · rintro ⟨given, within, rfl⟩
      exact Gives.capitalize (ih.mp within)
    · intro given
      cases given with
      | capitalize given => exact ⟨_, ih.mpr given, rfl⟩

/-- The listed outcomes are the texts that the generator can give. -/
theorem mem_outcomes_iff {g : Generator} {text : String} : text ∈ g.outcomes ↔ Gives g text := by
  simp [outcomes, mem_texts_iff]

/-- The outcomes are listed in strictly increasing order. -/
theorem outcomes_ordered (g : Generator) : g.outcomes.Pairwise (compare · · = .lt) :=
  ExtTreeSet.ordered_toList

end NamePattern.Generator
