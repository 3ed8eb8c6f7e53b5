import NamePattern.Generator.Language
import NamePattern.Proofs.Generator.Draws

/-!
# Paths through a generator

`Path g indices text` says that picking the options at these indices, in this order, draws the text
from `g`. A path ends itself: none goes on as a longer one, so a row of indices has one way to be
shared among the parts of a concatenation, and it determines its text (`Path.append_inj`).

The texts of a generator are those of its paths (`gives_iff_exists_path`). The indices that a sample
picks are a path to the text of the sample, whatever the words are (`path_sample`), and each path
has a block of words that picks it from wherever the block stands (`Path.exists_block`).
-/

namespace NamePattern.Generator

/-- Picking the options at these indices, in this order, draws the text. -/
inductive Path : Generator → List Nat → String → Prop where
  | literal (text : String) : Path (.literal text) [] text
  | none : Path (.choice []) [] ""
  | choice {options : List Generator} {index : Nat} {option : Generator} {indices : List Nat}
      {text : String} : options[index]? = some option → Path option indices text →
        Path (.choice options) (index :: indices) text
  | nil : Path (.concatenation []) [] ""
  | cons {part : Generator} {parts : List Generator} {front back : List Nat}
      {first rest : String} : Path part front first → Path (.concatenation parts) back rest →
        Path (.concatenation (part :: parts)) (front ++ back) (first ++ rest)
  | capitalize {inner : Generator} {indices : List Nat} {text : String} :
      Path inner indices text → Path (.capitalize inner) indices (upperFirst text)

/-! ## Paths end themselves -/

/-- Two paths that the same indices begin with are the same path to the same text. -/
theorem Path.append_inj {g : Generator} {indices indices' rest rest' : List Nat}
    {text text' : String} (path : Path g indices text) (path' : Path g indices' text')
    (same : indices ++ rest = indices' ++ rest') :
    indices = indices' ∧ text = text' ∧ rest = rest' := by
  induction path generalizing indices' rest rest' text' with
  | literal text =>
    cases path'
    exact ⟨rfl, rfl, same⟩
  | none =>
    cases path' with
    | none => exact ⟨rfl, rfl, same⟩
    | choice there _ => cases there
  | choice there _ ih =>
    cases path' with
    | none => cases there
    | choice there' path' =>
      -- the same first index leads into the same option
      rw [List.cons_append, List.cons_append, List.cons.injEq] at same
      obtain ⟨rfl, same⟩ := same
      rw [there, Option.some.injEq] at there'
      subst there'
      obtain ⟨rfl, rfl, rfl⟩ := ih path' same
      exact ⟨rfl, rfl, rfl⟩
  | nil =>
    cases path'
    exact ⟨rfl, rfl, same⟩
  | cons _ _ ih ih' =>
    cases path' with
    | cons first later =>
      rw [List.append_assoc, List.append_assoc] at same
      obtain ⟨rfl, rfl, same⟩ := ih first same
      obtain ⟨rfl, rfl, rfl⟩ := ih' later same
      exact ⟨rfl, rfl, rfl⟩
  | capitalize _ ih =>
    cases path' with
    | capitalize path' =>
      obtain ⟨rfl, rfl, rfl⟩ := ih path' same
      exact ⟨rfl, rfl, rfl⟩

theorem Path.text_eq {g : Generator} {indices : List Nat} {text text' : String}
    (path : Path g indices text) (path' : Path g indices text') : text = text' := by
  have same : indices ++ [] = indices ++ [] := rfl
  exact (path.append_inj path' same).2.1

/-! ## Paths and texts -/

theorem Path.gives {g : Generator} {indices : List Nat} {text : String}
    (path : Path g indices text) : Gives g text := by
  induction path with
  | literal text => exact .literal text
  | none => exact .none
  | choice there _ ih => exact .choice (List.mem_of_getElem? there) ih
  | nil => exact .nil
  | cons _ _ ih ih' => exact .cons ih ih'
  | capitalize _ ih => exact .capitalize ih

theorem gives_iff_exists_path {g : Generator} {text : String} :
    Gives g text ↔ ∃ indices, Path g indices text := by
  constructor
  · intro given
    induction given with
    | literal text => exact ⟨[], .literal text⟩
    | none => exact ⟨[], .none⟩
    | choice member _ ih =>
      obtain ⟨indices, path⟩ := ih
      obtain ⟨index, there⟩ := List.getElem?_of_mem member
      exact ⟨index :: indices, .choice there path⟩
    | nil => exact ⟨[], .nil⟩
    | cons _ _ ih ih' =>
      obtain ⟨front, path⟩ := ih
      obtain ⟨back, path'⟩ := ih'
      exact ⟨front ++ back, .cons path path'⟩
    | capitalize _ ih =>
      obtain ⟨indices, path⟩ := ih
      exact ⟨indices, .capitalize path⟩
  · rintro ⟨indices, path⟩
    exact path.gives

/-! ## Paths and samples -/

/-- The indices that a sample with the words from a position on picks, in order. -/
def picks (words : Words) (g : Generator) (position : Nat) : List Nat :=
  (draws words g position).map (Draw.index words)

section Picks

variable (words : Words) (position : Nat)

@[simp] theorem picks_literal (text : String) : picks words (.literal text) position = [] := by
  simp [picks]

@[simp] theorem picks_choice_nil : picks words (.choice []) position = [] := by
  simp [picks]

@[simp] theorem picks_concatenation_nil : picks words (.concatenation []) position = [] := by
  rw [picks, draws_concatenation_nil, List.map_nil]

theorem picks_concatenation_cons (part : Generator) (parts : List Generator) :
    picks words (.concatenation (part :: parts)) position =
      picks words part position ++
        picks words (.concatenation parts) (sample words part position).2 := by
  rw [picks, draws_concatenation_cons, List.map_append, picks, picks]

@[simp] theorem picks_capitalize (inner : Generator) :
    picks words (.capitalize inner) position = picks words inner position := by
  simp [picks]

/-- What a choice picks first is the index of the option that is sampled then. -/
theorem exists_option_picks {options : List Generator} (filled : options ≠ []) :
    ∃ option, options[(pick words options.length position).1]? = some option ∧
      sample words (.choice options) position =
        sample words option (pick words options.length position).2 ∧
      picks words (.choice options) position =
        (pick words options.length position).1 ::
          picks words option (pick words options.length position).2 := by
  obtain ⟨option, there, sampled, drawn⟩ := exists_picked words position filled
  refine ⟨option, there, sampled, ?_⟩
  rw [picks, drawn, List.map_cons]
  rfl

end Picks

theorem path_sample (words : Words) (g : Generator) (position : Nat) :
    Path g (picks words g position) (sample words g position).1 := by
  induction g using inductParts generalizing position with
  | literal text =>
    rw [picks_literal, sample_literal]
    exact .literal text
  | choice options ih =>
    by_cases filled : options = []
    · subst filled
      rw [picks_choice_nil, sample_choice_nil]
      exact .none
    · obtain ⟨option, there, sampled, picked⟩ := exists_option_picks words position filled
      rw [sampled, picked]
      exact .choice there (ih option (List.mem_of_getElem? there) _)
  | nil =>
    rw [picks_concatenation_nil, sample_concatenation_nil]
    exact .nil
  | cons part parts ih rest =>
    rw [picks_concatenation_cons, sample_concatenation_cons]
    exact .cons (ih position) (rest _)
  | capitalize inner ih =>
    rw [picks_capitalize, sample_capitalize]
    exact .capitalize (ih position)

/-- A block of words picks the indices if it does so wherever it stands, and no word behind it is
read. -/
def PickedBy (g : Generator) (indices : List Nat) (block : List UInt32) : Prop :=
  ∀ words position, StandsAt words position block →
    picks words g position = indices ∧ (sample words g position).2 = position + block.length

theorem PickedBy.choice {options : List Generator} {index : Nat} {option : Generator}
    {indices : List Nat} {block : List UInt32} (picked : PickedBy option indices block)
    (there : options[index]? = some option) (small : options.length < 4294967296) :
    ∃ whole, PickedBy (.choice options) (index :: indices) whole := by
  obtain ⟨inside, -⟩ := List.getElem?_eq_some_iff.mp there
  obtain ⟨pickBlock, picks⟩ := exists_block_pick inside small
  refine ⟨pickBlock ++ block, ?_⟩
  intro words position stands
  rw [standsAt_append] at stands
  obtain ⟨first, second⟩ := stands
  have filled : options ≠ [] := List.ne_nil_of_mem (List.mem_of_getElem? there)
  obtain ⟨option', found, sampled, all⟩ := exists_option_picks words position filled
  rw [picks words position first] at found sampled all
  rw [there, Option.some.injEq] at found
  subst found
  obtain ⟨later, finish⟩ := picked words _ second
  rw [sampled, all, later, finish, List.length_append, Nat.add_assoc]
  exact ⟨rfl, rfl⟩

theorem PickedBy.cons {part : Generator} {parts : List Generator} {front back : List Nat}
    {block block' : List UInt32} (picked : PickedBy part front block)
    (later : PickedBy (.concatenation parts) back block') :
    PickedBy (.concatenation (part :: parts)) (front ++ back) (block ++ block') := by
  intro words position stands
  rw [standsAt_append] at stands
  obtain ⟨first, second⟩ := stands
  obtain ⟨start, middle⟩ := picked words position first
  obtain ⟨behind, finish⟩ := later words _ second
  rw [picks_concatenation_cons, sample_concatenation_cons, start, middle, behind, finish,
    List.length_append, Nat.add_assoc]
  exact ⟨rfl, rfl⟩

/-- A block that picks a path draws the text of the path. -/
theorem PickedBy.sample_eq {g : Generator} {indices : List Nat} {text : String}
    {block : List UInt32} (picked : PickedBy g indices block) (path : Path g indices text)
    {words : Words} {position : Nat} (stands : StandsAt words position block) :
    sample words g position = (text, position + block.length) := by
  obtain ⟨all, finish⟩ := picked words position stands
  have drawn := path_sample words g position
  rw [all] at drawn
  exact Prod.ext (drawn.text_eq path) finish

/-- Every path is picked by some block of words. -/
theorem Path.exists_block {g : Generator} {indices : List Nat} {text : String}
    (path : Path g indices text) (small : g.choicesBelow 4294967296 = true) :
    ∃ block, PickedBy g indices block := by
  induction path with
  | literal text => exact ⟨[], fun words position _ => by simp⟩
  | none => exact ⟨[], fun words position _ => by simp⟩
  | choice there _ ih =>
    rw [choicesBelow_choice] at small
    obtain ⟨block, picked⟩ := ih (small.2 _ (List.mem_of_getElem? there))
    exact picked.choice there small.1
  | nil => exact ⟨[], fun words position _ => by simp [sampleAll]⟩
  | cons _ _ ih ih' =>
    rw [choicesBelow_concatenation] at small
    obtain ⟨block, picked⟩ := ih (small _ (by simp))
    obtain ⟨block', later⟩ := ih' (choicesBelow_concatenation.mpr fun part member =>
      small part (by simp [member]))
    exact ⟨block ++ block', picked.cons later⟩
  | capitalize _ ih =>
    rw [choicesBelow_capitalize] at small
    obtain ⟨block, picked⟩ := ih small
    refine ⟨block, ?_⟩
    intro words position stands
    rw [picks_capitalize, sample_capitalize]
    exact picked words position stands

end NamePattern.Generator
