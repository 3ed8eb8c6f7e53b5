import NamePattern.Generator.Sample
import NamePattern.Proofs.Random

/-!
# The draws of a sample

`Generator.draws` lists what a sample asks of the random words, in order: for each choice that it
comes through, how many options there are and where the words for the pick stand. The draws follow
one another without a gap, from the first word that the sample reads to the position after its last
one (`chained_draws`). Every draw is made among one option or more (`bound_pos_of_mem_draws`).
-/

namespace NamePattern

/-- A pick that was made while a text was drawn. -/
structure Draw where
  /-- How many options there were. -/
  bound : Nat
  /-- Where the first word of the pick stands. -/
  position : Nat
  deriving DecidableEq, Repr

/-- The index that was picked. -/
def Draw.index (words : Words) (draw : Draw) : Nat := (pick words draw.bound draw.position).1

def Draw.next (words : Words) (draw : Draw) : Nat := (pick words draw.bound draw.position).2

namespace Generator

/-! ## Choices that fit the words -/

/-- Whether every choice in the tree has fewer options than a limit. -/
def choicesBelow (limit : Nat) : Generator → Bool := fold {
  literal := fun _ => true
  choice := fun each => decide (each.length < limit) && each.all id
  concatenation := fun each => each.all id
  capitalize := id }

section ChoicesBelow

variable {limit : Nat}

@[simp] theorem choicesBelow_choice {options : List Generator} :
    (choice options).choicesBelow limit = true ↔
      options.length < limit ∧ ∀ option ∈ options, option.choicesBelow limit = true := by
  simp [choicesBelow]

@[simp] theorem choicesBelow_concatenation {parts : List Generator} :
    (concatenation parts).choicesBelow limit = true ↔
      ∀ part ∈ parts, part.choicesBelow limit = true := by
  simp [choicesBelow]

@[simp] theorem choicesBelow_capitalize {inner : Generator} :
    (capitalize inner).choicesBelow limit = inner.choicesBelow limit := by
  simp [choicesBelow]

end ChoicesBelow

/-- How many options the choices in the tree have. -/
def choiceSizes : Generator → List Nat := fold {
  literal := fun _ => []
  choice := fun each => each.length :: each.flatten
  concatenation := List.flatten
  capitalize := id }

section ChoiceSizes

variable {options parts : List Generator} {inner : Generator} {count : Nat}

@[simp] theorem choiceSizes_literal {text : String} : (literal text).choiceSizes = [] := by
  simp [choiceSizes]

theorem mem_choiceSizes_choice : count ∈ (choice options).choiceSizes ↔
    count = options.length ∨ ∃ option ∈ options, count ∈ option.choiceSizes := by
  simp [choiceSizes, ← List.flatMap_def]

theorem mem_choiceSizes_concatenation : count ∈ (concatenation parts).choiceSizes ↔
    ∃ part ∈ parts, count ∈ part.choiceSizes := by
  simp [choiceSizes, ← List.flatMap_def]

@[simp] theorem choiceSizes_capitalize : (capitalize inner).choiceSizes = inner.choiceSizes := by
  simp [choiceSizes]

end ChoiceSizes

theorem lt_of_mem_choiceSizes {limit : Nat} {g : Generator} (small : g.choicesBelow limit = true)
    {count : Nat} (member : count ∈ g.choiceSizes) : count < limit := by
  induction g with
  | literal text => simp at member
  | choice options ih =>
    rw [choicesBelow_choice] at small
    rcases mem_choiceSizes_choice.mp member with rfl | ⟨option, among, member⟩
    · exact small.1
    · exact ih option among (small.2 option among) member
  | concatenation parts ih =>
    rw [choicesBelow_concatenation] at small
    obtain ⟨part, among, member⟩ := mem_choiceSizes_concatenation.mp member
    exact ih part among (small part among) member
  | capitalize inner ih =>
    rw [choicesBelow_capitalize] at small
    rw [choiceSizes_capitalize] at member
    exact ih small member

/-! ## Draws -/

mutual
/-- The draws that a sample with the words from a position on makes, in order. -/
def draws (words : Words) : Generator → Nat → List Draw
  | .literal _, _ => []
  | .choice options, position =>
      if options.isEmpty then []
      else
        let draw : Draw := { bound := options.length, position }
        draw :: drawsNth words options (draw.index words) (draw.next words)
  | .concatenation parts, position => drawsAll words parts position
  | .capitalize inner, position => draws words inner position
def drawsNth (words : Words) : List Generator → Nat → Nat → List Draw
  | [], _, _ => []
  | option :: _, 0, position => draws words option position
  | _ :: options, index + 1, position => drawsNth words options index position
/-- The draws of samples of all parts, each going on where the one before ended. -/
def drawsAll (words : Words) : List Generator → Nat → List Draw
  | [], _ => []
  | part :: parts, position =>
      draws words part position ++ drawsAll words parts (sample words part position).2
end

section Equations

variable (words : Words) (position : Nat)

@[simp] theorem draws_literal (text : String) : draws words (.literal text) position = [] := by
  simp [draws]

@[simp] theorem draws_choice_nil : draws words (.choice []) position = [] := by
  simp [draws]

@[simp] theorem draws_concatenation (parts : List Generator) :
    draws words (.concatenation parts) position = drawsAll words parts position := by
  simp [draws]

theorem draws_concatenation_nil : draws words (.concatenation []) position = [] := by
  simp [drawsAll]

theorem draws_concatenation_cons (part : Generator) (parts : List Generator) :
    draws words (.concatenation (part :: parts)) position =
      draws words part position ++
        draws words (.concatenation parts) (sample words part position).2 := by
  simp [drawsAll]

@[simp] theorem draws_capitalize (inner : Generator) :
    draws words (.capitalize inner) position = draws words inner position := by
  simp [draws]

theorem drawsNth_of_getElem? {options : List Generator} {index : Nat} {option : Generator}
    (there : options[index]? = some option) :
    drawsNth words options index position = draws words option position := by
  induction options generalizing index with
  | nil => simp at there
  | cons first rest ih =>
    cases index with
    | zero =>
      simp only [List.getElem?_cons_zero, Option.some.injEq] at there
      simp [drawsNth, there]
    | succ index => exact ih there

/-- A pick among one option or more comes to one of them: the sample is the sample of this option,
and its draws are the pick and then the draws of this option. -/
theorem exists_picked {options : List Generator} (filled : options ≠ []) :
    ∃ option, options[(pick words options.length position).1]? = some option ∧
      sample words (.choice options) position =
        sample words option (pick words options.length position).2 ∧
      draws words (.choice options) position =
        { bound := options.length, position } ::
          draws words option (pick words options.length position).2 := by
  have inside := pick_fst_lt words (List.length_pos_iff.mpr filled) position
  have there := List.getElem?_eq_getElem inside
  refine ⟨_, there, ?_, ?_⟩
  · rw [sample_choice words position filled, sampleNth_eq, there]
  · rw [draws, if_neg (by simpa using filled)]
    exact congrArg _ (drawsNth_of_getElem? words _ there)

end Equations

/-! ## The row of the draws -/

/-- Draws that follow one another without a gap, from a position to another. -/
def Chained (words : Words) : Nat → List Draw → Nat → Prop
  | start, [], finish => start = finish
  | start, draw :: rest, finish =>
      draw.position = start ∧ Chained words (draw.next words) rest finish

theorem chained_append {words : Words} {start middle finish : Nat} {front back : List Draw}
    (first : Chained words start front middle) (second : Chained words middle back finish) :
    Chained words start (front ++ back) finish := by
  induction front generalizing start with
  | nil =>
    rw [Chained] at first
    subst first
    exact second
  | cons draw rest ih => exact ⟨first.1, ih first.2⟩

/-- The words that a sample reads are those of its draws, and no others. -/
theorem chained_draws (words : Words) (g : Generator) (position : Nat) :
    Chained words position (draws words g position) (sample words g position).2 := by
  induction g using inductParts generalizing position with
  | literal text => simp [Chained]
  | choice options ih =>
    by_cases filled : options = []
    · subst filled
      simp [Chained]
    · obtain ⟨option, there, sampled, drawn⟩ := exists_picked words position filled
      rw [sampled, drawn]
      exact ⟨rfl, ih option (List.mem_of_getElem? there) _⟩
  | nil =>
    rw [draws_concatenation_nil, sample_concatenation_nil]
    rfl
  | cons part parts ih rest =>
    rw [draws_concatenation_cons, sample_concatenation_cons]
    exact chained_append (ih position) (rest _)
  | capitalize inner ih => simpa using ih position

/-- Draws that follow one another read a word each at least. -/
theorem Chained.add_length_le {words : Words} {start finish : Nat} {row : List Draw}
    (chained : Chained words start row finish) : start + row.length ≤ finish := by
  induction row generalizing start with
  | nil => exact Nat.le_of_eq chained
  | cons draw rest ih =>
    obtain ⟨here, later⟩ := chained
    have first : draw.next words = draw.position + 1 ∨ draw.next words = draw.position + 2 :=
      pick_snd_eq_or words draw.bound draw.position
    have behind := ih later
    rw [List.length_cons]
    omega

theorem le_sample (words : Words) (g : Generator) (position : Nat) :
    position ≤ (sample words g position).2 :=
  Nat.le_trans (Nat.le_add_right _ _) (chained_draws words g position).add_length_le

theorem exists_part_of_mem_drawsAll {words : Words} {parts : List Generator} {position : Nat}
    {draw : Draw} (member : draw ∈ drawsAll words parts position) :
    ∃ part ∈ parts, ∃ start, draw ∈ draws words part start := by
  induction parts generalizing position with
  | nil => simp [drawsAll] at member
  | cons part parts ih =>
    rw [drawsAll, List.mem_append] at member
    rcases member with member | member
    · exact ⟨part, by simp, position, member⟩
    · obtain ⟨later, among, start, member⟩ := ih member
      exact ⟨later, by simp [among], start, member⟩

/-- A draw is made at a choice of the tree that has options. -/
theorem bound_of_mem_draws {words : Words} {g : Generator} {position : Nat} {draw : Draw}
    (member : draw ∈ draws words g position) : 0 < draw.bound ∧ draw.bound ∈ g.choiceSizes := by
  induction g generalizing position with
  | literal text => simp at member
  | choice options ih =>
    by_cases filled : options = []
    · subst filled
      simp at member
    · obtain ⟨option, there, -, drawn⟩ := exists_picked words position filled
      rw [drawn, List.mem_cons] at member
      rw [mem_choiceSizes_choice]
      rcases member with rfl | member
      · exact ⟨List.length_pos_iff.mpr filled, .inl rfl⟩
      · have among := List.mem_of_getElem? there
        obtain ⟨pos, below⟩ := ih option among member
        exact ⟨pos, .inr ⟨option, among, below⟩⟩
  | concatenation parts ih =>
    rw [draws_concatenation] at member
    obtain ⟨part, among, start, member⟩ := exists_part_of_mem_drawsAll member
    obtain ⟨pos, below⟩ := ih part among member
    exact ⟨pos, mem_choiceSizes_concatenation.mpr ⟨part, among, below⟩⟩
  | capitalize inner ih =>
    rw [draws_capitalize] at member
    rw [choiceSizes_capitalize]
    exact ih member

theorem bound_pos_of_mem_draws {words : Words} {g : Generator} {position : Nat} {draw : Draw}
    (member : draw ∈ draws words g position) : 0 < draw.bound := (bound_of_mem_draws member).1

theorem bound_mem_choiceSizes {words : Words} {g : Generator} {position : Nat} {draw : Draw}
    (member : draw ∈ draws words g position) : draw.bound ∈ g.choiceSizes :=
  (bound_of_mem_draws member).2

end Generator

end NamePattern
