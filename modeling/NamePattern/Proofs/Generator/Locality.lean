import NamePattern.Proofs.Generator.Sampling

/-!
# The words that a sample reads

`reads` lists the words that a row of picks reads. For the picks of a sample these are all words
from where the sample starts to where it ends (`Chained.standsAt_reads`), and whatever words stand
elsewhere, wherever these words stand they draw the same text (`drawnBy_reads_draws`). So a sample
is one or two words for each choice that it comes through, one if the choice has a power of two
options (`Chained.le_add_two_mul`, `Chained.eq_add_length`), and what is drawn before or behind it
is none of its business (`generateMany_add`).
-/

namespace NamePattern

/-! ## Rows of words -/

/-- A row of words stands wherever the words are the same. -/
theorem StandsAt.of_agree {words words' : Words} {position position' : Nat} {block : List UInt32}
    (stands : StandsAt words position block)
    (agree : ∀ offset < block.length, words' (position' + offset) = words (position + offset)) :
    StandsAt words' position' block := by
  intro offset word there
  have inside := (List.getElem?_eq_some_iff.mp there).1
  rw [agree offset inside]
  exact stands offset word there

namespace Draw

variable {words words' : Words} {draw : Draw}

/-- The words that a pick reads. -/
def block (words : Words) (draw : Draw) : List UInt32 :=
  (List.range' draw.position (draw.next words - draw.position)).map words

theorem next_eq_or (words : Words) (draw : Draw) :
    draw.next words = draw.position + 1 ∨ draw.next words = draw.position + 2 :=
  pick_snd_eq_or words draw.bound draw.position

theorem length_block (words : Words) (draw : Draw) :
    (draw.block words).length = draw.next words - draw.position := by
  simp [block]

theorem position_add_length_block (words : Words) (draw : Draw) :
    draw.position + (draw.block words).length = draw.next words := by
  rw [length_block]
  have ends := draw.next_eq_or words
  omega

theorem standsAt_block (words : Words) (draw : Draw) :
    StandsAt words draw.position (draw.block words) := by
  intro offset word there
  obtain ⟨inside, same⟩ := List.getElem?_eq_some_iff.mp there
  simpa [block] using same

/-- The words of a pick make the same pick wherever they stand. -/
theorem pick_of_standsAt {position' : Nat} (stands : StandsAt words' position' (draw.block words)) :
    pick words' draw.bound position' =
      (draw.index words, position' + (draw.block words).length) := by
  have read (offset : Nat) (inside : draw.position + offset < draw.next words) :
      words' (position' + offset) = words (draw.position + offset) := by
    refine stands offset _ ?_
    have within : offset < draw.next words - draw.position := by omega
    simp [block, within]
  have ends := draw.next_eq_or words
  rw [length_block]
  refine pick_congr (read 0 (by omega)) fun two => read 1 ?_
  rw [next, two]
  omega

end Draw

namespace Generator

/-- The words that a row of picks reads, in order. -/
def reads (words : Words) (row : List Draw) : List UInt32 := row.flatMap (Draw.block words)

@[simp] theorem reads_nil (words : Words) : reads words [] = [] := rfl

@[simp] theorem reads_cons (words : Words) (draw : Draw) (row : List Draw) :
    reads words (draw :: row) = draw.block words ++ reads words row := rfl

@[simp] theorem reads_append (words : Words) (front back : List Draw) :
    reads words (front ++ back) = reads words front ++ reads words back :=
  List.flatMap_append

section Chained

variable {words : Words} {start finish : Nat} {row : List Draw}

/-- Picks that follow one another read all words from the first of them on, and no other. -/
theorem Chained.add_length_reads (chained : Chained words start row finish) :
    start + (reads words row).length = finish := by
  induction row generalizing start with
  | nil => exact chained
  | cons draw rest ih =>
    obtain ⟨rfl, later⟩ := chained
    rw [reads_cons, List.length_append, ← Nat.add_assoc, draw.position_add_length_block, ih later]

theorem Chained.standsAt_reads (chained : Chained words start row finish) :
    StandsAt words start (reads words row) := by
  induction row generalizing start with
  | nil =>
    intro offset word there
    simp at there
  | cons draw rest ih =>
    obtain ⟨rfl, later⟩ := chained
    rw [reads_cons, standsAt_append, draw.position_add_length_block]
    exact ⟨draw.standsAt_block words, ih later⟩

/-! ## How many words -/

theorem Chained.le_add_two_mul (chained : Chained words start row finish) :
    finish ≤ start + 2 * row.length := by
  induction row generalizing start with
  | nil => exact Nat.le_of_eq chained.symm
  | cons draw rest ih =>
    obtain ⟨rfl, later⟩ := chained
    have behind := ih later
    have ends := draw.next_eq_or words
    rw [List.length_cons]
    omega

/-- Picks that read no second word read one word each. -/
theorem Chained.eq_add_length (chained : Chained words start row finish)
    (single : ∀ draw ∈ row, draw.next words = draw.position + 1) : finish = start + row.length := by
  induction row generalizing start with
  | nil => exact chained.symm
  | cons draw rest ih =>
    obtain ⟨rfl, later⟩ := chained
    have behind := ih later fun other among => single other (List.mem_cons_of_mem draw among)
    rw [behind, single draw List.mem_cons_self, List.length_cons]
    omega

end Chained

/-! ## Blocks of words that draw a text -/

section DrawnBy

variable {options parts : List Generator} {option part inner : Generator} {text rest : String}
  {block back : List UInt32}

theorem drawnBy_literal (text : String) : DrawnBy (literal text) text [] := by
  intro words position _
  simp

theorem drawnBy_choice_nil : DrawnBy (choice []) "" [] := by
  intro words position _
  simp

/-- A choice is drawn by the words of a pick and then those that draw the option that is picked. -/
theorem DrawnBy.choice {words : Words} {draw : Draw} (drawn : DrawnBy option text block)
    (bound : draw.bound = options.length) (there : options[draw.index words]? = some option) :
    DrawnBy (.choice options) text (draw.block words ++ block) := by
  intro words' position stands
  rw [standsAt_append] at stands
  have filled : options ≠ [] := List.ne_nil_of_mem (List.mem_of_getElem? there)
  rw [sample_choice words' position filled, ← bound, Draw.pick_of_standsAt stands.1, sampleNth_eq,
    there]
  show sample words' option _ = _
  rw [drawn words' _ stands.2, List.length_append, Nat.add_assoc]

theorem drawnBy_concatenation_nil : DrawnBy (concatenation []) "" [] := by
  intro words position _
  rw [sample_concatenation_nil, List.length_nil, Nat.add_zero]

theorem DrawnBy.cons (first : DrawnBy part text block)
    (later : DrawnBy (concatenation parts) rest back) :
    DrawnBy (.concatenation (part :: parts)) (text ++ rest) (block ++ back) := by
  intro words position stands
  rw [standsAt_append] at stands
  rw [sample_concatenation_cons, first words position stands.1, later words _ stands.2,
    List.length_append, Nat.add_assoc]

theorem DrawnBy.capitalize (drawn : DrawnBy inner text block) :
    DrawnBy (.capitalize inner) (upperFirst text) block := by
  intro words position stands
  rw [sample_capitalize, drawn words position stands]

end DrawnBy

/-- The words that a sample reads draw its text wherever they stand. -/
theorem drawnBy_reads_draws (words : Words) (g : Generator) (position : Nat) :
    DrawnBy g (sample words g position).1 (reads words (draws words g position)) := by
  induction g using inductParts generalizing position with
  | literal text =>
    rw [sample_literal, draws_literal]
    exact drawnBy_literal text
  | choice options ih =>
    by_cases filled : options = []
    · subst filled
      rw [sample_choice_nil, draws_choice_nil]
      exact drawnBy_choice_nil
    · obtain ⟨option, there, sampled, drawn⟩ := exists_picked words position filled
      have later := ih option (List.mem_of_getElem? there)
      rw [sampled, drawn, reads_cons]
      exact (later _).choice rfl there
  | nil =>
    rw [sample_concatenation_nil, draws_concatenation_nil]
    exact drawnBy_concatenation_nil
  | cons part parts ih rest =>
    rw [sample_concatenation_cons, draws_concatenation_cons, reads_append]
    exact (ih position).cons (rest _)
  | capitalize inner ih =>
    rw [sample_capitalize, draws_capitalize]
    exact (ih position).capitalize

/-! ## One sample after the other -/

theorem generateMany_add (words : Words) (g : Generator) (m n position : Nat) :
    generateMany words g (m + n) position =
      ((generateMany words g m position).1 ++
          (generateMany words g n (generateMany words g m position).2).1,
        (generateMany words g n (generateMany words g m position).2).2) := by
  induction m generalizing position with
  | zero => simp [generateMany]
  | succ m ih =>
    rw [Nat.succ_add, generateMany, ih, generateMany]
    rfl

/-- Of samples drawn one after the other, each starts where those before it end. -/
theorem getElem?_generateMany (words : Words) (g : Generator) {index count : Nat}
    (inside : index < count) (position : Nat) :
    (generateMany words g count position).1[index]? =
      some (generate words g (generateMany words g index position).2).1 := by
  induction count generalizing index position with
  | zero => omega
  | succ count ih =>
    cases index with
    | zero => rfl
    | succ index => exact ih (by omega) (generate words g position).2

/-- **A sample is local.** Of the words that a sample reads there are one or two for each choice
with options that it comes through, and one if each of these choices has a power of two options. Any
words that agree with them, wherever they stand, give the same text and are read to the same end.
The next sample starts where this one ends: of a number of samples each is the one that starts where
those before it end, and they can be drawn in two goes. -/
theorem generate_local (g : Generator) (small : g.choicesBelow 4294967296 = true) (words : Words)
    (position : Nat) :
    ∃ count, (generate words g position).2 = position + count ∧
      (draws words g position).length ≤ count ∧
      count ≤ 2 * (draws words g position).length ∧
      ((∀ draw ∈ draws words g position, draw.bound.isPowerOfTwo) →
        count = (draws words g position).length) ∧
      (∀ words' position',
        (∀ offset < count, words' (position' + offset) = words (position + offset)) →
          generate words' g position' = ((generate words g position).1, position' + count)) ∧
      (∀ number index, index < number → (generateMany words g number position).1[index]? =
        some (generate words g (generateMany words g index position).2).1) ∧
      ∀ m n, generateMany words g (m + n) position =
        ((generateMany words g m position).1 ++
            (generateMany words g n (generateMany words g m position).2).1,
          (generateMany words g n (generateMany words g m position).2).2) := by
  have chained := chained_draws words g position
  have ends := chained.add_length_reads
  have stands := chained.standsAt_reads
  have least := chained.add_length_le
  have most := chained.le_add_two_mul
  rw [← ends] at least most
  simp only [generate_eq_sample]
  refine ⟨(reads words (draws words g position)).length, ends.symm, by omega, by omega, ?_, ?_, ?_,
    fun m n => generateMany_add words g m n position⟩
  · intro powers
    have all := chained.eq_add_length fun draw among =>
      pick_snd_of_isPowerOfTwo words (powers draw among)
        (lt_of_mem_choiceSizes small (bound_mem_choiceSizes among)) draw.position
    omega
  · intro words' position' agree
    exact drawnBy_reads_draws words g position words' position' (stands.of_agree agree)
  · intro number index inside
    rw [← generate_eq_sample]
    exact getElem?_generateMany words g inside position

/-- The first pick reads a second word, which carries it on to the next option; other words that
begin the same way elsewhere draw the same text. A choice between two reads one word. -/
theorem generate_local_carry :
    let g : Generator :=
      capitalize (concatenation [choice [literal "a", literal "b", literal "c"], literal "ra"])
    let pair : Generator := choice [literal "a", literal "b"]
    let words := Source.word (.cycle #[1431655765, 2863311530])
    let later := Source.word (.cycle #[7, 1431655765, 2863311530])
    g.choicesBelow 4294967296 = true ∧ pair.choicesBelow 4294967296 = true ∧
      generate words g 0 = ("Bra", 2) ∧ generate later g 4 = ("Bra", 6) ∧
      (∀ draw ∈ draws words pair 0, draw.bound.isPowerOfTwo) ∧ (generate words pair 0).2 = 1 := by
  intro g pair words later
  have small : g.choicesBelow 4294967296 = true := by decide
  have small' : pair.choicesBelow 4294967296 = true := by decide
  have first : generate words g 0 = ("Bra", 2) := by
    rw [generate_eq_sample]
    decide
  have drawn : draws words pair 0 = [{ bound := 2, position := 0 }] := by decide
  have powers : ∀ draw ∈ draws words pair 0, draw.bound.isPowerOfTwo := by
    intro draw member
    rw [drawn, List.mem_singleton] at member
    subst member
    exact ⟨1, rfl⟩
  refine ⟨small, small', first, ?_, powers, ?_⟩
  · obtain ⟨count, ends, -, -, -, alike, -⟩ := generate_local g small words 0
    rw [first, Nat.zero_add] at ends
    subst ends
    have agree : ∀ offset < 2, later (4 + offset) = words (0 + offset) := by decide
    have moved := alike later 4 agree
    rw [first] at moved
    exact moved
  · obtain ⟨count, ends, -, -, one, -⟩ := generate_local pair small' words 0
    simp [ends, one powers, drawn]

end Generator

end NamePattern
