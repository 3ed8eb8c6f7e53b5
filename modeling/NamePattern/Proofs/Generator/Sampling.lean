import NamePattern.Generator.Buffer
import NamePattern.Proofs.Generator.Paths

/-!
# Sampling reaches the language and nothing else

Whatever the random words are, a sample is one of the texts that the generator can give, and no pick
leaves its range (`gives_sample`, `pick_fst_lt`). Conversely any row of texts of the language is
drawn, one after the other, with some words: each text has a block of words that draws it from
wherever the block stands (`exists_block_sample`), and blocks are put one behind the other.
-/

namespace NamePattern.Generator

/-! ## Soundness -/

theorem gives_sample (words : Words) (g : Generator) (position : Nat) :
    Gives g (sample words g position).1 :=
  (path_sample words g position).gives

theorem index_lt_of_mem_draws {words : Words} {g : Generator} {position : Nat} {draw : Draw}
    (member : draw ∈ draws words g position) : draw.index words < draw.bound :=
  pick_fst_lt words (bound_pos_of_mem_draws member) draw.position

/-! ## Completeness -/

/-- A block of words draws a text if it does so wherever it stands, and no word behind it is read. -/
def DrawnBy (g : Generator) (text : String) (block : List UInt32) : Prop :=
  ∀ words position, StandsAt words position block →
    sample words g position = (text, position + block.length)

/-- Every text of the language is drawn by some block of words: the block picks a path to it. -/
theorem exists_block_sample {g : Generator} {text : String} (given : Gives g text)
    (small : g.choicesBelow 4294967296 = true) : ∃ block, DrawnBy g text block := by
  obtain ⟨indices, path⟩ := gives_iff_exists_path.mp given
  obtain ⟨block, picked⟩ := path.exists_block small
  exact ⟨block, fun words position stands => picked.sample_eq path stands⟩

/-- Every text of the language is drawn on some words, wherever they are read from. -/
theorem exists_sample_eq {g : Generator} {text : String} (given : Gives g text)
    (small : g.choicesBelow 4294967296 = true) (position : Nat) :
    ∃ words, (sample words g position).1 = text := by
  obtain ⟨block, drawn⟩ := exists_block_sample given small
  obtain ⟨words, stands⟩ := exists_standsAt position block
  refine ⟨words, ?_⟩
  rw [drawn words position stands]

theorem exists_block_generateMany {g : Generator} (small : g.choicesBelow 4294967296 = true)
    (texts : List String) (given : ∀ text ∈ texts, Gives g text) :
    ∃ block, ∀ words position, StandsAt words position block →
      generateMany words g texts.length position = (texts, position + block.length) := by
  induction texts with
  | nil =>
    refine ⟨[], ?_⟩
    intro words position _
    rfl
  | cons text texts ih =>
    obtain ⟨front, drawn⟩ := exists_block_sample (given text (by simp)) small
    obtain ⟨back, later⟩ := ih fun other member => given other (by simp [member])
    refine ⟨front ++ back, ?_⟩
    intro words position stands
    rw [standsAt_append] at stands
    rw [List.length_cons, generateMany, generate_eq_sample, drawn words position stands.1,
      later words _ stands.2, List.length_append, Nat.add_assoc]

/-! ## Both together -/

/-- **Sampling and the language.** On any words, each pick is made among one option or more and
stays among them, the picks read all the words that are read, and the text is one of the language;
and any row of texts of the language is drawn, one after the other, on some words. -/
theorem generate_sound_and_complete (g : Generator) (small : g.choicesBelow 4294967296 = true) :
    (∀ words position,
      (∀ draw ∈ draws words g position, 0 < draw.bound ∧ draw.index words < draw.bound) ∧
      Chained words position (draws words g position) (generate words g position).2 ∧
      Gives g (generate words g position).1) ∧
    ∀ texts, (∀ text ∈ texts, Gives g text) → ∀ position,
      ∃ words, (generateMany words g texts.length position).1 = texts := by
  refine ⟨?_, ?_⟩
  · intro words position
    rw [generate_eq_sample]
    refine ⟨?_, chained_draws words g position, gives_sample words g position⟩
    intro draw member
    exact ⟨bound_pos_of_mem_draws member, index_lt_of_mem_draws member⟩
  · intro texts given position
    obtain ⟨block, drawn⟩ := exists_block_generateMany small texts given
    obtain ⟨words, stands⟩ := exists_standsAt position block
    refine ⟨words, ?_⟩
    rw [drawn words position stands]

theorem generate_sound_and_complete_two :
    (capitalize (choice [literal "ka", choice []])).choicesBelow 4294967296 = true ∧
    (∀ text ∈ ["", "Ka", ""], Gives (capitalize (choice [literal "ka", choice []])) text) ∧
    ∃ words, (generateMany words (capitalize (choice [literal "ka", choice []])) 3 0).1 =
      ["", "Ka", ""] := by
  have small : (capitalize (choice [literal "ka", choice []])).choicesBelow 4294967296 = true := by
    decide
  have given : ∀ text ∈ ["", "Ka", ""],
      Gives (capitalize (choice [literal "ka", choice []])) text := by
    have first : Gives (capitalize (choice [literal "ka", choice []])) "Ka" :=
      .capitalize (.choice (by simp) (.literal "ka"))
    have second : Gives (capitalize (choice [literal "ka", choice []])) "" :=
      .capitalize (.choice (by simp) .none)
    simp [first, second]
  exact ⟨small, given, (generate_sound_and_complete _ small).2 _ given 0⟩

end NamePattern.Generator
