import NamePattern.Proofs.Generator.Distribution
import NamePattern.Proofs.Generator.Forced

/-!
# Building a generator again

`Generator.rebuild` builds a tree again from its leaves up, with `oneOf`, `join` and `capitalized`.
What comes out is minimal (`isMinimal_rebuild`), and only a minimal tree comes out as it was
(`rebuild_eq_self_iff`). Measures that see neither merged literals nor a node over fewer than two
children stay the same (`measure_rebuild`), and no node is added (`nodeCount_rebuild_le`).

Samples stay the same except for one thing: the rebuilt tree does not make the forced picks, so it
does not read their words. What a sample reads for its other picks draws the same text from the
rebuilt tree (`drawnBy_rebuild`).
-/

namespace NamePattern.Generator

/-! ## The rebuilt tree -/

/-- A tree built again from its leaves up. -/
def rebuild : Generator → Generator := fold {
  literal := .literal
  choice := oneOf
  concatenation := join
  capitalize := capitalized }

section Equations

variable (text : String) (options parts : List Generator) (inner : Generator)

@[simp] theorem rebuild_literal : (literal text).rebuild = literal text := by
  simp [rebuild]

@[simp] theorem rebuild_choice : (choice options).rebuild = oneOf (options.map rebuild) := by
  simp [rebuild]

@[simp] theorem rebuild_concatenation :
    (concatenation parts).rebuild = join (parts.map rebuild) := by
  simp [rebuild]

@[simp] theorem rebuild_capitalize : (capitalize inner).rebuild = inner.rebuild.capitalized := by
  simp [rebuild]

end Equations

theorem isMinimal_rebuild (g : Generator) : g.rebuild.isMinimal = true := by
  induction g with
  | literal text =>
    rw [rebuild_literal]
    exact isMinimal_literal text
  | choice options ih =>
    rw [rebuild_choice]
    exact isMinimal_oneOf (List.forall_mem_map.mpr ih)
  | concatenation parts ih =>
    rw [rebuild_concatenation]
    exact isMinimal_join (List.forall_mem_map.mpr ih)
  | capitalize inner ih =>
    rw [rebuild_capitalize]
    exact isMinimal_capitalized ih

theorem rebuild_of_isMinimal {g : Generator} (minimal : g.isMinimal = true) : g.rebuild = g := by
  have children {gs : List Generator} (same : ∀ g ∈ gs, g.rebuild = g) : gs.map rebuild = gs :=
    (List.map_congr_left same).trans (List.map_id' gs)
  induction g with
  | literal text => exact rebuild_literal text
  | choice options ih =>
    obtain ⟨many, each⟩ := isMinimal_choice.mp minimal
    rw [rebuild_choice, children fun option among => ih option among (each option among), oneOf,
      collapse_of_two_le _ many]
  | concatenation parts ih =>
    obtain ⟨many, merged, each⟩ := isMinimal_concatenation.mp minimal
    rw [rebuild_concatenation, children fun part among => ih part among (each part among),
      join_of_merged many merged]
  | capitalize inner ih =>
    obtain ⟨first, minimal⟩ := isMinimal_capitalize.mp minimal
    rw [rebuild_capitalize, ih minimal, capitalized_of_isCapitalize_eq_false first]

theorem rebuild_eq_self_iff {g : Generator} : g.rebuild = g ↔ g.isMinimal = true := by
  constructor
  · intro same
    rw [← same]
    exact isMinimal_rebuild g
  · exact rebuild_of_isMinimal

/-! ## Measures -/

/-- The measure of a node depends on those of its children, and a capitalisation has the measure of
what it capitalises. -/
structure SeesChildren {α : Type} (measure : Generator → α) : Prop where
  choice : ∀ options options', options.map measure = options'.map measure →
    measure (choice options) = measure (choice options')
  concatenation : ∀ parts parts', parts.map measure = parts'.map measure →
    measure (concatenation parts) = measure (concatenation parts')
  capitalize : ∀ inner, measure (capitalize inner) = measure inner

theorem measure_rebuild {α : Type} {measure : Generator → α} (joined : SeesJoined measure)
    (chosen : SeesChosen measure) (sees : SeesChildren measure) (g : Generator) :
    measure g.rebuild = measure g := by
  induction g with
  | literal text => rw [rebuild_literal]
  | choice options ih =>
    rw [rebuild_choice, chosen.oneOf]
    refine sees.choice _ _ ?_
    rw [List.map_map]
    exact List.map_congr_left ih
  | concatenation parts ih =>
    rw [rebuild_concatenation, joined.join]
    refine sees.concatenation _ _ ?_
    rw [List.map_map]
    exact List.map_congr_left ih
  | capitalize inner ih =>
    rw [rebuild_capitalize, sees.capitalize, ← ih]
    rcases capitalized_cases inner.rebuild with ⟨-, made⟩ | ⟨once, built, same⟩
    · rw [made, sees.capitalize]
    · rw [same, built]

theorem seesChildren_fold {α : Type} (literal : String → α) (choice concatenation : List α → α) :
    SeesChildren (fold { literal, choice, concatenation, capitalize := id }) where
  choice options options' same := by rw [fold_choice, fold_choice, same]
  concatenation parts parts' same := by rw [fold_concatenation, fold_concatenation, same]
  capitalize inner := fold_capitalize _ inner

theorem seesChildren_minLength : SeesChildren minLength := seesChildren_fold _ _ _

theorem seesChildren_maxLength : SeesChildren maxLength := seesChildren_fold _ _ _

theorem seesChildren_length_paths : SeesChildren fun g => g.paths.length where
  choice options options' same := by
    by_cases filled : options = []
    · subst filled
      have none : options' = [] := by simpa using same.symm
      rw [none]
    · have filled' : options' ≠ [] := by
        rintro rfl
        simp [filled] at same
      show (Generator.choice options).paths.length = (Generator.choice options').paths.length
      rw [length_paths_choice filled, length_paths_choice filled', same]
  concatenation parts parts' same := by
    show (Generator.concatenation parts).paths.length =
      (Generator.concatenation parts').paths.length
    induction parts generalizing parts' with
    | nil =>
      have none : parts' = [] := by simpa using same.symm
      rw [none]
    | cons part rest ih =>
      cases parts' with
      | nil => simp at same
      | cons part' rest' =>
        rw [List.map_cons, List.map_cons, List.cons.injEq] at same
        rw [length_paths_concatenation_cons, length_paths_concatenation_cons, same.1,
          ih rest' same.2]
  capitalize inner := by
    show (Generator.capitalize inner).paths.length = inner.paths.length
    rw [paths_capitalize, List.length_map]

theorem combinations_rebuild (g : Generator) : g.rebuild.combinations = g.combinations := by
  have paths : g.rebuild.paths.length = g.paths.length :=
    measure_rebuild seesJoined_length_paths seesChosen_length_paths seesChildren_length_paths g
  rw [combinations_eq_min, combinations_eq_min, paths]

/-! ## Nodes -/

theorem nodeCount_rebuild_le (g : Generator) : g.rebuild.nodeCount ≤ g.nodeCount := by
  have children {gs : List Generator} (ih : ∀ g ∈ gs, g.rebuild.nodeCount ≤ g.nodeCount) :
      total ((gs.map rebuild).map nodeCount) ≤ total (gs.map nodeCount) := by
    rw [List.map_map]
    exact total_map_le_total_map ih
  induction g with
  | literal text => rw [rebuild_literal]
  | choice options ih =>
    rw [rebuild_choice, nodeCount_choice]
    exact Nat.le_trans (nodeCount_oneOf_le _) (Nat.add_le_add_left (children ih) 1)
  | concatenation parts ih =>
    rw [rebuild_concatenation, nodeCount_concatenation]
    exact Nat.le_trans (nodeCount_join_le _) (Nat.add_le_add_left (children ih) 1)
  | capitalize inner ih =>
    rw [rebuild_capitalize, nodeCount_capitalize]
    rcases capitalized_cases inner.rebuild with ⟨-, made⟩ | ⟨once, built, same⟩
    · rw [made, nodeCount_capitalize]
      omega
    · rw [same, ← built]
      omega

/-! ## Samples -/

theorem sample_capitalized (words : Words) (g : Generator) (position : Nat) :
    sample words g.capitalized position = sample words (capitalize g) position := by
  rcases capitalized_cases g with ⟨-, made⟩ | ⟨inner, rfl, same⟩
  · rw [made]
  · simp only [same, sample_capitalize, upperFirst_upperFirst]

theorem drawnBy_join {parts : List Generator} {text : String} {block : List UInt32} :
    DrawnBy (join parts) text block ↔ DrawnBy (concatenation parts) text block := by
  simp only [DrawnBy, (seesJoined_sample _).join]

theorem drawnBy_capitalized {g : Generator} {text : String} {block : List UInt32} :
    DrawnBy g.capitalized text block ↔ DrawnBy (capitalize g) text block := by
  simp only [DrawnBy, sample_capitalized]

/-- What a sample reads at choices of more than one option draws the same text from the rebuilt
tree. -/
theorem drawnBy_rebuild (words : Words) (g : Generator) (position : Nat) :
    DrawnBy g.rebuild (sample words g position).1
      (reads words (free (draws words g position))) := by
  induction g using inductParts generalizing position with
  | literal text =>
    rw [rebuild_literal, sample_literal, draws_literal]
    exact drawnBy_literal text
  | choice options ih =>
    rcases options with _ | ⟨only, _ | ⟨second, rest⟩⟩
    · rw [rebuild_choice, sample_choice_nil, draws_choice_nil]
      exact drawnBy_literal ""
    · -- the pick of the only option is forced, and the rebuilt tree does not make it
      obtain ⟨option, there, sampled, drawn⟩ :=
        exists_picked words position (List.cons_ne_nil only [])
      obtain rfl : only = option := by simpa [pick_one] using there
      rw [rebuild_choice, sampled, drawn]
      exact ih only List.mem_cons_self _
    · have filled : only :: second :: rest ≠ [] := List.cons_ne_nil _ _
      obtain ⟨option, there, sampled, drawn⟩ := exists_picked words position filled
      have later := ih option (List.mem_of_getElem? there)
      have kept : free (draws words (choice (only :: second :: rest)) position) =
          { bound := (only :: second :: rest).length, position } ::
            free (draws words option (pick words (only :: second :: rest).length position).2) := by
        rw [drawn]
        exact List.filter_cons_of_pos (by simp [Draw.isForced])
      have there' : ((only :: second :: rest).map rebuild)[
          (pick words (only :: second :: rest).length position).1]? = some option.rebuild := by
        rw [List.getElem?_map, there]
        rfl
      rw [rebuild_choice, sampled, kept, reads_cons]
      exact (later _).choice (List.length_map rebuild).symm there'
  | nil =>
    rw [rebuild_concatenation, sample_concatenation_nil, draws_concatenation_nil]
    exact drawnBy_literal ""
  | cons part parts ih rest =>
    have later := rest (sample words part position).2
    rw [rebuild_concatenation, drawnBy_join] at later
    rw [rebuild_concatenation, List.map_cons, drawnBy_join, sample_concatenation_cons,
      draws_concatenation_cons, free, List.filter_append, reads_append]
    exact (ih position).cons later
  | capitalize inner ih =>
    rw [rebuild_capitalize, drawnBy_capitalized, sample_capitalize, draws_capitalize]
    exact (ih position).capitalize

/-- Where no pick of a sample is forced, the rebuilt tree samples the same with the same words. -/
theorem sample_rebuild_of_free {words : Words} {g : Generator} {position : Nat}
    (none : ∀ draw ∈ draws words g position, draw.isForced = false) :
    sample words g.rebuild position = sample words g position := by
  have chained := chained_draws words g position
  have all : free (draws words g position) = draws words g position :=
    List.filter_eq_self.mpr fun draw among => by simp [none draw among]
  have drawn := drawnBy_rebuild words g position words position
  rw [all] at drawn
  rw [drawn chained.standsAt_reads, chained.add_length_reads]

/-- **Building again.** Rebuilding a tree makes it minimal and leaves a minimal tree as it is, and
only such a tree. The rebuilt tree has the same combinations and lengths and no more nodes. It draws
the same text with the same words as the tree itself if no choice in the tree has one option only.
Else the words that a sample reads at such choices are taken away: the words that are left, in
order, draw the same text from the rebuilt tree, which reads all those that are left of the words of
the sample. -/
theorem rebuild_normalizes (g : Generator) :
    g.rebuild.isMinimal = true ∧ (g.rebuild = g ↔ g.isMinimal = true) ∧
    g.rebuild.combinations = g.combinations ∧ g.rebuild.minLength = g.minLength ∧
    g.rebuild.maxLength = g.maxLength ∧ g.rebuild.nodeCount ≤ g.nodeCount ∧
    (1 ∉ g.choiceSizes → ∀ words position,
      generate words g.rebuild position = generate words g position) ∧
    ∀ words position, ∃ kept : Nat → Nat, StrictMono kept ∧
      Set.range kept = {place | ∀ draw ∈ draws words g position, draw.bound = 1 →
        ¬ (draw.position ≤ place ∧ place < draw.next words)} ∧
      (generate (fun place => words (kept place)) g.rebuild position).1 =
        (generate words g position).1 ∧
      (generate (fun place => words (kept place)) g.rebuild position).2 +
          ((draws words g position).filter fun draw => draw.bound = 1).length =
        (generate words g position).2 := by
  simp only [generate_eq_sample]
  refine ⟨isMinimal_rebuild g, rebuild_eq_self_iff, combinations_rebuild g,
    measure_rebuild seesJoined_minLength seesChosen_minLength seesChildren_minLength g,
    measure_rebuild seesJoined_maxLength seesChosen_maxLength seesChildren_maxLength g,
    nodeCount_rebuild_le g, ?_, ?_⟩
  · intro several words position
    refine sample_rebuild_of_free fun draw among => ?_
    refine decide_eq_false fun alone => several ?_
    rw [← alone]
    exact bound_mem_choiceSizes among
  · intro words position
    have chained := chained_draws words g position
    have drawn := drawnBy_rebuild words g position _ position chained.standsAt_free
    have fewer := length_reads_free words (draws words g position)
    have ends := chained.add_length_reads
    refine ⟨placesLeft (forcedPlaces (draws words g position)), strictMono_placesLeft _, ?_, ?_, ?_⟩
    · rw [range_placesLeft chained.pairwise_forcedPlaces]
      ext place
      simp only [Set.mem_ofPred_eq, mem_forcedPlaces_iff words, not_exists, not_and]
    · rw [drawn]
    · rw [drawn, ← ends, ← fewer, Nat.add_assoc]
      rfl

/-- The forced pick in front reads the first word, and the tree that is left does not: it picks with
the second word. A tree in which no pick is forced reads the same words as before. -/
theorem rebuild_normalizes_forced :
    let g : Generator := concatenation [choice [concatenation [literal "k", literal ""]],
      choice [literal "a", literal "e"], capitalize (capitalize (choice []))]
    let h : Generator := concatenation [literal "", choice [literal "a", literal "e"]]
    let words := Source.word (.cycle #[0, 4294967295])
    g.isMinimal = false ∧ g.rebuild ≠ g ∧ h.rebuild = choice [literal "a", literal "e"] ∧
      1 ∉ h.choiceSizes ∧ generate words h.rebuild 1 = generate words h 1 ∧
      (∃ kept : Nat → Nat, StrictMono kept ∧ Set.range kept = {place | place ≠ 0} ∧
        generate (fun place => words (kept place)) g.rebuild 0 = ("ke", 1)) := by
  intro g h words
  have forced : g.isMinimal = false := by decide
  have several : 1 ∉ h.choiceSizes := by decide
  have drawn : draws words g 0 =
      [{ bound := 1, position := 0 }, { bound := 2, position := 1 }] := by
    decide
  have sampled : sample words g 0 = ("ke", 2) := by decide
  obtain ⟨-, fixed, -, -, -, -, same, -⟩ := rebuild_normalizes h
  obtain ⟨-, changed, -, -, -, -, -, left⟩ := rebuild_normalizes g
  refine ⟨forced, ?_, by decide, several, same several words 1, ?_⟩
  · rw [ne_eq, changed, forced]
    exact Bool.false_ne_true
  · obtain ⟨kept, grows, range, text, finish⟩ := left words 0
    rw [drawn] at range finish
    rw [generate_eq_sample words g, sampled] at text finish
    refine ⟨kept, grows, ?_, Prod.ext text ?_⟩
    · rw [range]
      ext place
      have next : Draw.next words { bound := 1, position := 0 } = 1 := by decide
      simp [next]
      omega
    · simpa using finish

end NamePattern.Generator
