import Mathlib.Data.Set.Card
import NamePattern.Generator.Buffer
import NamePattern.Generator.Measure
import NamePattern.Proofs.Generator.Paths

/-!
# Combinations count the paths

`Generator.paths` lists the paths through a generator with their texts: exactly them
(`mem_paths_iff`), each once (`nodup_paths`). A choice has the paths of its options, and parts have
a path for every way to put paths of theirs one after the other, so that sums and products count
them. `Generator.combinations` stops after every single sum and product at the largest count; since
no count is zero, it never comes back below a count at which it stopped, and the result is the
number of the paths, stopped once (`combinations_eq_min`).
-/

namespace NamePattern.Generator

/-! ## All paths -/

/-- The paths through a generator, each with its text. -/
def paths : Generator → List (List Nat × String) := fold {
  literal := fun text => [([], text)]
  choice := fun each =>
    if each.isEmpty then [([], "")]
    else each.zipIdx.flatMap fun option => option.1.map fun path => (option.2 :: path.1, path.2)
  concatenation := fun each =>
    each.foldr (fun heads tails => heads.flatMap fun head =>
      tails.map fun tail => (head.1 ++ tail.1, head.2 ++ tail.2)) [([], "")]
  capitalize := fun inner => inner.map fun path => (path.1, upperFirst path.2) }

section Equations

variable {options parts : List Generator} {part inner : Generator} {indices : List Nat}
  {text : String}

@[simp] theorem paths_literal : (literal text).paths = [([], text)] := by
  simp [paths]

@[simp] theorem paths_choice_nil : (choice []).paths = [([], "")] := by
  simp [paths]

theorem paths_choice (filled : options ≠ []) :
    (choice options).paths = (options.map paths).zipIdx.flatMap fun option =>
      option.1.map fun path => (option.2 :: path.1, path.2) := by
  simp [paths, filled]

@[simp] theorem paths_concatenation_nil : (concatenation []).paths = [([], "")] := by
  simp [paths]

theorem paths_concatenation_cons :
    (concatenation (part :: parts)).paths = part.paths.flatMap fun head =>
      (concatenation parts).paths.map fun tail => (head.1 ++ tail.1, head.2 ++ tail.2) := by
  simp [paths]

@[simp] theorem paths_capitalize :
    (capitalize inner).paths = inner.paths.map fun path => (path.1, upperFirst path.2) := by
  simp [paths]

end Equations

/-- The listed paths are the paths. -/
theorem mem_paths_iff {g : Generator} {indices : List Nat} {text : String} :
    (indices, text) ∈ g.paths ↔ Path g indices text := by
  induction g using inductParts generalizing indices text with
  | literal written =>
    rw [paths_literal, List.mem_singleton, Prod.mk.injEq]
    constructor
    · rintro ⟨rfl, rfl⟩
      exact .literal text
    · intro path
      cases path
      exact ⟨rfl, rfl⟩
  | choice options ih =>
    cases options with
    | nil =>
      rw [paths_choice_nil, List.mem_singleton, Prod.mk.injEq]
      constructor
      · rintro ⟨rfl, rfl⟩
        exact .none
      · intro path
        cases path with
        | none => exact ⟨rfl, rfl⟩
        | choice there _ => cases there
    | cons option options =>
      rw [paths_choice (by simp)]
      simp only [List.mem_flatMap, List.mem_map, Prod.exists, List.mem_zipIdx_iff_getElem?,
        List.getElem?_map, Option.map_eq_some_iff, Prod.mk.injEq]
      constructor
      · rintro ⟨_, index, ⟨chosen, there, rfl⟩, front, given, listed, rfl, rfl⟩
        exact .choice there ((ih chosen (List.mem_of_getElem? there)).mp listed)
      · intro path
        cases path with
        | choice there path =>
          have listed := (ih _ (List.mem_of_getElem? there)).mpr path
          exact ⟨_, _, ⟨_, there, rfl⟩, _, _, listed, rfl, rfl⟩
  | nil =>
    rw [paths_concatenation_nil, List.mem_singleton, Prod.mk.injEq]
    constructor
    · rintro ⟨rfl, rfl⟩
      exact .nil
    · intro path
      cases path
      exact ⟨rfl, rfl⟩
  | cons part parts ih rest =>
    rw [paths_concatenation_cons]
    simp only [List.mem_flatMap, List.mem_map, Prod.exists, Prod.mk.injEq]
    constructor
    · rintro ⟨front, first, head, back, later, tail, rfl, rfl⟩
      exact .cons (ih.mp head) (rest.mp tail)
    · intro path
      cases path with
      | cons head tail => exact ⟨_, _, ih.mpr head, _, _, rest.mpr tail, rfl, rfl⟩
  | capitalize inner ih =>
    rw [paths_capitalize]
    simp only [List.mem_map, Prod.exists, Prod.mk.injEq]
    constructor
    · rintro ⟨_, given, listed, rfl, rfl⟩
      exact .capitalize (ih.mp listed)
    · intro path
      cases path with
      | capitalize path => exact ⟨_, _, ih.mpr path, rfl, rfl⟩

theorem eq_of_mem_paths {g : Generator} {path path' : List Nat × String} (listed : path ∈ g.paths)
    (listed' : path' ∈ g.paths) {rest rest' : List Nat}
    (same : path.1 ++ rest = path'.1 ++ rest') : path = path' := by
  obtain ⟨indices, text⟩ := path
  obtain ⟨indices', text'⟩ := path'
  obtain ⟨rfl, rfl, -⟩ := (mem_paths_iff.mp listed).append_inj (mem_paths_iff.mp listed') same
  rfl

/-- A path is listed under its indices alone: they determine the text. -/
theorem eq_of_fst_eq {g : Generator} {path path' : List Nat × String} (listed : path ∈ g.paths)
    (listed' : path' ∈ g.paths) (same : path.1 = path'.1) : path = path' := by
  have same : path.1 ++ [] = path'.1 ++ [] := by rw [same]
  exact eq_of_mem_paths listed listed' same

theorem nodup_paths (g : Generator) : g.paths.Nodup := by
  induction g using inductParts with
  | literal text =>
    rw [paths_literal]
    exact List.nodup_singleton _
  | choice options ih =>
    by_cases filled : options = []
    · subst filled
      rw [paths_choice_nil]
      exact List.nodup_singleton _
    · rw [paths_choice filled, List.nodup_flatMap]
      constructor
      · rintro ⟨listed, index⟩ member
        obtain ⟨option, among, rfl⟩ := List.mem_map.mp (List.fst_mem_of_mem_zipIdx member)
        refine (ih option among).map ?_
        rintro ⟨front, text⟩ ⟨front', text'⟩ same
        simpa using same
      · -- paths through different options differ in their first index
        have indices : ((options.map paths).zipIdx.map Prod.snd).Nodup := by
          rw [List.zipIdx_map_snd]
          exact List.nodup_range'
        refine (List.pairwise_map.mp indices).imp ?_
        intro option option' differ path member member'
        obtain ⟨inner, -, rfl⟩ := List.mem_map.mp member
        obtain ⟨inner', -, same⟩ := List.mem_map.mp member'
        simp only [Prod.mk.injEq, List.cons.injEq] at same
        exact differ same.1.1.symm
  | nil =>
    rw [paths_concatenation_nil]
    exact List.nodup_singleton _
  | cons part parts ih rest =>
    rw [paths_concatenation_cons, List.nodup_flatMap]
    constructor
    · intro head _
      refine rest.map_on ?_
      intro tail listed tail' listed' same
      rw [Prod.mk.injEq] at same
      exact eq_of_fst_eq listed listed' (List.append_cancel_left same.1)
    · -- paths of the first part are no fronts of one another
      refine ih.pairwise_of_forall_ne ?_
      intro head listed head' listed' differ path member member'
      obtain ⟨tail, -, rfl⟩ := List.mem_map.mp member
      obtain ⟨tail', -, same⟩ := List.mem_map.mp member'
      rw [Prod.mk.injEq] at same
      exact differ (eq_of_mem_paths listed' listed same.1).symm
  | capitalize inner ih =>
    rw [paths_capitalize]
    refine ih.map_on ?_
    intro path listed path' listed' same
    rw [Prod.mk.injEq] at same
    exact eq_of_fst_eq listed listed' same.1

/-! ## The number of paths -/

/-- Putting an index before the paths of each option changes none of their numbers. -/
theorem length_flatMap_zipIdx (options : List Generator) (start : Nat) :
    (((options.map paths).zipIdx start).flatMap fun option =>
      option.1.map fun path => (option.2 :: path.1, path.2)).length =
        total (options.map fun option => option.paths.length) := by
  induction options generalizing start with
  | nil => rfl
  | cons option options ih =>
    rw [List.map_cons, List.zipIdx_cons, List.flatMap_cons, List.length_append, List.length_map,
      ih, List.map_cons, total_cons]

theorem length_paths_choice {options : List Generator} (filled : options ≠ []) :
    (choice options).paths.length = total (options.map fun option => option.paths.length) := by
  rw [paths_choice filled]
  exact length_flatMap_zipIdx options 0

theorem length_paths_concatenation_cons {part : Generator} {parts : List Generator} :
    (concatenation (part :: parts)).paths.length =
      part.paths.length * (concatenation parts).paths.length := by
  rw [paths_concatenation_cons]
  simp

/-- There is a path through every generator: the one that a sample takes. -/
theorem length_paths_pos (g : Generator) : 0 < g.paths.length :=
  List.length_pos_of_mem (mem_paths_iff.mpr (path_sample (fun _ => 0) g 0))

/-! ## Counts that stop -/

theorem addCount_min (m n : Nat) :
    addCount (min m countLimit) (min n countLimit) = min (m + n) countLimit := by
  unfold addCount
  omega

/-- A product does not come back below a factor at which it stopped: the other one is not zero. -/
theorem mulCount_min {m n : Nat} (pos : 0 < m) (pos' : 0 < n) :
    mulCount (min m countLimit) (min n countLimit) = min (m * n) countLimit := by
  unfold mulCount
  have factor : m ≤ m * n := Nat.le_mul_of_pos_right m pos'
  have factor' : n ≤ m * n := Nat.le_mul_of_pos_left n pos
  have limit_pos : 0 < countLimit := by decide
  rcases Nat.le_total countLimit m with large | small
  · -- the first factor has stopped, and the product stays where it stopped
    have stopped : countLimit ≤ countLimit * min n countLimit :=
      Nat.le_mul_of_pos_right _ (by omega)
    rw [Nat.min_eq_right large, Nat.min_eq_right stopped, Nat.min_eq_right (by omega)]
  · rcases Nat.le_total countLimit n with large' | small'
    · have stopped : countLimit ≤ m * countLimit := Nat.le_mul_of_pos_left _ pos
      rw [Nat.min_eq_left small, Nat.min_eq_right large', Nat.min_eq_right stopped,
        Nat.min_eq_right (by omega)]
    · rw [Nat.min_eq_left small, Nat.min_eq_left small']

/-- Sums that stop at every step are the sum, stopped once. -/
theorem foldl_addCount_map_min (counts : List Nat) (start : Nat) :
    (counts.map fun count => min count countLimit).foldl addCount (min start countLimit) =
      min (start + total counts) countLimit := by
  induction counts generalizing start with
  | nil => rfl
  | cons count counts ih =>
    rw [List.map_cons, List.foldl_cons, addCount_min, ih, total_cons, Nat.add_assoc]

theorem foldl_mulCount_map_combinations {parts : List Generator}
    (counted : ∀ part ∈ parts, part.combinations = min part.paths.length countLimit) {start : Nat}
    (pos : 0 < start) :
    (parts.map combinations).foldl mulCount (min start countLimit) =
      min (start * (concatenation parts).paths.length) countLimit := by
  induction parts generalizing start with
  | nil => simp
  | cons part parts ih =>
    have filled := length_paths_pos part
    have later := ih (fun other member => counted other (by simp [member]))
      (Nat.mul_pos pos filled)
    rw [List.map_cons, List.foldl_cons, counted part (by simp), mulCount_min pos filled, later,
      length_paths_concatenation_cons, Nat.mul_assoc]

/-- Stopping at every sum and product comes to the same as stopping once, at the end. -/
theorem combinations_eq_min (g : Generator) :
    g.combinations = min g.paths.length countLimit := by
  induction g with
  | literal text =>
    rw [combinations_literal, paths_literal]
    rfl
  | choice options ih =>
    by_cases filled : options = []
    · subst filled
      rw [combinations_choice, paths_choice_nil]
      rfl
    · -- each option has a path, so that the least count of one changes nothing here
      have counted : options.map combinations =
          (options.map fun option => option.paths.length).map fun count =>
            min count countLimit := by
        rw [List.map_map]
        exact List.map_congr_left ih
      have sum := foldl_addCount_map_min (options.map fun option => option.paths.length) 0
      rw [Nat.zero_add, ← length_paths_choice filled] at sum
      have pos := length_paths_pos (choice options)
      have limit_pos : 0 < countLimit := by decide
      rw [combinations_choice, counted]
      show max (List.foldl addCount (min 0 countLimit) _) 1 = _
      rw [sum]
      omega
  | concatenation parts ih =>
    have product := foldl_mulCount_map_combinations ih Nat.one_pos
    rw [Nat.one_mul] at product
    rw [combinations_concatenation, ← product]
    rfl
  | capitalize inner ih =>
    rw [combinations_capitalize, ih, paths_capitalize, List.length_map]

/-- A product of 128 factors of two is one more than the largest count. -/
example : (concatenation (List.replicate 128 (choice [literal "a", literal "b"]))).combinations =
    countLimit := by
  decide +kernel

/-! ## Combinations, paths and texts -/

theorem encard_setOf_path (g : Generator) :
    {indices | ∃ text, Path g indices text}.encard = g.paths.length := by
  have listed : {indices | ∃ text, Path g indices text} =
      ((g.paths.map Prod.fst).toFinset : Set (List Nat)) := by
    ext indices
    simp [mem_paths_iff]
  have distinct : (g.paths.map Prod.fst).Nodup := by
    apply (nodup_paths g).map_on
    intro path listed path' listed'
    exact eq_of_fst_eq listed listed'
  rw [listed, Set.encard_coe_eq_coe_finsetCard, List.toFinset_card_of_nodup distinct,
    List.length_map]

theorem encard_setOf_gives_le (g : Generator) :
    {text | Gives g text}.encard ≤ g.paths.length := by
  have listed : {text | Gives g text} = ((g.paths.map Prod.snd).toFinset : Set String) := by
    ext text
    simp [gives_iff_exists_path, mem_paths_iff]
  have fewer := List.toFinset_card_le (g.paths.map Prod.snd)
  rw [List.length_map] at fewer
  rw [listed, Set.encard_coe_eq_coe_finsetCard]
  exact_mod_cast fewer

/-- Where the words can reach all options, the rows of indices that samples pick are the paths. -/
theorem setOf_path_eq_range_picks {g : Generator} (small : g.choicesBelow 4294967296 = true)
    (position : Nat) :
    {indices | ∃ text, Path g indices text} = Set.range fun words => picks words g position := by
  ext indices
  constructor
  · rintro ⟨text, path⟩
    obtain ⟨block, picked⟩ := path.exists_block small
    obtain ⟨words, stands⟩ := exists_standsAt position block
    exact ⟨words, (picked words position stands).1⟩
  · rintro ⟨words, rfl⟩
    exact ⟨_, path_sample words g position⟩

/-- **Combinations.** A generator has finitely many paths, and the combinations are their number,
stopped at 2 ^ 128 - 1. There are no more texts than paths, and so no more than combinations if
these did not stop. Every sample takes one of the paths, and if the words can reach all options
then each path is taken by some sample, wherever its words start. -/
theorem combinations_eq_min_encard (g : Generator) :
    ∃ count : Nat,
      {indices | ∃ text, Path g indices text}.encard = count ∧
      g.combinations = min (2 ^ 128 - 1) count ∧
      {text | Gives g text}.encard ≤ count ∧
      (g.combinations < 2 ^ 128 - 1 → {text | Gives g text}.encard ≤ g.combinations) ∧
      (∀ words position, Path g (picks words g position) (generate words g position).1) ∧
      (g.choicesBelow 4294967296 = true → ∀ position,
        {indices | ∃ text, Path g indices text} = Set.range fun words => picks words g position) := by
  have limit : countLimit = 2 ^ 128 - 1 := rfl
  have number := combinations_eq_min g
  rw [limit, Nat.min_comm] at number
  refine ⟨g.paths.length, encard_setOf_path g, number, encard_setOf_gives_le g, ?_, ?_,
    setOf_path_eq_range_picks⟩
  · intro below
    have all : g.combinations = g.paths.length := by omega
    rw [all]
    exact encard_setOf_gives_le g
  · intro words position
    rw [generate_eq_sample]
    exact path_sample words g position

/-- Two paths to one text, through a choice with two equal options and one with none. -/
theorem combinations_eq_min_encard_equal :
    let g : Generator := concatenation [choice [literal "a", literal "a"], choice []]
    g.combinations = 2 ∧ g.combinations < 2 ^ 128 - 1 ∧ g.choicesBelow 4294967296 = true ∧
      {text | Gives g text}.encard ≤ (2 : Nat) ∧
      {indices | ∃ text, Path g indices text} = Set.range fun words => picks words g 0 := by
  intro g
  have two : g.combinations = 2 := by decide
  have below : g.combinations < 2 ^ 128 - 1 := by
    rw [two]
    decide
  have small : g.choicesBelow 4294967296 = true := by decide
  obtain ⟨count, -, -, -, fewer, -, reached⟩ := combinations_eq_min_encard g
  have fewer := fewer below
  rw [two] at fewer
  exact ⟨two, below, small, fewer, reached small 0⟩

end NamePattern.Generator
