import NamePattern.Proofs.Generator.Combinations
import NamePattern.Proofs.Generator.Minimal

/-!
# What building keeps

`join` merges literals and `oneOf` and `join` leave out a node over fewer than two children. A
measure that takes a row of literals for the literal of their joined text, and a node over one child
for this child, cannot tell what they build from the plain nodes: `SeesJoined` and `SeesChosen` are
what has to be shown of a measure, one equation for each thing that building does, and
`SeesJoined.join` and `SeesChosen.oneOf` are what follows.

The texts, the samples, the number of paths and both lengths are such measures. So a generator that
is joined from two draws what these draw, one after the other, and one that is built from the options
of two gives what either gives. The number of nodes is no such measure; what is built has no more
nodes than the plain node (`nodeCount_oneOf_le`, `nodeCount_join_le`).
-/

namespace NamePattern.Generator

/-! ## Measures -/

section Measures

variable {α : Type} {measure : Generator → α}

/-- The measure of a row of parts depends on the first part and on the measure of the others, and
sees of neighbouring literals only the text that they come to. -/
structure SeesJoined (measure : Generator → α) : Prop where
  nil : measure (concatenation []) = measure empty
  singleton : ∀ only, measure (concatenation [only]) = measure only
  cons : ∀ part rest rest', measure (concatenation rest) = measure (concatenation rest') →
    measure (concatenation (part :: rest)) = measure (concatenation (part :: rest'))
  blank : ∀ rest, measure (concatenation (literal "" :: rest)) = measure (concatenation rest)
  adjacent : ∀ first second rest,
    measure (concatenation (literal first :: literal second :: rest)) =
      measure (concatenation (literal (first ++ second) :: rest))

/-- The measure sees no node of a choice over fewer than two options. -/
structure SeesChosen (measure : Generator → α) : Prop where
  nil : measure (choice []) = measure empty
  singleton : ∀ only, measure (choice [only]) = measure only

theorem SeesChosen.oneOf (sees : SeesChosen measure) (options : List Generator) :
    measure (oneOf options) = measure (choice options) := by
  rcases options with _ | ⟨only, _ | ⟨second, rest⟩⟩
  · exact sees.nil.symm
  · exact (sees.singleton only).symm
  · rfl

theorem SeesJoined.consText (sees : SeesJoined measure) (text : String)
    (parts : List Generator) :
    measure (concatenation (consText text parts)) =
      measure (concatenation (literal text :: parts)) := by
  rcases consText_cases text parts with
    ⟨rfl, same⟩ | ⟨-, -, longer⟩ | ⟨next, rest, -, rfl, joined⟩
  · rw [same, sees.blank]
  · rw [longer]
  · rw [joined, sees.adjacent]

theorem SeesJoined.mergeLiterals (sees : SeesJoined measure) (parts : List Generator) :
    measure (concatenation (mergeLiterals parts)) = measure (concatenation parts) := by
  induction parts with
  | nil => rfl
  | cons part rest ih =>
    rcases exists_literal_or_not_isLiteral part with ⟨text, rfl⟩ | node
    · rw [mergeLiterals_literal, sees.consText]
      exact sees.cons _ _ _ ih
    · rw [mergeLiterals_cons_of_not_isLiteral node]
      exact sees.cons _ _ _ ih

theorem SeesJoined.join (sees : SeesJoined measure) (parts : List Generator) :
    measure (join parts) = measure (concatenation parts) := by
  -- merging comes first; what is left to do is to drop a node over fewer than two parts
  rw [← sees.mergeLiterals, Generator.join]
  rcases Generator.mergeLiterals parts with _ | ⟨only, _ | ⟨second, rest⟩⟩
  · exact sees.nil.symm
  · exact (sees.singleton only).symm
  · rfl

end Measures

/-! ## Texts -/

theorem seesJoined_texts : SeesJoined texts where
  nil := by simp [texts, empty]
  singleton only := by
    rw [texts_concatenation_cons]
    apply Std.ExtTreeSet.ext_mem
    simp [mem_products, mem_texts_concatenation_nil]
  cons part rest rest' same := by
    rw [texts_concatenation_cons, texts_concatenation_cons, same]
  blank rest := by
    rw [texts_concatenation_cons]
    apply Std.ExtTreeSet.ext_mem
    simp [mem_products, mem_texts_literal]
  adjacent first second rest := by
    simp only [texts_concatenation_cons]
    apply Std.ExtTreeSet.ext_mem
    simp [mem_products, mem_texts_literal, String.append_assoc]

theorem seesChosen_texts : SeesChosen texts where
  nil := by simp [texts, empty]
  singleton only := by
    apply Std.ExtTreeSet.ext_mem
    simp [mem_texts_choice]

/-! ## Samples -/

theorem seesJoined_sample (words : Words) : SeesJoined (sample words) where
  nil := by
    funext position
    rw [sample_concatenation_nil, empty, sample_literal]
  singleton only := by
    funext position
    rw [sample_concatenation_cons, sample_concatenation_nil, String.append_empty]
  cons part rest rest' same := by
    funext position
    rw [sample_concatenation_cons, sample_concatenation_cons, same]
  blank rest := by
    funext position
    rw [sample_concatenation_cons, sample_literal, String.empty_append]
  adjacent first second rest := by
    funext position
    simp only [sample_concatenation_cons, sample_literal, String.append_assoc]

/-! ## Paths -/

theorem seesJoined_length_paths : SeesJoined fun g => g.paths.length where
  nil := by simp [empty]
  singleton only := by
    show (concatenation [only]).paths.length = only.paths.length
    rw [length_paths_concatenation_cons, paths_concatenation_nil, List.length_singleton,
      Nat.mul_one]
  cons part rest rest' same := by
    show (concatenation _).paths.length = (concatenation _).paths.length
    rw [length_paths_concatenation_cons, length_paths_concatenation_cons, same]
  blank rest := by
    show (concatenation _).paths.length = (concatenation _).paths.length
    rw [length_paths_concatenation_cons, paths_literal, List.length_singleton, Nat.one_mul]
  adjacent first second rest := by
    show (concatenation _).paths.length = (concatenation _).paths.length
    simp only [length_paths_concatenation_cons, paths_literal, List.length_singleton, Nat.one_mul]

theorem seesChosen_length_paths : SeesChosen fun g => g.paths.length where
  nil := by simp [empty]
  singleton only := by
    show (choice [only]).paths.length = only.paths.length
    rw [length_paths_choice (by simp)]
    rfl

/-! ## Lengths -/

theorem seesJoined_minLength : SeesJoined minLength where
  nil := rfl
  singleton only := by simp
  cons part rest rest' same := by
    simp only [minLength_concatenation, List.map_cons, total_cons] at same ⊢
    rw [same]
  blank rest := by simp
  adjacent first second rest := by simp [Nat.add_assoc]

theorem seesJoined_maxLength : SeesJoined maxLength where
  nil := rfl
  singleton only := by simp
  cons part rest rest' same := by
    simp only [maxLength_concatenation, List.map_cons, total_cons] at same ⊢
    rw [same]
  blank rest := by simp
  adjacent first second rest := by simp [Nat.add_assoc]

theorem seesChosen_minLength : SeesChosen minLength where
  nil := rfl
  singleton only := by simp

theorem seesChosen_maxLength : SeesChosen maxLength where
  nil := rfl
  singleton only := by simp

/-! ## Nodes -/

theorem nodeCount_collapse_le {node : List Generator → Generator} {children : List Generator}
    (counts : (node children).nodeCount = 1 + total (children.map nodeCount)) :
    (collapse node children).nodeCount ≤ 1 + total (children.map nodeCount) := by
  match children, counts with
  | [], _ => exact Nat.le_refl 1
  | [only], _ =>
    rw [collapse_singleton]
    simp
  | first :: second :: rest, counts =>
    rw [collapse_of_two_le _ (by simp), counts]

theorem total_nodeCount_mergeLiterals_le (parts : List Generator) :
    total ((mergeLiterals parts).map nodeCount) ≤ total (parts.map nodeCount) := by
  induction parts with
  | nil => exact Nat.le_refl 0
  | cons part rest ih =>
    rcases exists_literal_or_not_isLiteral part with ⟨text, rfl⟩ | node
    · rw [mergeLiterals_literal, List.map_cons, total_cons, nodeCount_literal]
      rcases consText_cases text (mergeLiterals rest) with
        ⟨-, same⟩ | ⟨-, -, longer⟩ | ⟨next, behind, -, merged, joined⟩
      · rw [same]
        omega
      · rw [longer, List.map_cons, total_cons, nodeCount_literal]
        omega
      · rw [merged, List.map_cons, total_cons, nodeCount_literal] at ih
        rw [joined, List.map_cons, total_cons, nodeCount_literal]
        omega
    · rw [mergeLiterals_cons_of_not_isLiteral node, List.map_cons, List.map_cons, total_cons,
        total_cons]
      omega

theorem nodeCount_oneOf_le (options : List Generator) :
    (oneOf options).nodeCount ≤ 1 + total (options.map nodeCount) :=
  nodeCount_collapse_le (nodeCount_choice options)

theorem nodeCount_join_le (parts : List Generator) :
    (join parts).nodeCount ≤ 1 + total (parts.map nodeCount) := by
  have fewer := nodeCount_collapse_le (nodeCount_concatenation (mergeLiterals parts))
  exact Nat.le_trans fewer (Nat.add_le_add_left (total_nodeCount_mergeLiterals_le parts) 1)

/-! ## Two parts -/

section TwoParts

variable (first second : Generator)

/-- A sample of two parts is one of the first and then one of the second, from the words that the
first has left. -/
theorem sample_join_pair (words : Words) (position : Nat) :
    sample words (join [first, second]) position =
      ((sample words first position).1 ++
          (sample words second (sample words first position).2).1,
        (sample words second (sample words first position).2).2) := by
  have plain := congrFun ((seesJoined_sample words).join [first, second]) position
  rw [plain, sample_concatenation_cons, (seesJoined_sample words).singleton]

theorem combinations_join_pair :
    (join [first, second]).combinations =
      min (first.combinations * second.combinations) countLimit := by
  have paths_of_both : (join [first, second]).paths.length =
      first.paths.length * second.paths.length := by
    rw [seesJoined_length_paths.join, length_paths_concatenation_cons,
      seesJoined_length_paths.singleton]
  have product := mulCount_min (length_paths_pos first) (length_paths_pos second)
  rw [combinations_eq_min, combinations_eq_min first, combinations_eq_min second, paths_of_both]
  exact product.symm

theorem minLength_join_pair :
    (join [first, second]).minLength = first.minLength + second.minLength := by
  rw [seesJoined_minLength.join]
  simp

theorem maxLength_join_pair :
    (join [first, second]).maxLength = first.maxLength + second.maxLength := by
  rw [seesJoined_maxLength.join]
  simp

end TwoParts

/-! ## The options of two choices -/

/-- Two rows that are folded one behind the other can be folded apart. -/
theorem foldl_append_cons {op : Nat → Nat → Nat} [Std.Associative op] (first second : Nat)
    (front back : List Nat) :
    (front ++ second :: back).foldl op first = op (front.foldl op first) (back.foldl op second) := by
  rw [List.foldl_append, List.foldl_cons, List.foldl_assoc]

section TwoChoices

variable {front back : List Generator} (filled : front ≠ []) (filled' : back ≠ [])
include filled filled'

theorem gives_oneOf_append {text : String} :
    Gives (oneOf (front ++ back)) text ↔ Gives (oneOf front) text ∨ Gives (oneOf back) text := by
  have both : front ++ back ≠ [] := List.append_ne_nil_of_left_ne_nil filled back
  rw [← mem_texts_iff, ← mem_texts_iff, ← mem_texts_iff, seesChosen_texts.oneOf,
    seesChosen_texts.oneOf, seesChosen_texts.oneOf, mem_texts_choice filled,
    mem_texts_choice filled', mem_texts_choice both]
  simp only [List.mem_append, or_and_right, exists_or]

theorem combinations_oneOf_append :
    (oneOf (front ++ back)).combinations =
      min ((oneOf front).combinations + (oneOf back).combinations) countLimit := by
  have both : front ++ back ≠ [] := List.append_ne_nil_of_left_ne_nil filled back
  have paths_of_either : (oneOf (front ++ back)).paths.length =
      (oneOf front).paths.length + (oneOf back).paths.length := by
    rw [seesChosen_length_paths.oneOf, seesChosen_length_paths.oneOf,
      seesChosen_length_paths.oneOf, length_paths_choice filled, length_paths_choice filled',
      length_paths_choice both, List.map_append, total_append]
  have sum := addCount_min (oneOf front).paths.length (oneOf back).paths.length
  rw [combinations_eq_min, combinations_eq_min (oneOf front), combinations_eq_min (oneOf back),
    paths_of_either]
  exact sum.symm

theorem minLength_oneOf_append :
    (oneOf (front ++ back)).minLength = min (oneOf front).minLength (oneOf back).minLength := by
  obtain ⟨first, front, rfl⟩ := List.exists_cons_of_ne_nil filled
  obtain ⟨second, back, rfl⟩ := List.exists_cons_of_ne_nil filled'
  rw [seesChosen_minLength.oneOf, seesChosen_minLength.oneOf, seesChosen_minLength.oneOf]
  simp only [minLength_choice, List.cons_append, List.map_cons, List.map_append,
    List.min?_cons', Option.getD_some]
  exact foldl_append_cons _ _ _ _

theorem maxLength_oneOf_append :
    (oneOf (front ++ back)).maxLength = max (oneOf front).maxLength (oneOf back).maxLength := by
  obtain ⟨first, front, rfl⟩ := List.exists_cons_of_ne_nil filled
  obtain ⟨second, back, rfl⟩ := List.exists_cons_of_ne_nil filled'
  rw [seesChosen_maxLength.oneOf, seesChosen_maxLength.oneOf, seesChosen_maxLength.oneOf]
  simp only [maxLength_choice, List.cons_append, List.map_cons, List.map_append,
    List.max?_cons', Option.getD_some]
  exact foldl_append_cons _ _ _ _

end TwoChoices

end NamePattern.Generator
