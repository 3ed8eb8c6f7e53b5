import NamePattern.Generator.Measure
import NamePattern.Proofs.Generator.Sampling

/-!
# Lengths are kept and reached

A text of a generator has a length between the shortest and the longest (`Gives.minLength_le`,
`Gives.le_maxLength`), and both are reached: each is the length of a text that takes at every choice
an option of that length (`exists_gives_length_eq`), and such a text is drawn by some words.

No number on the way to a length is larger than the number of characters in all literals together
(`LengthStep.le_literalLength`). So a machine that has room for that number works out the length
without an overflow (`lengthWithin?_eq_some`).
-/

namespace NamePattern

theorem length_upperFirst (text : String) : (upperFirst text).length = text.length := by
  obtain ⟨chars, rfl⟩ : ∃ chars, text = String.ofList chars := ⟨text.toList, by simp⟩
  cases chars with
  | nil => rfl
  | cons first rest => simp [upperFirst]

namespace Generator

/-! ## Lengths by a rule -/

/-- The length of a text that takes at each choice an option of the length that a rule selects. -/
def lengthBy (select? : List Nat → Option Nat) : Generator → Nat := fold {
  literal := String.length
  choice := fun lengths => (select? lengths).getD 0
  concatenation := total
  capitalize := id }

theorem minLength_eq_lengthBy : minLength = lengthBy List.min? := rfl

theorem maxLength_eq_lengthBy : maxLength = lengthBy List.max? := rfl

section Equations

variable {select? : List Nat → Option Nat} {text : String} {options parts : List Generator}
  {inner : Generator}

@[simp] theorem lengthBy_literal : (literal text).lengthBy select? = text.length := by
  simp [lengthBy]

theorem lengthBy_choice : (choice options).lengthBy select? =
    (select? (options.map (lengthBy select?))).getD 0 := by
  simp [lengthBy]

@[simp] theorem lengthBy_concatenation : (concatenation parts).lengthBy select? =
    total (parts.map (lengthBy select?)) := by
  simp [lengthBy]

@[simp] theorem lengthBy_capitalize :
    (capitalize inner).lengthBy select? = inner.lengthBy select? := by
  simp [lengthBy]

end Equations

/-! ## No text is shorter or longer -/

/-- What a rule selects comes first, in an order that sums keep, among the numbers it selects from. -/
structure Bounds (select? : List Nat → Option Nat) (order : Nat → Nat → Prop) : Prop where
  none : select? [] = none
  refl : ∀ length, order length length
  trans : ∀ {first second third}, order first second → order second third → order first third
  add : ∀ {first second first' second'}, order first second → order first' second' →
    order (first + first') (second + second')
  selected : ∀ {lengths length}, length ∈ lengths → order ((select? lengths).getD 0) length

theorem bounds_min? : Bounds List.min? (· ≤ ·) where
  none := rfl
  refl := Nat.le_refl
  trans := Nat.le_trans
  add := Nat.add_le_add
  selected := List.min?_getD_le_of_mem

theorem bounds_max? : Bounds List.max? (· ≥ ·) where
  none := rfl
  refl := Nat.le_refl
  trans first later := Nat.le_trans later first
  add := Nat.add_le_add
  selected := List.le_max?_getD_of_mem

theorem Bounds.order_length {select? : List Nat → Option Nat} {order : Nat → Nat → Prop}
    (bounds : Bounds select? order) {g : Generator} {text : String} (given : Gives g text) :
    order (g.lengthBy select?) text.length := by
  induction given with
  | literal text =>
    rw [lengthBy_literal]
    exact bounds.refl _
  | none =>
    rw [lengthBy_choice, List.map_nil, bounds.none]
    exact bounds.refl 0
  | choice member _ ih =>
    rw [lengthBy_choice]
    exact bounds.trans (bounds.selected (List.mem_map_of_mem member)) ih
  | nil =>
    rw [lengthBy_concatenation]
    exact bounds.refl 0
  | cons _ _ ih ih' =>
    rw [lengthBy_concatenation] at ih' ⊢
    rw [String.length_append]
    exact bounds.add ih ih'
  | capitalize _ ih =>
    rw [lengthBy_capitalize, length_upperFirst]
    exact ih

theorem Gives.minLength_le {g : Generator} {text : String} (given : Gives g text) :
    g.minLength ≤ text.length := by
  rw [minLength_eq_lengthBy]
  exact bounds_min?.order_length given

theorem Gives.le_maxLength {g : Generator} {text : String} (given : Gives g text) :
    text.length ≤ g.maxLength := by
  rw [maxLength_eq_lengthBy]
  exact bounds_max?.order_length given

/-! ## Both lengths are reached -/

/-- The rule selects one of the numbers, if there are any. -/
structure Selects (select? : List Nat → Option Nat) : Prop where
  mem : ∀ {lengths length}, select? lengths = some length → length ∈ lengths
  eq_nil : ∀ {lengths}, select? lengths = none → lengths = []

theorem selects_min? : Selects List.min? := ⟨List.min?_mem, List.min?_eq_none_iff.mp⟩

theorem selects_max? : Selects List.max? := ⟨List.max?_mem, List.max?_eq_none_iff.mp⟩

section Selects

variable {select? : List Nat → Option Nat} (selects : Selects select?)
include selects

/-- The length of a choice is that of one of its options, and zero if it has none. -/
theorem Selects.lengthBy_choice_cases (options : List Generator) :
    (options = [] ∧ (choice options).lengthBy select? = 0) ∨
    ∃ option ∈ options, (choice options).lengthBy select? = option.lengthBy select? := by
  rw [lengthBy_choice]
  cases selected : select? (options.map (lengthBy select?)) with
  | none => exact .inl ⟨List.map_eq_nil_iff.mp (selects.eq_nil selected), rfl⟩
  | some length =>
    obtain ⟨option, among, same⟩ := List.mem_map.mp (selects.mem selected)
    exact .inr ⟨option, among, same.symm⟩

theorem exists_gives_length_eq (g : Generator) :
    ∃ text, Gives g text ∧ text.length = g.lengthBy select? := by
  induction g using inductParts with
  | literal text => exact ⟨text, .literal text, lengthBy_literal.symm⟩
  | choice options ih =>
    rcases selects.lengthBy_choice_cases options with ⟨rfl, zero⟩ | ⟨option, among, same⟩
    · exact ⟨"", .none, zero.symm⟩
    · obtain ⟨text, given, reached⟩ := ih option among
      exact ⟨text, .choice among given, reached.trans same.symm⟩
  | nil => exact ⟨"", .nil, rfl⟩
  | cons part parts ih rest =>
    obtain ⟨front, given, reached⟩ := ih
    obtain ⟨back, given', reached'⟩ := rest
    refine ⟨front ++ back, .cons given given', ?_⟩
    rw [String.length_append, reached, reached']
    simp
  | capitalize inner ih =>
    obtain ⟨text, given, reached⟩ := ih
    refine ⟨upperFirst text, .capitalize given, ?_⟩
    rw [length_upperFirst, reached, lengthBy_capitalize]

/-- Where the words can reach all options, some words draw a text of the selected length. -/
theorem exists_length_sample_eq {g : Generator} (small : g.choicesBelow 4294967296 = true)
    (position : Nat) :
    ∃ words, (sample words g position).1.length = g.lengthBy select? := by
  obtain ⟨text, given, reached⟩ := exists_gives_length_eq selects g
  obtain ⟨words, drawn⟩ := exists_sample_eq given small position
  exact ⟨words, drawn ▸ reached⟩

end Selects

/-! ## No number on the way is larger than all literals together -/

/-- The number of characters in all literals. -/
def literalLength : Generator → Nat := fold {
  literal := String.length
  choice := total
  concatenation := total
  capitalize := id }

section LiteralLength

variable {text : String} {options parts : List Generator} {option part inner : Generator}

@[simp] theorem literalLength_literal : (literal text).literalLength = text.length := by
  simp [literalLength]

@[simp] theorem literalLength_choice :
    (choice options).literalLength = total (options.map literalLength) := by
  simp [literalLength]

@[simp] theorem literalLength_concatenation :
    (concatenation parts).literalLength = total (parts.map literalLength) := by
  simp [literalLength]

@[simp] theorem literalLength_capitalize :
    (capitalize inner).literalLength = inner.literalLength := by
  simp [literalLength]

end LiteralLength

theorem Selects.lengthBy_le_literalLength {select? : List Nat → Option Nat}
    (selects : Selects select?) (g : Generator) : g.lengthBy select? ≤ g.literalLength := by
  induction g with
  | literal text => exact Nat.le_of_eq (lengthBy_literal.trans literalLength_literal.symm)
  | choice options ih =>
    rw [literalLength_choice]
    rcases selects.lengthBy_choice_cases options with ⟨-, zero⟩ | ⟨option, among, same⟩
    · rw [zero]
      exact Nat.zero_le _
    · rw [same]
      exact Nat.le_trans (ih option among) (le_total_map_of_mem literalLength among)
  | concatenation parts ih =>
    rw [lengthBy_concatenation, literalLength_concatenation]
    exact total_map_le_total_map ih
  | capitalize inner ih =>
    rw [lengthBy_capitalize, literalLength_capitalize]
    exact ih

/-- The numbers that working out a length comes to: the length of the generator, the sum of the
first of its parts, and all that its children come to. -/
inductive LengthStep (length : Generator → Nat) : Generator → Nat → Prop where
  | value (g : Generator) : LengthStep length g (length g)
  | sum (front back : List Generator) :
      LengthStep length (.concatenation (front ++ back)) (total (front.map length))
  | option {option : Generator} {options : List Generator} {number : Nat} :
      option ∈ options → LengthStep length option number →
        LengthStep length (.choice options) number
  | part {part : Generator} {parts : List Generator} {number : Nat} :
      part ∈ parts → LengthStep length part number →
        LengthStep length (.concatenation parts) number
  | inner {inner : Generator} {number : Nat} :
      LengthStep length inner number → LengthStep length (.capitalize inner) number

theorem LengthStep.le_literalLength {length : Generator → Nat}
    (within : ∀ g, length g ≤ g.literalLength) {g : Generator} {number : Nat}
    (step : LengthStep length g number) : number ≤ g.literalLength := by
  induction step with
  | value g => exact within g
  | sum front back =>
    rw [literalLength_concatenation, List.map_append, total_append]
    exact Nat.le_trans (total_map_le_total_map fun part _ => within part) (Nat.le_add_right _ _)
  | option among _ ih =>
    rw [literalLength_choice]
    exact Nat.le_trans ih (le_total_map_of_mem literalLength among)
  | part among _ ih =>
    rw [literalLength_concatenation]
    exact Nat.le_trans ih (le_total_map_of_mem literalLength among)
  | inner _ ih =>
    rw [literalLength_capitalize]
    exact ih

/-! ## Working a length out with bounded numbers -/

/-- A number, if it is no larger than a limit. -/
def upTo? (limit number : Nat) : Option Nat := if number ≤ limit then some number else none

theorem upTo?_of_le {limit number : Nat} (le : number ≤ limit) :
    upTo? limit number = some number := if_pos le

/-- A length worked out from left to right, given up where a number passes a limit. -/
def lengthWithin? (limit : Nat) (select? : List Nat → Option Nat) : Generator → Option Nat := fold {
  literal := fun text => upTo? limit text.length
  choice := fun lengths => (lengths.mapM id).map fun all => (select? all).getD 0
  concatenation := fun lengths =>
    lengths.foldlM (fun sum length => length.bind fun next => upTo? limit (sum + next)) 0
  capitalize := id }

section Within

variable {limit : Nat} {select? : List Nat → Option Nat} {parts options : List Generator}

theorem mapM_lengthWithin? (each : ∀ option ∈ options,
    option.lengthWithin? limit select? = some (option.lengthBy select?)) :
    (options.map (lengthWithin? limit select?)).mapM id =
      some (options.map (lengthBy select?)) := by
  induction options with
  | nil => rfl
  | cons option options ih =>
    rw [List.forall_mem_cons] at each
    simp [List.mapM_cons, each.1, ih each.2]

/-- Adding up is resumed behind the parts that are added up already. -/
theorem foldlM_lengthWithin? (front back : List Generator)
    (each : ∀ part ∈ back, part.lengthWithin? limit select? = some (part.lengthBy select?))
    (sums : ∀ first rest, front ++ back = first ++ rest →
      total (first.map (lengthBy select?)) ≤ limit) :
    (back.map (lengthWithin? limit select?)).foldlM
        (fun sum length => length.bind fun next => upTo? limit (sum + next))
        (total (front.map (lengthBy select?))) =
      some (total ((front ++ back).map (lengthBy select?))) := by
  induction back generalizing front with
  | nil => simp
  | cons part back ih =>
    rw [List.forall_mem_cons] at each
    have longer : front ++ part :: back = (front ++ [part]) ++ back := by simp
    have sum : total (front.map (lengthBy select?)) + part.lengthBy select? =
        total ((front ++ [part]).map (lengthBy select?)) := by simp
    have step : upTo? limit (total (front.map (lengthBy select?)) + part.lengthBy select?) =
        some (total ((front ++ [part]).map (lengthBy select?))) := by
      rw [sum]
      exact upTo?_of_le (sums _ _ longer)
    rw [longer] at sums ⊢
    rw [← ih (front ++ [part]) each.2 sums, List.map_cons, List.foldlM_cons, each.1]
    simp only [Option.bind_some, step, Option.bind_eq_bind]

theorem lengthWithin?_eq_some {g : Generator}
    (fits : ∀ number, LengthStep (lengthBy select?) g number → number ≤ limit) :
    g.lengthWithin? limit select? = some (g.lengthBy select?) := by
  induction g with
  | literal text =>
    have own := fits _ (.value _)
    rw [lengthBy_literal] at own ⊢
    simpa [lengthWithin?] using upTo?_of_le own
  | choice options ih =>
    have each := mapM_lengthWithin? fun option among =>
      ih option among fun number step => fits number (.option among step)
    rw [lengthBy_choice, lengthWithin?, fold_choice]
    show ((options.map (lengthWithin? limit select?)).mapM id).map _ = _
    rw [each]
    rfl
  | concatenation parts ih =>
    have added := foldlM_lengthWithin? [] parts
      (fun part among => ih part among fun number step => fits number (.part among step))
      (fun first rest cut => fits _ (by
        rw [show parts = first ++ rest from cut]
        exact .sum first rest))
    rw [lengthBy_concatenation, lengthWithin?, fold_concatenation]
    exact added
  | capitalize inner ih =>
    rw [lengthBy_capitalize, lengthWithin?, fold_capitalize]
    exact ih fun number step => fits number (.inner step)

end Within

/-- **Lengths.** The number of characters of a sample is between the shortest and the longest
length, and some words draw a text of just the shortest and some one of just the longest. No number
that either length comes to on the way is larger than the number of characters in all literals
together, and with room for numbers up to that one both are worked out without passing the limit. -/
theorem lengths_tight (g : Generator) (small : g.choicesBelow 4294967296 = true) :
    (∀ words position, g.minLength ≤ (generate words g position).1.length ∧
      (generate words g position).1.length ≤ g.maxLength) ∧
    (∀ position, ∃ words, (generate words g position).1.length = g.minLength) ∧
    (∀ position, ∃ words, (generate words g position).1.length = g.maxLength) ∧
    g.minLength ≤ g.maxLength ∧
    (∀ number, LengthStep minLength g number ∨ LengthStep maxLength g number →
      number ≤ g.literalLength) ∧
    ∀ limit, g.literalLength ≤ limit →
      g.lengthWithin? limit List.min? = some g.minLength ∧
      g.lengthWithin? limit List.max? = some g.maxLength := by
  have least : ∀ number, LengthStep minLength g number → number ≤ g.literalLength :=
    fun number step => step.le_literalLength selects_min?.lengthBy_le_literalLength
  have most : ∀ number, LengthStep maxLength g number → number ≤ g.literalLength :=
    fun number step => step.le_literalLength selects_max?.lengthBy_le_literalLength
  simp only [generate_eq_sample]
  refine ⟨?_, fun position => exists_length_sample_eq selects_min? small position,
    fun position => exists_length_sample_eq selects_max? small position, ?_, ?_, ?_⟩
  · intro words position
    have given := gives_sample words g position
    exact ⟨given.minLength_le, given.le_maxLength⟩
  · have given := gives_sample (fun _ => 0) g 0
    exact Nat.le_trans given.minLength_le given.le_maxLength
  · rintro number (step | step)
    · exact least number step
    · exact most number step
  · intro limit room
    exact ⟨lengthWithin?_eq_some fun number step => Nat.le_trans (least number step) room,
      lengthWithin?_eq_some fun number step => Nat.le_trans (most number step) room⟩

/-- The shortest text takes the empty option inside the capitalisation, the longest one neither
first option. -/
theorem lengths_tight_syllables :
    let g : Generator := concatenation [choice [literal "b", literal "th"],
      capitalize (choice [literal "", choice [], literal "ald"])]
    g.choicesBelow 4294967296 = true ∧ g.literalLength = 6 ∧
      (∃ words, (generate words g 3).1.length = 1) ∧ (∃ words, (generate words g 3).1.length = 5) ∧
      LengthStep maxLength g 2 ∧ 2 ≤ g.literalLength ∧
      g.lengthWithin? 6 List.min? = some 1 ∧ g.lengthWithin? 6 List.max? = some 5 := by
  intro g
  have small : g.choicesBelow 4294967296 = true := by decide
  have all : g.literalLength = 6 := by decide
  have shortest : g.minLength = 1 := by decide
  have longest : g.maxLength = 5 := by decide
  have first : LengthStep maxLength g 2 :=
    .sum [choice [literal "b", literal "th"]]
      [capitalize (choice [literal "", choice [], literal "ald"])]
  obtain ⟨-, least, most, -, within, room⟩ := lengths_tight g small
  have worked := room 6 (Nat.le_of_eq all)
  rw [shortest, longest] at worked
  rw [shortest] at least
  rw [longest] at most
  exact ⟨small, all, least 3, most 3, first, within 2 (.inr first), worked⟩

end Generator

end NamePattern
