import NamePattern.Generator.Build
import Mathlib.Data.List.Chain

/-!
# Minimal generators

A generator is *minimal* if nothing in it could be left out: a choice and a concatenation have two
children at least, the parts of a concatenation are as merging leaves them, and nothing is
capitalised twice in a row. A generator is *normal* if it is minimal and nothing in it is
capitalised at all.

`oneOf` and `join` make normal generators out of normal ones (`normal_oneOf`, `normal_join`), and
they make the plain node over the children of a normal node (`collapse_of_two_le`,
`join_of_merged`).
-/

namespace NamePattern.Generator

/-! ## Merged rows -/

def isLiteral : Generator → Bool
  | .literal _ => true
  | _ => false

theorem exists_literal_or_not_isLiteral (part : Generator) :
    (∃ text, part = literal text) ∨ part.isLiteral = false := by
  cases part with
  | literal text => exact .inl ⟨text, rfl⟩
  | choice options => exact .inr rfl
  | concatenation parts => exact .inr rfl
  | capitalize inner => exact .inr rfl

/-- What merging makes of a row of parts: no literal in it is empty and no two literals are
neighbours. -/
structure Merged (parts : List Generator) : Prop where
  filled : literal "" ∉ parts
  apart : parts.IsChain fun part next => (part.isLiteral && next.isLiteral) = false

instance (parts : List Generator) : Decidable (Merged parts) :=
  decidable_of_iff
    (literal "" ∉ parts ∧ parts.IsChain fun part next => (part.isLiteral && next.isLiteral) = false)
    ⟨fun both => ⟨both.1, both.2⟩, fun merged => ⟨merged.filled, merged.apart⟩⟩

theorem merged_nil : Merged [] := ⟨by simp, .nil⟩

/-- A part that is no literal may stand before any merged row. -/
theorem merged_cons_of_not_isLiteral {part : Generator} {rest : List Generator}
    (node : part.isLiteral = false) : Merged (part :: rest) ↔ Merged rest := by
  have different : literal "" ≠ part := by
    rintro rfl
    simp [isLiteral] at node
  constructor
  · rintro ⟨filled, apart⟩
    exact ⟨fun member => filled (List.mem_cons_of_mem part member), apart.tail⟩
  · rintro ⟨filled, apart⟩
    refine ⟨by simp [different, filled], apart.cons ?_⟩
    simp [node]

/-- A literal may stand before a merged row that does not begin with one, unless it is empty. -/
theorem merged_cons_literal {text : String} {rest : List Generator} :
    Merged (.literal text :: rest) ↔
      text ≠ "" ∧ (∀ next ∈ rest.head?, next.isLiteral = false) ∧ Merged rest := by
  constructor
  · rintro ⟨filled, apart⟩
    rw [List.isChain_cons] at apart
    refine ⟨?_, ?_, ?_⟩
    · rintro rfl
      exact filled List.mem_cons_self
    · simpa [isLiteral] using apart.1
    · exact ⟨fun member => filled (List.mem_cons_of_mem _ member), apart.2⟩
  · rintro ⟨filled, first, merged⟩
    refine ⟨by simp [Ne.symm filled, merged.filled], merged.apart.cons ?_⟩
    intro next head
    simp [first next head]

/-! ## What merging does -/

theorem mergeLiterals_cons_of_not_isLiteral {part : Generator} {rest : List Generator}
    (node : part.isLiteral = false) :
    mergeLiterals (part :: rest) = part :: mergeLiterals rest := by
  cases part with
  | literal text => simp [isLiteral] at node
  | choice options => rfl
  | concatenation parts => rfl
  | capitalize inner => rfl

theorem consText_literal (text next : String) (rest : List Generator) :
    consText text (.literal next :: rest) = .literal (text ++ next) :: rest := rfl

theorem consText_of_apart {text : String} {parts : List Generator} (filled : text ≠ "")
    (first : ∀ next ∈ parts.head?, next.isLiteral = false) :
    consText text parts = .literal text :: parts := by
  unfold consText
  split
  · next next rest =>
    have node : (literal next).isLiteral = false := first (.literal next) rfl
    simp [isLiteral] at node
  · simp [filled]

/-- What putting a text in front of merged parts comes to. -/
theorem consText_cases (text : String) (parts : List Generator) :
    (text = "" ∧ consText text parts = parts) ∨
    (text ≠ "" ∧ (∀ next ∈ parts.head?, next.isLiteral = false) ∧
      consText text parts = .literal text :: parts) ∨
    ∃ next rest, text ≠ "" ∧ parts = .literal next :: rest ∧
      consText text parts = .literal (text ++ next) :: rest := by
  by_cases blank : text = ""
  · subst blank
    exact .inl ⟨rfl, consText_empty parts⟩
  by_cases first : ∀ next ∈ parts.head?, next.isLiteral = false
  · exact .inr (.inl ⟨blank, first, consText_of_apart blank first⟩)
  · refine .inr (.inr ?_)
    cases parts with
    | nil => simp at first
    | cons next rest =>
      rcases exists_literal_or_not_isLiteral next with ⟨other, rfl⟩ | node
      · exact ⟨other, rest, blank, rfl, rfl⟩
      · simp [node] at first

/-- Two texts that are put in front one after the other are put in front as one text. -/
theorem consText_consText (first second : String) (parts : List Generator) :
    consText first (consText second parts) = consText (first ++ second) parts := by
  by_cases blank : first = ""
  · subst blank
    rw [consText_empty, String.empty_append]
  by_cases blank' : second = ""
  · subst blank'
    rw [consText_empty, String.append_empty]
  have filled : first ++ second ≠ "" := by
    rw [ne_eq, String.append_eq_empty_iff]
    exact fun both => blank both.1
  rcases consText_cases second parts with
    ⟨rfl, -⟩ | ⟨-, apart, longer⟩ | ⟨next, rest, -, rfl, joined⟩
  · exact absurd rfl blank'
  · rw [longer, consText_literal, consText_of_apart filled apart]
  · rw [joined, consText_literal, consText_literal, String.append_assoc]

/-- A text that is spelled out, one literal for each character, is merged as the text is. -/
theorem mergeLiterals_map_singleton_append (chars : List Char) (rest : List Generator) :
    mergeLiterals ((chars.map fun c => literal (String.singleton c)) ++ rest) =
      consText (String.ofList chars) (mergeLiterals rest) := by
  induction chars with
  | nil => exact (consText_empty _).symm
  | cons c chars ih =>
    have text : String.singleton c ++ String.ofList chars = String.ofList (c :: chars) := by
      rw [← String.toList_inj]
      simp
    rw [List.map_cons, List.cons_append, mergeLiterals_literal, ih, consText_consText, text]

theorem merged_consText {parts : List Generator} (merged : Merged parts) (text : String) :
    Merged (consText text parts) := by
  rcases consText_cases text parts with
    ⟨-, same⟩ | ⟨filled, first, longer⟩ | ⟨next, rest, filled, rfl, joined⟩
  · rwa [same]
  · rw [longer, merged_cons_literal]
    exact ⟨filled, first, merged⟩
  · rw [merged_cons_literal] at merged
    rw [joined, merged_cons_literal]
    refine ⟨?_, merged.2⟩
    rw [ne_eq, String.append_eq_empty_iff]
    exact fun both => filled both.1

theorem merged_mergeLiterals (parts : List Generator) : Merged (mergeLiterals parts) := by
  induction parts with
  | nil => exact merged_nil
  | cons part rest ih =>
    rcases exists_literal_or_not_isLiteral part with ⟨text, rfl⟩ | node
    · exact merged_consText ih text
    · rw [mergeLiterals_cons_of_not_isLiteral node, merged_cons_of_not_isLiteral node]
      exact ih

/-- Merging leaves alone what is merged. -/
theorem mergeLiterals_of_merged {parts : List Generator} (merged : Merged parts) :
    mergeLiterals parts = parts := by
  induction parts with
  | nil => rfl
  | cons part rest ih =>
    rcases exists_literal_or_not_isLiteral part with ⟨text, rfl⟩ | node
    · rw [merged_cons_literal] at merged
      obtain ⟨filled, first, merged⟩ := merged
      rw [mergeLiterals_literal, ih merged, consText_of_apart filled first]
    · rw [merged_cons_of_not_isLiteral node] at merged
      rw [mergeLiterals_cons_of_not_isLiteral node, ih merged]

/-- The parts that merging leaves are literals, or they were there before. -/
theorem mem_mergeLiterals {part : Generator} {parts : List Generator}
    (member : part ∈ mergeLiterals parts) : (∃ text, part = literal text) ∨ part ∈ parts := by
  induction parts with
  | nil => simp at member
  | cons first rest ih =>
    have later (among : part ∈ mergeLiterals rest) :
        (∃ text, part = literal text) ∨ part ∈ first :: rest :=
      (ih among).imp_right (List.mem_cons_of_mem first)
    rcases exists_literal_or_not_isLiteral first with ⟨text, rfl⟩ | node
    · rw [mergeLiterals_literal] at member
      rcases consText_cases text (mergeLiterals rest) with
        ⟨-, same⟩ | ⟨-, -, longer⟩ | ⟨next, behind, -, row, joined⟩
      · rw [same] at member
        exact later member
      · rw [longer, List.mem_cons] at member
        exact member.elim (fun same => .inl ⟨text, same⟩) later
      · rw [joined, List.mem_cons] at member
        refine member.elim (fun same => .inl ⟨_, same⟩) fun among => later ?_
        rw [row]
        exact List.mem_cons_of_mem _ among
    · rw [mergeLiterals_cons_of_not_isLiteral node, List.mem_cons] at member
      exact member.elim (fun same => .inr (by simp [same])) later

/-! ## Minimal and normal generators -/

def isCapitalize : Generator → Bool
  | .capitalize _ => true
  | _ => false

theorem capitalized_of_isCapitalize_eq_false {g : Generator} (other : g.isCapitalize = false) :
    g.capitalized = capitalize g := by
  cases g with
  | capitalize inner => simp [isCapitalize] at other
  | literal text => rfl
  | choice options => rfl
  | concatenation parts => rfl

/-- What capitalising comes to. -/
theorem capitalized_cases (g : Generator) :
    (g.isCapitalize = false ∧ g.capitalized = capitalize g) ∨
    ∃ inner, g = capitalize inner ∧ g.capitalized = capitalize inner := by
  cases kind : g.isCapitalize with
  | false => exact .inl ⟨rfl, capitalized_of_isCapitalize_eq_false kind⟩
  | true =>
    cases g with
    | capitalize inner => exact .inr ⟨inner, rfl, rfl⟩
    | literal text => simp [isCapitalize] at kind
    | choice options => simp [isCapitalize] at kind
    | concatenation parts => simp [isCapitalize] at kind

mutual
/-- Whether nothing in a generator could be left out. -/
def isMinimal : Generator → Bool
  | .literal _ => true
  | .choice options => decide (2 ≤ options.length) && allMinimal options
  | .concatenation parts => decide (2 ≤ parts.length) && decide (Merged parts) && allMinimal parts
  | .capitalize inner => !inner.isCapitalize && isMinimal inner
def allMinimal : List Generator → Bool
  | [] => true
  | g :: gs => isMinimal g && allMinimal gs
end

/-- Whether nothing in a generator is capitalised. -/
def capitalizeFree : Generator → Bool := fold {
  literal := fun _ => true
  choice := fun each => each.all id
  concatenation := fun each => each.all id
  capitalize := fun _ => false }

/-- Nothing in the generator could be left out, and nothing in it is capitalised. -/
structure Normal (g : Generator) : Prop where
  minimal : g.isMinimal = true
  capitalizeFree : g.capitalizeFree = true

theorem allMinimal_iff {gs : List Generator} :
    allMinimal gs = true ↔ ∀ g ∈ gs, g.isMinimal = true := by
  induction gs with
  | nil => simp [allMinimal]
  | cons g gs ih => simp [allMinimal, ih]

theorem isMinimal_literal (text : String) : (literal text).isMinimal = true := by
  simp [isMinimal]

theorem isMinimal_choice {options : List Generator} :
    (choice options).isMinimal = true ↔
      2 ≤ options.length ∧ ∀ option ∈ options, option.isMinimal = true := by
  simp [isMinimal, allMinimal_iff]

theorem isMinimal_concatenation {parts : List Generator} :
    (concatenation parts).isMinimal = true ↔
      2 ≤ parts.length ∧ Merged parts ∧ ∀ part ∈ parts, part.isMinimal = true := by
  simp [isMinimal, allMinimal_iff, and_assoc]

theorem isMinimal_capitalize {inner : Generator} :
    (capitalize inner).isMinimal = true ↔ inner.isCapitalize = false ∧ inner.isMinimal = true := by
  simp [isMinimal]

theorem normal_literal (text : String) : Normal (literal text) :=
  ⟨isMinimal_literal text, by simp [Generator.capitalizeFree]⟩

theorem normal_choice_iff {options : List Generator} :
    Normal (choice options) ↔ 2 ≤ options.length ∧ ∀ option ∈ options, Normal option := by
  have free : (choice options).capitalizeFree = true ↔
      ∀ option ∈ options, option.capitalizeFree = true := by
    simp [Generator.capitalizeFree]
  constructor
  · rintro ⟨minimal, free'⟩
    rw [isMinimal_choice] at minimal
    rw [free] at free'
    exact ⟨minimal.1, fun option member => ⟨minimal.2 option member, free' option member⟩⟩
  · rintro ⟨many, each⟩
    refine ⟨isMinimal_choice.mpr ⟨many, ?_⟩, free.mpr ?_⟩
    · exact fun option member => (each option member).minimal
    · exact fun option member => (each option member).capitalizeFree

theorem normal_concatenation_iff {parts : List Generator} :
    Normal (concatenation parts) ↔
      2 ≤ parts.length ∧ Merged parts ∧ ∀ part ∈ parts, Normal part := by
  have free : (concatenation parts).capitalizeFree = true ↔
      ∀ part ∈ parts, part.capitalizeFree = true := by
    simp [Generator.capitalizeFree]
  constructor
  · rintro ⟨minimal, free'⟩
    rw [isMinimal_concatenation] at minimal
    rw [free] at free'
    exact ⟨minimal.1, minimal.2.1, fun part member => ⟨minimal.2.2 part member, free' part member⟩⟩
  · rintro ⟨many, merged, each⟩
    refine ⟨isMinimal_concatenation.mpr ⟨many, merged, ?_⟩, free.mpr ?_⟩
    · exact fun part member => (each part member).minimal
    · exact fun part member => (each part member).capitalizeFree

theorem not_normal_capitalize (inner : Generator) : ¬ Normal (capitalize inner) := by
  rintro ⟨-, free⟩
  simp [Generator.capitalizeFree] at free

/-! ## Building keeps generators minimal and normal -/

/-- What is built from options is the empty literal, one of them, or a choice of two or more. -/
theorem oneOf_of_cases {P : Generator → Prop} {options : List Generator} (blank : P (literal ""))
    (each : ∀ option ∈ options, P option)
    (node : 2 ≤ options.length → P (choice options)) : P (oneOf options) := by
  match options with
  | [] => exact blank
  | [only] => exact each only (by simp)
  | first :: second :: rest => exact node (by simp)

/-- What is joined from parts is a literal, one of the parts, or a concatenation of merged parts. -/
theorem join_of_cases {P : Generator → Prop} {parts : List Generator}
    (text : ∀ text, P (literal text)) (each : ∀ part ∈ parts, P part)
    (node : ∀ row, 2 ≤ row.length → Merged row → (∀ part ∈ row, P part) → P (concatenation row)) :
    P (join parts) := by
  have merged := merged_mergeLiterals parts
  have kept : ∀ part ∈ mergeLiterals parts, P part := by
    intro part member
    rcases mem_mergeLiterals member with ⟨written, rfl⟩ | before
    · exact text written
    · exact each part before
  unfold join
  match mergeLiterals parts, merged, kept with
  | [], _, _ => exact text ""
  | [only], _, kept => exact kept only (by simp)
  | first :: second :: rest, merged, kept => exact node _ (by simp) merged kept

theorem normal_oneOf {options : List Generator} (each : ∀ option ∈ options, Normal option) :
    Normal (oneOf options) :=
  oneOf_of_cases (normal_literal "") each fun many => normal_choice_iff.mpr ⟨many, each⟩

theorem normal_join {parts : List Generator} (each : ∀ part ∈ parts, Normal part) :
    Normal (join parts) :=
  join_of_cases normal_literal each fun _ many merged normal =>
    normal_concatenation_iff.mpr ⟨many, merged, normal⟩

theorem isMinimal_oneOf {options : List Generator}
    (each : ∀ option ∈ options, option.isMinimal = true) : (oneOf options).isMinimal = true :=
  oneOf_of_cases (isMinimal_literal "") each fun many => isMinimal_choice.mpr ⟨many, each⟩

theorem isMinimal_join {parts : List Generator} (each : ∀ part ∈ parts, part.isMinimal = true) :
    (join parts).isMinimal = true :=
  join_of_cases isMinimal_literal each fun _ many merged minimal =>
    isMinimal_concatenation.mpr ⟨many, merged, minimal⟩

theorem isMinimal_capitalized {g : Generator} (minimal : g.isMinimal = true) :
    g.capitalized.isMinimal = true := by
  rcases capitalized_cases g with ⟨other, made⟩ | ⟨inner, rfl, same⟩
  · rw [made]
    exact isMinimal_capitalize.mpr ⟨other, minimal⟩
  · rwa [same]

/-! ## Building again what is there -/

theorem join_of_merged {parts : List Generator} (many : 2 ≤ parts.length) (merged : Merged parts) :
    join parts = concatenation parts := by
  rw [join, mergeLiterals_of_merged merged, collapse_of_two_le _ many]

theorem join_singleton (only : Generator) : join [only] = only := by
  rcases exists_literal_or_not_isLiteral only with ⟨text, rfl⟩ | node
  · by_cases blank : text = ""
    · subst blank
      rfl
    · have row : consText text [] = [literal text] := consText_of_apart blank (by simp)
      rw [join, mergeLiterals_literal, mergeLiterals_nil, row, collapse_singleton]
  · rw [join, mergeLiterals_cons_of_not_isLiteral node, mergeLiterals_nil, collapse_singleton]

/-- Literals of one character each are joined to one literal. -/
theorem join_map_singleton (chars : List Char) :
    join (chars.map fun c => literal (String.singleton c)) = literal (String.ofList chars) := by
  have merged := mergeLiterals_map_singleton_append chars []
  rw [List.append_nil, mergeLiterals_nil] at merged
  rw [join, merged]
  by_cases blank : chars = []
  · subst blank
    rfl
  · rw [consText_of_apart (by simpa using blank) (by simp), collapse_singleton]

end NamePattern.Generator
