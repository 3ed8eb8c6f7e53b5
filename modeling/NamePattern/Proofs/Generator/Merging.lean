import NamePattern.Proofs.Generator.Minimal

/-!
# Merged rows as canonical forms

What counts of the literals in a row of parts is the characters that they come to between the other
parts: `spread` writes each literal as the row of its characters, one literal for each. Merging
keeps the spread row (`spread_mergeLiterals`) and depends on nothing else (`mergeLiterals_spread`),
so that of all rows with the same spread row there is one merged row (`eq_mergeLiterals_iff`).

Merging goes through a row from its end. Going from its beginning, with a merged row to which one
part after the other is appended (`appendPart`), comes to the same (`foldl_appendPart`): there the
last part of the merged row is what a literal may still be joined to.
-/

namespace NamePattern.Generator

/-! ## Spread rows -/

/-- A literal as the row of its characters; any other part as it is. -/
def spreadPart : Generator → List Generator
  | .literal text => text.toList.map fun c => .literal (String.singleton c)
  | part => [part]

/-- A row of parts in which each literal is spelled out, one literal for each of its characters. -/
def spread (parts : List Generator) : List Generator := parts.flatMap spreadPart

section Spread

variable {part : Generator}

theorem spreadPart_of_not_isLiteral (node : part.isLiteral = false) : spreadPart part = [part] := by
  cases part with
  | literal text => simp [isLiteral] at node
  | choice options => rfl
  | concatenation parts => rfl
  | capitalize inner => rfl

@[simp] theorem spread_nil : spread [] = [] := rfl

theorem spread_singleton (part : Generator) : spread [part] = spreadPart part :=
  List.flatMap_singleton spreadPart part

theorem spread_cons (part : Generator) (rest : List Generator) :
    spread (part :: rest) = spreadPart part ++ spread rest := List.flatMap_cons

theorem spread_append (front back : List Generator) :
    spread (front ++ back) = spread front ++ spread back := List.flatMap_append

theorem spreadPart_append (first second : String) :
    spreadPart (literal (first ++ second)) =
      spreadPart (literal first) ++ spreadPart (literal second) := by
  simp [spreadPart]

end Spread

/-! ## Merging and spreading -/

theorem spread_consText (text : String) (parts : List Generator) :
    spread (consText text parts) = spreadPart (literal text) ++ spread parts := by
  rcases consText_cases text parts with
    ⟨rfl, same⟩ | ⟨-, -, longer⟩ | ⟨next, rest, -, rfl, joined⟩
  · rw [same]
    rfl
  · rw [longer, spread_cons]
  · rw [joined, spread_cons, spread_cons, spreadPart_append, List.append_assoc]

/-- Merging moves characters from literal to literal, and that is all. -/
theorem spread_mergeLiterals (parts : List Generator) :
    spread (mergeLiterals parts) = spread parts := by
  induction parts with
  | nil => rfl
  | cons part rest ih =>
    rcases exists_literal_or_not_isLiteral part with ⟨text, rfl⟩ | node
    · rw [mergeLiterals_literal, spread_consText, ih, spread_cons]
    · rw [mergeLiterals_cons_of_not_isLiteral node, spread_cons, spread_cons, ih]

/-- Merging sees of a row no more than what it is spread out to. -/
theorem mergeLiterals_spread (parts : List Generator) :
    mergeLiterals (spread parts) = mergeLiterals parts := by
  induction parts with
  | nil => rfl
  | cons part rest ih =>
    rw [spread_cons]
    rcases exists_literal_or_not_isLiteral part with ⟨text, rfl⟩ | node
    · show mergeLiterals ((text.toList.map fun c => literal (String.singleton c)) ++ _) = _
      rw [mergeLiterals_map_singleton_append, String.ofList_toList, ih, mergeLiterals_literal]
    · rw [spreadPart_of_not_isLiteral node, List.singleton_append,
        mergeLiterals_cons_of_not_isLiteral node, mergeLiterals_cons_of_not_isLiteral node, ih]

theorem mergeLiterals_eq_iff {parts others : List Generator} :
    mergeLiterals parts = mergeLiterals others ↔ spread parts = spread others := by
  constructor
  · intro same
    rw [← spread_mergeLiterals parts, same, spread_mergeLiterals]
  · intro same
    rw [← mergeLiterals_spread parts, same, mergeLiterals_spread]

/-- Among the rows that are spread out to the same there is one merged row. -/
theorem eq_mergeLiterals_iff {row parts : List Generator} :
    row = mergeLiterals parts ↔ Merged row ∧ spread row = spread parts := by
  constructor
  · rintro rfl
    exact ⟨merged_mergeLiterals parts, spread_mergeLiterals parts⟩
  · rintro ⟨merged, same⟩
    rw [← mergeLiterals_eq_iff.mpr same, mergeLiterals_of_merged merged]

theorem mergeLiterals_append (front back : List Generator) :
    mergeLiterals (front ++ back) = mergeLiterals (mergeLiterals front ++ mergeLiterals back) := by
  rw [mergeLiterals_eq_iff, spread_append, spread_append, spread_mergeLiterals,
    spread_mergeLiterals]

/-! ## Lengths -/

theorem length_consText_le (text : String) (parts : List Generator) :
    (consText text parts).length ≤ parts.length + 1 := by
  rcases consText_cases text parts with
    ⟨-, same⟩ | ⟨-, -, longer⟩ | ⟨next, rest, -, rfl, joined⟩
  · rw [same]
    exact Nat.le_succ _
  · rw [longer, List.length_cons]
  · rw [joined, List.length_cons, List.length_cons]
    exact Nat.le_succ _

theorem length_mergeLiterals_le (parts : List Generator) :
    (mergeLiterals parts).length ≤ parts.length := by
  induction parts with
  | nil => exact Nat.le_refl 0
  | cons part rest ih =>
    rw [List.length_cons]
    rcases exists_literal_or_not_isLiteral part with ⟨text, rfl⟩ | node
    · rw [mergeLiterals_literal]
      exact Nat.le_trans (length_consText_le text _) (Nat.succ_le_succ ih)
    · rw [mergeLiterals_cons_of_not_isLiteral node, List.length_cons]
      exact Nat.succ_le_succ ih

/-! ## From the beginning of a row -/

/-- Puts one more part behind a merged row: a literal is joined to a literal that comes last, and an
empty one is dropped. -/
def appendPart (row : List Generator) : Generator → List Generator
  | .literal text =>
      if text = "" then row
      else match row.getLast? with
        | some (.literal last) => row.dropLast ++ [.literal (last ++ text)]
        | _ => row ++ [.literal text]
  | part => row ++ [part]

/-- What putting a part behind a row comes to. -/
theorem appendPart_cases (row : List Generator) (part : Generator) :
    (part.isLiteral = false ∧ appendPart row part = row ++ [part]) ∨
    (part = literal "" ∧ appendPart row part = row) ∨
    (∃ text, part = literal text ∧ text ≠ "" ∧ (∀ last ∈ row.getLast?, last.isLiteral = false) ∧
      appendPart row part = row ++ [literal text]) ∨
    ∃ text front last, part = literal text ∧ text ≠ "" ∧ row = front ++ [literal last] ∧
      appendPart row part = front ++ [literal (last ++ text)] := by
  rcases exists_literal_or_not_isLiteral part with ⟨text, rfl⟩ | node
  · by_cases blank : text = ""
    · subst blank
      exact .inr (.inl ⟨rfl, rfl⟩)
    refine .inr (.inr ?_)
    unfold appendPart
    simp only [if_neg blank]
    rcases List.eq_nil_or_concat row with rfl | ⟨front, last, rfl⟩
    · exact .inl ⟨text, rfl, blank, by simp, rfl⟩
    · rw [List.concat_eq_append, List.getLast?_concat, List.dropLast_concat]
      rcases exists_literal_or_not_isLiteral last with ⟨before, rfl⟩ | node
      · exact .inr ⟨text, front, before, rfl, blank, rfl, rfl⟩
      · refine .inl ⟨text, rfl, blank, by simpa using node, ?_⟩
        cases last with
        | literal before => simp [isLiteral] at node
        | choice options => rfl
        | concatenation parts => rfl
        | capitalize inner => rfl
  · refine .inl ⟨node, ?_⟩
    cases part with
    | literal text => simp [isLiteral] at node
    | choice options => rfl
    | concatenation parts => rfl
    | capitalize inner => rfl

theorem spread_appendPart (row : List Generator) (part : Generator) :
    spread (appendPart row part) = spread row ++ spreadPart part := by
  rcases appendPart_cases row part with
    ⟨-, longer⟩ | ⟨rfl, same⟩ | ⟨text, rfl, -, -, longer⟩ | ⟨text, front, last, rfl, -, rfl, joined⟩
  · rw [longer, spread_append, spread_singleton]
  · rw [same]
    exact (List.append_nil _).symm
  · rw [longer, spread_append, spread_singleton]
  · rw [joined, spread_append, spread_append, spread_singleton, spread_singleton,
      spreadPart_append, List.append_assoc]

theorem merged_appendPart {row : List Generator} (merged : Merged row) (part : Generator) :
    Merged (appendPart row part) := by
  obtain ⟨filled, apart⟩ := merged
  rcases appendPart_cases row part with
    ⟨node, longer⟩ | ⟨-, same⟩ | ⟨text, rfl, text_filled, node, longer⟩ |
    ⟨text, front, last, rfl, text_filled, rfl, joined⟩
  · have different : literal "" ≠ part := by
      rintro rfl
      simp [isLiteral] at node
    rw [longer]
    refine ⟨by simp [filled, different], apart.append (.singleton part) ?_⟩
    simp [node]
  · rw [same]
    exact ⟨filled, apart⟩
  · rw [longer]
    refine ⟨by simp [filled, Ne.symm text_filled], apart.append (.singleton _) ?_⟩
    intro last member
    simp [node last member]
  · -- the longer literal has the neighbour that the last literal had
    rw [joined]
    rw [List.isChain_append] at apart
    obtain ⟨front_apart, -, seam⟩ := apart
    have longer_filled : "" ≠ last ++ text := by
      intro blank
      exact text_filled (String.append_eq_empty_iff.mp blank.symm).2
    refine ⟨?_, front_apart.append (.singleton _) ?_⟩
    · simp only [List.mem_append, List.mem_singleton, not_or] at filled ⊢
      exact ⟨filled.1, by simpa using longer_filled⟩
    · simpa [isLiteral] using seam

/-- Appending the parts of a row one by one merges them. -/
theorem foldl_appendPart (parts : List Generator) :
    parts.foldl appendPart [] = mergeLiterals parts := by
  -- the row so far is merged, and it is spread out to the parts that are in it
  have invariant (row : List Generator) (merged : Merged row) :
      Merged (parts.foldl appendPart row) ∧
        spread (parts.foldl appendPart row) = spread row ++ spread parts := by
    induction parts generalizing row with
    | nil => exact ⟨merged, (List.append_nil _).symm⟩
    | cons part rest ih =>
      have later := ih (appendPart row part) (merged_appendPart merged part)
      rw [spread_appendPart, List.append_assoc, ← spread_cons] at later
      exact later
  exact eq_mergeLiterals_iff.mpr (invariant [] merged_nil)

/-- **Merging computes a canonical form.** Two rows of parts are merged to the same row exactly if
they are the same when their literals are spelled out. The merged row is spelled out as the row
itself; it has no empty literal and no two literals side by side, and it is the only row of this
kind that is spelled out so. To merge again changes nothing, the parts of a row can be merged
beforehand, and a merged row is no longer than the row. It is also what comes out when the parts are
appended one by one, with a literal joined to a literal that comes last. -/
theorem mergeLiterals_canonical (parts others : List Generator) :
    (mergeLiterals parts = mergeLiterals others ↔ spread parts = spread others) ∧
    spread (mergeLiterals parts) = spread parts ∧
    (∀ row, row = mergeLiterals parts ↔ Merged row ∧ spread row = spread parts) ∧
    mergeLiterals (mergeLiterals parts) = mergeLiterals parts ∧
    mergeLiterals (parts ++ others) =
      mergeLiterals (mergeLiterals parts ++ mergeLiterals others) ∧
    (mergeLiterals parts).length ≤ parts.length ∧
    parts.foldl appendPart [] = mergeLiterals parts := by
  have again := mergeLiterals_of_merged (merged_mergeLiterals parts)
  exact ⟨mergeLiterals_eq_iff, spread_mergeLiterals parts, fun _ => eq_mergeLiterals_iff, again,
    mergeLiterals_append parts others, length_mergeLiterals_le parts, foldl_appendPart parts⟩

/-- Literals on both sides of an empty one are joined, also across the seam of two rows; a part that
is no literal keeps its neighbours apart. -/
example :
    mergeLiterals ([literal "k", literal ""] ++ [literal "a", choice [], literal "", literal "r"]) =
      [literal "ka", choice [], literal "r"] := by
  decide

end NamePattern.Generator
