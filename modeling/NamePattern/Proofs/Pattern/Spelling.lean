import NamePattern.Proofs.Generator.Minimal
import NamePattern.Proofs.Pattern.Outcome

/-!
# Which generators patterns compile to

Every pattern compiles to a normal generator (`Body.normal_generator`), and every normal generator
comes from a pattern: `Generator.spell` writes a generator down as a group that means it
(`generator_spell`). Each node becomes a literal group, so that no two nodes run into each other.
In a literal text a mark cannot be written as itself; there it is written as a symbol that stands
for it, if the symbol table has one.
-/

namespace NamePattern

open Generator (oneOf join capitalized Normal normal_literal normal_oneOf normal_join)

/-! ## Patterns compile to normal generators -/

theorem normal_charPiece (table : SymbolTable) (kind : GroupKind) (c : Char) :
    (charPiece table kind c).Normal := by
  cases kind with
  | symbol =>
    refine normal_oneOf fun option member => ?_
    obtain ⟨text, -, rfl⟩ := List.mem_map.mp member
    exact normal_literal text
  | literal => exact normal_literal _

mutual
theorem Piece.normal_generator (table : SymbolTable) (kind : GroupKind) :
    ∀ piece : Piece, (piece.generator table kind).Normal
  | .char c _ => normal_charPiece table kind c
  | .group inner body => normal_oneOf (Body.normal_alternatives table inner body)
theorem Alternative.normal_pieces (table : SymbolTable) (kind : GroupKind) :
    ∀ alternative : Alternative, ∀ piece ∈ alternative.pieces table kind, piece.Normal
  | .nil => by simp [Alternative.pieces]
  | .cons piece rest => by
    have first := Piece.normal_generator table kind piece
    have later := Alternative.normal_pieces table kind rest
    rw [Alternative.pieces, List.forall_mem_cons]
    exact ⟨first, later⟩
theorem Body.normal_alternatives (table : SymbolTable) (kind : GroupKind) :
    ∀ body : Body, ∀ option ∈ body.alternatives table kind, option.Normal
  | .last alternative => by
    have only := normal_join (Alternative.normal_pieces table kind alternative)
    simpa [Body.alternatives] using only
  | .bar alternative rest => by
    have first := normal_join (Alternative.normal_pieces table kind alternative)
    have later := Body.normal_alternatives table kind rest
    rw [Body.alternatives, List.forall_mem_cons]
    exact ⟨first, later⟩
end

theorem Body.normal_generator (table : SymbolTable) (kind : GroupKind) (body : Body) :
    (body.generator table kind).Normal :=
  normal_oneOf (body.normal_alternatives table kind)

theorem normal_of_compile {table : SymbolTable} {pattern : String} {g : Generator}
    (compiled : compile table pattern false = .ok g) : g.Normal := by
  rw [compile_false, compileBody_eq_ok_iff] at compiled
  obtain ⟨body, -, rfl⟩ := compiled
  exact body.normal_generator table .symbol

/-- A pattern compiled to be capitalised gives its generator under one more node. -/
theorem compile_true (table : SymbolTable) (pattern : String) :
    compile table pattern true = (compile table pattern false).map Generator.capitalize := by
  cases compiled : compile table pattern false with
  | error error =>
    rw [compile_eq_error_iff] at compiled
    rw [compile_eq_error_iff.mpr compiled]
    rfl
  | ok g =>
    have normal := normal_of_compile compiled
    rw [compile_false] at compiled
    have under : g.capitalized = .capitalize g := by
      rcases Generator.capitalized_cases g with ⟨-, made⟩ | ⟨inner, rfl, -⟩
      · exact made
      · exact absurd normal (Generator.not_normal_capitalize inner)
    simp [compile_eq, compiled, Except.map, under]

/-! ## Rows of pieces and of alternatives -/

def Alternative.ofList : List Piece → Alternative
  | [] => .nil
  | piece :: rest => .cons piece (ofList rest)

def Alternative.single (piece : Piece) : Alternative := .cons piece .nil

/-- The body with these alternatives; without any, a body of one empty alternative. -/
def Body.ofList : List Alternative → Body
  | [] => .blank
  | [only] => .last only
  | alternative :: next :: rest => .bar alternative (ofList (next :: rest))

theorem Alternative.pieces_ofList (table : SymbolTable) (kind : GroupKind) (pieces : List Piece) :
    (Alternative.ofList pieces).pieces table kind = pieces.map (·.generator table kind) := by
  induction pieces with
  | nil => rfl
  | cons piece rest ih => rw [ofList, Alternative.pieces, ih, List.map_cons]

theorem Body.alternatives_ofList (table : SymbolTable) (kind : GroupKind)
    {alternatives : List Alternative} (filled : alternatives ≠ []) :
    (Body.ofList alternatives).alternatives table kind =
      alternatives.map fun alternative => join (alternative.pieces table kind) := by
  induction alternatives with
  | nil => exact absurd rfl filled
  | cons alternative rest ih =>
    cases rest with
    | nil => rfl
    | cons next rest => rw [ofList, Body.alternatives, ih (by simp)]; rfl

/-! ## Marks in literal texts -/

/-- The letter that is written where a literal text has a mark. -/
def Mark.letter : Mark → Char
  | .opens .symbol => 'a'
  | .closes .symbol => 'b'
  | .opens .literal => 'c'
  | .closes .literal => 'd'
  | .bar => 'e'

theorem Mark.isReserved_letter (mark : Mark) : isReserved mark.letter = false := by
  rcases mark with (_ | _) | (_ | _) | _ <;> decide

/-- Every mark. -/
def Mark.all : List Mark :=
  [.opens .symbol, .closes .symbol, .opens .literal, .closes .literal, .bar]

/-- The symbol table in which the letter of each mark stands for the mark, and no other symbol is
registered. -/
def markTable : SymbolTable :=
  .ofList (Mark.all.map fun mark => (mark.letter, [String.singleton mark.char]))

theorem candidates?_markTable_letter (mark : Mark) :
    markTable.candidates? mark.letter = some [String.singleton mark.char] := by
  rcases mark with (_ | _) | (_ | _) | _ <;> decide

/-- The symbols of the table of marks are the letters of the marks. -/
theorem exists_mark_of_candidates?_markTable {symbol : Char} {candidates : List String}
    (registered : markTable.candidates? symbol = some candidates) :
    ∃ mark : Mark, symbol = mark.letter ∧ candidates = [String.singleton mark.char] := by
  obtain ⟨mark, -, same⟩ :=
    List.mem_map.mp (SymbolTable.mem_of_candidates?_ofList registered)
  rw [Prod.mk.injEq] at same
  exact ⟨mark, same.1.symm, same.2.symm⟩

/-! ## Spelling a generator -/

/-- A character of a literal text: itself if it is ordinary, and else, in a symbol group, the
letter of the mark that it is. -/
def spellChar (c : Char) : Piece :=
  match found : Mark.ofChar? c with
  | none => .char c (ofChar?_eq_none_iff.mp found)
  | some mark => .group .symbol (.last (.single (.char mark.letter mark.isReserved_letter)))

/-- A group that means a generator. -/
def Generator.spell : Generator → Piece := fold {
  literal := fun text => .group .literal (.last (.ofList (text.toList.map spellChar)))
  choice := fun options => .group .literal (.ofList (options.map .single))
  concatenation := fun parts => .group .literal (.last (.ofList parts))
  capitalize := id }

/-- A symbol table lets a character be written in literal texts if it is ordinary or if the
letter of its mark stands for it. -/
def CanSpell (table : SymbolTable) (c : Char) : Prop :=
  ∀ mark, Mark.ofChar? c = some mark → table.lookup mark.letter = [String.singleton c]

theorem canSpell_of_not_isReserved (table : SymbolTable) {c : Char}
    (ordinary : isReserved c = false) : CanSpell table c := by
  intro mark found
  rw [← ofChar?_eq_none_iff, found] at ordinary
  simp at ordinary

theorem canSpell_markTable (c : Char) : CanSpell markTable c := by
  intro mark found
  rw [SymbolTable.lookup_of_candidates? (candidates?_markTable_letter mark),
    Mark.char_of_ofChar? found]

theorem generator_spellChar {table : SymbolTable} {c : Char} (can : CanSpell table c) :
    (spellChar c).generator table .literal = .literal (String.singleton c) := by
  unfold spellChar
  split
  · rfl
  · next mark found =>
    have stands := can mark found
    simp [Piece.generator, Body.alternatives, Alternative.single, Alternative.pieces, charPiece,
      stands, Generator.join_singleton]

namespace Generator

/-- The literal texts of a generator. -/
def literals : Generator → List String := fold {
  literal := fun text => [text]
  choice := List.flatten
  concatenation := List.flatten
  capitalize := id }

@[simp] theorem literals_literal (text : String) : (literal text).literals = [text] := by
  simp [literals]

theorem mem_literals_choice {options : List Generator} {text : String} :
    text ∈ (choice options).literals ↔ ∃ option ∈ options, text ∈ option.literals := by
  simp [literals]

theorem mem_literals_concatenation {parts : List Generator} {text : String} :
    text ∈ (concatenation parts).literals ↔ ∃ part ∈ parts, text ∈ part.literals := by
  simp [literals]

section Equations

variable (table : SymbolTable) (kind : GroupKind)

@[simp] theorem spell_literal (text : String) : (literal text).spell =
    .group .literal (.last (.ofList (text.toList.map spellChar))) := by
  simp [spell]

@[simp] theorem spell_choice (options : List Generator) : (choice options).spell =
    .group .literal (.ofList ((options.map spell).map .single)) := by
  simp [spell]

@[simp] theorem spell_concatenation (parts : List Generator) : (concatenation parts).spell =
    .group .literal (.last (.ofList (parts.map spell))) := by
  simp [spell]

theorem generator_spell_literal (text : String) :
    (literal text).spell.generator table kind =
      join (text.toList.map fun c => (spellChar c).generator table .literal) := by
  simp [Piece.generator, Body.alternatives, Alternative.pieces_ofList, Function.comp_def]

theorem generator_spell_choice {options : List Generator} (filled : options ≠ []) :
    (choice options).spell.generator table kind =
      oneOf (options.map fun option => option.spell.generator table .literal) := by
  have rows : (options.map spell).map Alternative.single ≠ [] := by simpa using filled
  rw [spell_choice, Piece.generator, Body.alternatives_ofList table .literal rows]
  simp [Alternative.single, Alternative.pieces, join_singleton, Function.comp_def]

theorem generator_spell_concatenation (parts : List Generator) :
    (concatenation parts).spell.generator table kind =
      join (parts.map fun part => part.spell.generator table .literal) := by
  simp [Piece.generator, Body.alternatives, Alternative.pieces_ofList, Function.comp_def]

end Equations

/-- A normal generator is what its spelling means, if the characters of its texts can be spelled. -/
theorem generator_spell {table : SymbolTable} {g : Generator} (normal : g.Normal)
    (can : ∀ text ∈ g.literals, ∀ c ∈ text.toList, CanSpell table c) (kind : GroupKind) :
    g.spell.generator table kind = g := by
  induction g generalizing kind with
  | literal text =>
    have each : (text.toList.map fun c => (spellChar c).generator table .literal) =
        text.toList.map fun c => literal (String.singleton c) := by
      refine List.map_congr_left fun c member => ?_
      exact generator_spellChar (can text (by simp) c member)
    rw [generator_spell_literal, each, join_map_singleton, String.ofList_toList]
  | choice options ih =>
    obtain ⟨many, normal⟩ := normal_choice_iff.mp normal
    have each : (options.map fun option => option.spell.generator table .literal) = options := by
      refine (List.map_congr_left fun option member => ?_).trans (List.map_id options)
      refine ih option member (normal option member) ?_ .literal
      exact fun text among => can text (mem_literals_choice.mpr ⟨option, member, among⟩)
    have filled : options ≠ [] := by
      rintro rfl
      simp at many
    rw [generator_spell_choice table kind filled, each, oneOf, collapse_of_two_le _ many]
  | concatenation parts ih =>
    obtain ⟨many, merged, normal⟩ := normal_concatenation_iff.mp normal
    have each : (parts.map fun part => part.spell.generator table .literal) = parts := by
      refine (List.map_congr_left fun part member => ?_).trans (List.map_id parts)
      refine ih part member (normal part member) ?_ .literal
      exact fun text among => can text (mem_literals_concatenation.mpr ⟨part, member, among⟩)
    rw [generator_spell_concatenation, each, join_of_merged many merged]
  | capitalize inner => exact absurd normal (not_normal_capitalize inner)

/-- A pattern that compiles to a generator. -/
def spelling (g : Generator) : String := (Body.last (.single g.spell)).text

theorem compile_spelling {table : SymbolTable} {g : Generator} (normal : g.Normal)
    (can : ∀ text ∈ g.literals, ∀ c ∈ text.toList, CanSpell table c) :
    compile table g.spelling false = .ok g := by
  rw [compile_false, spelling, compileBody_text]
  simp [Body.generator, Body.alternatives, Alternative.single, Alternative.pieces,
    generator_spell normal can, join_singleton]

example : (choice [literal "k<", literal ""]).spelling = "((k<a>)|())" := by decide

end Generator

/-! ## All normal generators, and no others -/

/-- **Patterns compile to the normal generators.** The generators that patterns compile to are the
normal ones, and capitalising puts one node on top. Five symbols, each for one reserved character,
are enough: under a table with no others each normal generator comes from its spelling. And a
normal generator without reserved characters in its texts comes from its spelling under every
table. -/
theorem compile_normal :
    (∀ g, (∃ table pattern, compile table pattern false = .ok g) ↔ g.Normal) ∧
    (∀ table pattern,
      compile table pattern true = (compile table pattern false).map Generator.capitalize) ∧
    (markTable.size = 5 ∧
      (∀ symbol candidates, markTable.candidates? symbol = some candidates →
        isReserved symbol = false ∧
        ∃ reserved, isReserved reserved = true ∧ candidates = [String.singleton reserved]) ∧
      ∀ g : Generator, g.Normal → compile markTable g.spelling false = .ok g) ∧
    ∀ g : Generator, g.Normal →
      (∀ text ∈ g.literals, ∀ c ∈ text.toList, isReserved c = false) →
        ∀ table, compile table g.spelling false = .ok g := by
  have spelled : ∀ g : Generator, g.Normal → compile markTable g.spelling false = .ok g := by
    intro g normal
    exact Generator.compile_spelling normal fun _ _ c _ => canSpell_markTable c
  refine ⟨?_, compile_true, ⟨by decide, ?_, spelled⟩, ?_⟩
  · intro g
    constructor
    · rintro ⟨table, pattern, compiled⟩
      exact normal_of_compile compiled
    · intro normal
      exact ⟨markTable, g.spelling, spelled g normal⟩
  · intro symbol candidates registered
    obtain ⟨mark, rfl, rfl⟩ := exists_mark_of_candidates?_markTable registered
    exact ⟨mark.isReserved_letter, mark.char, isReserved_char mark, rfl⟩
  · intro g normal ordinary table
    refine Generator.compile_spelling normal fun text among c member => ?_
    exact canSpell_of_not_isReserved table (ordinary text among c member)

/-- A concatenation inside another, an empty alternative and marks in a text come back as they
are, and a generator without marks does so under every table. -/
theorem compile_normal_nested :
    (Generator.concatenation [.literal "k<|", .concatenation [.choice [.literal "a", .literal ""],
      .literal ")"]]).Normal ∧
    compile markTable (Generator.concatenation [.literal "k<|", .concatenation [.choice
      [.literal "a", .literal ""], .literal ")"]]).spelling false =
        .ok (.concatenation [.literal "k<|", .concatenation [.choice
          [.literal "a", .literal ""], .literal ")"]]) ∧
    (Generator.choice [.literal "a", .literal ""]).Normal ∧
    ∀ table, compile table (Generator.choice [.literal "a", .literal ""]).spelling false =
      .ok (.choice [.literal "a", .literal ""]) := by
  have nested : (Generator.concatenation [.literal "k<|", .concatenation [.choice
      [.literal "a", .literal ""], .literal ")"]]).Normal := ⟨by decide, by decide⟩
  have plain : (Generator.choice [.literal "a", .literal ""]).Normal := ⟨by decide, by decide⟩
  have ordinary : ∀ text ∈ (Generator.choice [.literal "a", .literal ""]).literals,
      ∀ c ∈ text.toList, isReserved c = false := by
    intro text among c member
    have listed : text = "a" ∨ text = "" := by
      simpa [Generator.mem_literals_choice] using among
    rcases listed with rfl | rfl
    · obtain rfl : c = 'a' := by simpa using member
      decide
    · cases member
  refine ⟨nested, compile_normal.2.2.1.2.2 _ nested, plain, ?_⟩
  exact compile_normal.2.2.2 _ plain ordinary

end NamePattern
