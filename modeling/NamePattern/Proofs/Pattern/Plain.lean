import NamePattern.Proofs.Generator.Distribution
import NamePattern.Proofs.Pattern.Outcome

/-!
# The plain tree of a pattern

`Body.plain` reads the tree of a body off the grammar, every node as it is written: a choice among
the candidates of a character however many there are, a concatenation for each alternative and a
choice for each group. The tree that a pattern compiles to is smaller, and it comes to each text in
the same ways (`ways_compile`) and therefore with the same probability (`probability_compile`).
-/

namespace NamePattern

open Generator (choice concatenation oneOf join capitalized ways)

/-! ## Reading off the grammar -/

/-- The tree of a character, with a choice even where there is nothing to choose. -/
def plainChar (table : SymbolTable) : GroupKind → Char → Generator
  | .symbol, c => choice ((table.lookup c).map .literal)
  | .literal, c => .literal (String.singleton c)

mutual
def Piece.plain (table : SymbolTable) (kind : GroupKind) : Piece → Generator
  | .char c _ => plainChar table kind c
  | .group kind body => choice (body.plainAlternatives table kind)
def Alternative.plainPieces (table : SymbolTable) (kind : GroupKind) :
    Alternative → List Generator
  | .nil => []
  | .cons piece rest => piece.plain table kind :: rest.plainPieces table kind
def Body.plainAlternatives (table : SymbolTable) (kind : GroupKind) : Body → List Generator
  | .last alternative => [concatenation (alternative.plainPieces table kind)]
  | .bar alternative rest =>
      concatenation (alternative.plainPieces table kind) :: rest.plainAlternatives table kind
end

/-- The tree of a body, node by node. -/
def Body.plain (table : SymbolTable) (kind : GroupKind) (body : Body) : Generator :=
  choice (body.plainAlternatives table kind)

/-! ## The same ways -/

theorem ways_charPiece (table : SymbolTable) (kind : GroupKind) (c : Char) :
    (charPiece table kind c).ways = (plainChar table kind c).ways := by
  cases kind with
  | symbol =>
    show (oneOf ((table.lookup c).map Generator.literal)).ways = _
    rw [Generator.ways_oneOf]
    rfl
  | literal => rfl

theorem ways_join_congr {pieces plain : List Generator} (same : pieces.map ways = plain.map ways) :
    (join pieces).ways = (concatenation plain).ways := by
  rw [Generator.ways_join]
  exact Generator.ways_concatenation_congr same

theorem ways_oneOf_congr {options plain : List Generator}
    (same : options.map ways = plain.map ways) :
    (oneOf options).ways = (choice plain).ways := by
  rw [Generator.ways_oneOf]
  exact Generator.ways_choice_congr same

-- The induction goes through lists of ways, since a node of a tree depends on its children only
-- through these. A group changes the kind, so the kind is not fixed.
mutual
theorem Piece.ways_generator (table : SymbolTable) (kind : GroupKind) :
    ∀ piece : Piece, (piece.generator table kind).ways = (piece.plain table kind).ways
  | .char c _ => by
    show (charPiece table kind c).ways = (plainChar table kind c).ways
    exact ways_charPiece table kind c
  | .group inner body => by
    show (oneOf (body.alternatives table inner)).ways =
      (choice (body.plainAlternatives table inner)).ways
    exact ways_oneOf_congr (Body.ways_alternatives table inner body)
theorem Alternative.ways_pieces (table : SymbolTable) (kind : GroupKind) :
    ∀ alternative : Alternative,
      (alternative.pieces table kind).map ways = (alternative.plainPieces table kind).map ways
  | .nil => rfl
  | .cons piece rest => by
    have head := Piece.ways_generator table kind piece
    have tail := Alternative.ways_pieces table kind rest
    rw [Alternative.pieces, Alternative.plainPieces, List.map_cons, List.map_cons, head, tail]
theorem Body.ways_alternatives (table : SymbolTable) (kind : GroupKind) :
    ∀ body : Body,
      (body.alternatives table kind).map ways = (body.plainAlternatives table kind).map ways
  | .last alternative => by
    have only := ways_join_congr (Alternative.ways_pieces table kind alternative)
    rw [Body.alternatives, Body.plainAlternatives, List.map_singleton, List.map_singleton, only]
  | .bar alternative rest => by
    have first := ways_join_congr (Alternative.ways_pieces table kind alternative)
    have others := Body.ways_alternatives table kind rest
    rw [Body.alternatives, Body.plainAlternatives, List.map_cons, List.map_cons, first, others]
end

theorem Body.ways_generator (table : SymbolTable) (kind : GroupKind) (body : Body) :
    (body.generator table kind).ways = (body.plain table kind).ways :=
  ways_oneOf_congr (body.ways_alternatives table kind)

/-! ## Compiled patterns -/

/-- The plain tree of a body, with a node on top for the capitalising that is asked for. -/
def Body.plainCapitalized (table : SymbolTable) (capitalize : Bool) (body : Body) : Generator :=
  if capitalize then .capitalize (body.plain table .symbol) else body.plain table .symbol

/-- A pattern compiles to a tree that comes to its texts in the ways of the plain tree. -/
theorem ways_compile {table : SymbolTable} {pattern : String} {capitalize : Bool} {g : Generator}
    (compiled : compile table pattern capitalize = .ok g) :
    ∃ body : Body, body.text = pattern ∧ g.ways = (body.plainCapitalized table capitalize).ways := by
  obtain ⟨inner, meant, rfl⟩ := compile_eq_ok_iff.mp compiled
  obtain ⟨body, written, rfl⟩ := compileBody_eq_ok_iff.mp meant
  refine ⟨body, written, ?_⟩
  have same := body.ways_generator table .symbol
  cases capitalize with
  | false => exact same
  | true =>
    show (body.generator table .symbol).capitalized.ways =
      (Generator.capitalize (body.plain table .symbol)).ways
    rw [Generator.ways_capitalized, Generator.ways_capitalize, Generator.ways_capitalize, same]

/-- **Building smaller trees changes no probability.** A pattern that compiles is written from one
body only, and its tree gives each text with the probability with which the plain tree of that
body gives it, both capitalised or neither. -/
theorem probability_compile {table : SymbolTable} {pattern : String} {capitalize : Bool}
    {g : Generator} (compiled : compile table pattern capitalize = .ok g) :
    ∃ body : Body, body.text = pattern ∧
      (∀ other : Body, other.text = pattern → other = body) ∧
      ∀ text, g.probability text = (body.plainCapitalized table capitalize).probability text := by
  obtain ⟨body, written, same⟩ := ways_compile compiled
  refine ⟨body, written, ?_, ?_⟩
  · intro other also
    exact Body.text_injective (also.trans written.symm)
  · intro text
    rw [Generator.probability, Generator.probability, same]

/-- Here three nodes of the plain tree become one literal. -/
theorem probability_compile_ka :
    compile (SymbolTable.empty.insert 'v' ["a"]) "(k)v(x|)" true =
      .ok (.capitalize (.concatenation [.literal "ka", .choice [.literal "x", .literal ""]])) ∧
    ∃ body : Body, body.text = "(k)v(x|)" ∧
      (∀ other : Body, other.text = "(k)v(x|)" → other = body) ∧
      ∀ text,
        (Generator.capitalize
          (.concatenation [.literal "ka", .choice [.literal "x", .literal ""]])).probability text =
        (body.plainCapitalized (SymbolTable.empty.insert 'v' ["a"]) true).probability text := by
  have compiled : compile (SymbolTable.empty.insert 'v' ["a"]) "(k)v(x|)" true =
      .ok (.capitalize (.concatenation [.literal "ka", .choice [.literal "x", .literal ""]])) := by
    decide
  exact ⟨compiled, probability_compile compiled⟩

end NamePattern
