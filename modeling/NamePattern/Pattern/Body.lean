import NamePattern.Pattern.Compile

/-!
# The grammar of patterns

A body is one alternative or several with bars between them, an alternative is a row of pieces,
and a piece is an ordinary character or a group around a body. `Body.text` writes a body down and
`Body.generator` says what it means.
-/

namespace NamePattern

open Generator (oneOf join)

mutual
/-- A part of an alternative. -/
inductive Piece where
  /-- A character that the grammar does not reserve. -/
  | char (c : Char) (ordinary : isReserved c = false)
  /-- A body between the brackets of a kind. -/
  | group (kind : GroupKind) (body : Body)
/-- A row of pieces. -/
inductive Alternative where
  | nil
  | cons (piece : Piece) (rest : Alternative)
/-- One alternative or more. -/
inductive Body where
  | last (alternative : Alternative)
  | bar (alternative : Alternative) (rest : Body)
end

/-! ## Writing -/

mutual
def Piece.chars : Piece → List Char
  | .char c _ => [c]
  | .group kind body => kind.opener :: (body.chars ++ [kind.closer])
def Alternative.chars : Alternative → List Char
  | .nil => []
  | .cons piece rest => piece.chars ++ rest.chars
def Body.chars : Body → List Char
  | .last alternative => alternative.chars
  | .bar alternative rest => alternative.chars ++ '|' :: rest.chars
end

/-- The pattern that a body is written as. -/
def Body.text (body : Body) : String := String.ofList body.chars

/-! ## Meaning -/

mutual
/-- What a piece gives in a group of a kind; a group has a kind of its own. -/
def Piece.generator (table : SymbolTable) (kind : GroupKind) : Piece → Generator
  | .char c _ => charPiece table kind c
  | .group kind body => oneOf (body.alternatives table kind)
/-- What the pieces of an alternative give. -/
def Alternative.pieces (table : SymbolTable) (kind : GroupKind) : Alternative → List Generator
  | .nil => []
  | .cons piece rest => piece.generator table kind :: rest.pieces table kind
/-- What each alternative of a body gives. -/
def Body.alternatives (table : SymbolTable) (kind : GroupKind) : Body → List Generator
  | .last alternative => [join (alternative.pieces table kind)]
  | .bar alternative rest =>
      join (alternative.pieces table kind) :: rest.alternatives table kind
end

/-- What a body gives: a choice among its alternatives. -/
def Body.generator (table : SymbolTable) (kind : GroupKind) (body : Body) : Generator :=
  oneOf (body.alternatives table kind)

end NamePattern
