/-!
# Marks of the pattern grammar

A pattern is read one character at a time. Five characters are *marks*: the openers and closers
of the two kinds of group, and the bar between alternatives. Every other character is ordinary.
A mark and its character determine each other (`Mark.ofChar?_eq_some_iff`). The reserved characters
are listed apart, and they are the marks (`isReserved_eq_isSome`).
-/

namespace NamePattern

/-- The two kinds of group. In a symbol group, as at the top level of a pattern, an ordinary
character stands for the candidates that a symbol table lists for it; in a literal group it
stands for itself. -/
inductive GroupKind where
  | symbol
  | literal
  deriving DecidableEq, Repr

namespace GroupKind

/-- The bracket that opens a group of this kind. -/
def opener : GroupKind → Char
  | .symbol => '<'
  | .literal => '('

/-- The bracket that closes a group of this kind. -/
def closer : GroupKind → Char
  | .symbol => '>'
  | .literal => ')'

end GroupKind

/-- The characters that the grammar reserves, by what they do. -/
inductive Mark where
  | opens (kind : GroupKind)
  | closes (kind : GroupKind)
  | bar
  deriving DecidableEq, Repr

namespace Mark

def char : Mark → Char
  | .opens kind => kind.opener
  | .closes kind => kind.closer
  | .bar => '|'

/-- The mark that a character is, if it is one. -/
def ofChar? : Char → Option Mark
  | '<' => some (.opens .symbol)
  | '(' => some (.opens .literal)
  | '>' => some (.closes .symbol)
  | ')' => some (.closes .literal)
  | '|' => some .bar
  | _ => none

@[simp] theorem ofChar?_char (mark : Mark) : ofChar? mark.char = some mark := by
  rcases mark with (_ | _) | (_ | _) | _ <;> rfl

theorem char_of_ofChar? {c : Char} {mark : Mark} (found : ofChar? c = some mark) :
    mark.char = c := by
  unfold ofChar? at found
  split at found <;> simp_all <;> subst found <;> rfl

/-- A character is a mark exactly when it is what the mark is written with. -/
theorem ofChar?_eq_some_iff {c : Char} {mark : Mark} :
    ofChar? c = some mark ↔ c = mark.char :=
  ⟨fun found => (char_of_ofChar? found).symm, fun written => written ▸ ofChar?_char mark⟩

@[simp] theorem ofChar?_opener (kind : GroupKind) :
    ofChar? kind.opener = some (.opens kind) := ofChar?_char (.opens kind)

@[simp] theorem ofChar?_closer (kind : GroupKind) :
    ofChar? kind.closer = some (.closes kind) := ofChar?_char (.closes kind)

@[simp] theorem ofChar?_bar : ofChar? '|' = some .bar := rfl

end Mark

/-! ## Reserved characters -/

/-- The characters that can be no symbols. -/
def reservedSymbols : List Char := ['<', '>', '(', ')', '|']

def isReserved (c : Char) : Bool := reservedSymbols.contains c

theorem isReserved_iff {c : Char} :
    isReserved c = true ↔ c = '<' ∨ c = '>' ∨ c = '(' ∨ c = ')' ∨ c = '|' := by
  simp [isReserved, reservedSymbols]

/-- A character is reserved exactly if the grammar gives it a meaning. -/
theorem isReserved_eq_isSome (c : Char) : isReserved c = (Mark.ofChar? c).isSome := by
  rw [Bool.eq_iff_iff, isReserved_iff, Option.isSome_iff_exists]
  constructor
  · rintro (rfl | rfl | rfl | rfl | rfl) <;> exact ⟨_, rfl⟩
  · rintro ⟨mark, found⟩
    rw [Mark.ofChar?_eq_some_iff] at found
    subst found
    rcases mark with (_ | _) | (_ | _) | _ <;> simp [Mark.char, GroupKind.opener, GroupKind.closer]

theorem ofChar?_eq_none_iff {c : Char} : Mark.ofChar? c = none ↔ isReserved c = false := by
  simp [isReserved_eq_isSome]

@[simp] theorem isReserved_char (mark : Mark) : isReserved mark.char = true := by
  simp [isReserved_eq_isSome]

end NamePattern
