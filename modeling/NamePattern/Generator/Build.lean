import NamePattern.Generator.Basic

/-!
# Building generators without needless nodes

`Generator.oneOf`, `Generator.join` and `Generator.capitalized` build the same texts as the plain
nodes, but a choice or a concatenation is made only for two children or more, neighbouring
literals are merged into one, and nothing is capitalised twice in a row.
-/

namespace NamePattern.Generator

def empty : Generator := .literal ""

/-- A node over children: the empty text for none, the child itself for one. -/
def collapse (node : List Generator → Generator) : List Generator → Generator
  | [] => empty
  | [only] => only
  | first :: second :: rest => node (first :: second :: rest)

/-- What one of the options gives. -/
def oneOf (options : List Generator) : Generator := collapse .choice options

/-- Puts a text in front of merged parts: it joins a literal that comes first, and an empty text
leaves the parts as they are. -/
def consText (text : String) : List Generator → List Generator
  | .literal next :: rest => .literal (text ++ next) :: rest
  | parts => if text.isEmpty then parts else .literal text :: parts

/-- Merges each run of neighbouring literals into one literal and drops those that come out empty. -/
def mergeLiterals : List Generator → List Generator
  | [] => []
  | .literal text :: rest => consText text (mergeLiterals rest)
  | part :: rest => part :: mergeLiterals rest

/-- What the parts give, one after the other. -/
def join (parts : List Generator) : Generator := collapse .concatenation (mergeLiterals parts)

/-- What the inner generator gives, its first letter in upper case. -/
def capitalized : Generator → Generator
  | .capitalize inner => .capitalize inner
  | inner => .capitalize inner

/-! ## Collapsing -/

@[simp] theorem collapse_nil (node : List Generator → Generator) : collapse node [] = empty := rfl

@[simp] theorem collapse_singleton (node : List Generator → Generator) (only : Generator) :
    collapse node [only] = only := rfl

theorem collapse_of_two_le (node : List Generator → Generator) {children : List Generator}
    (many : 2 ≤ children.length) : collapse node children = node children := by
  match children with
  | [] => simp at many
  | [_] => simp at many
  | _ :: _ :: _ => rfl

@[simp] theorem oneOf_nil : oneOf [] = empty := rfl

@[simp] theorem oneOf_singleton (only : Generator) : oneOf [only] = only := rfl

@[simp] theorem join_nil : join [] = empty := rfl

/-! ## Merging -/

@[simp] theorem mergeLiterals_nil : mergeLiterals [] = [] := rfl

@[simp] theorem mergeLiterals_literal (text : String) (rest : List Generator) :
    mergeLiterals (.literal text :: rest) = consText text (mergeLiterals rest) := rfl

@[simp] theorem mergeLiterals_choice (options rest : List Generator) :
    mergeLiterals (.choice options :: rest) = .choice options :: mergeLiterals rest := rfl

@[simp] theorem mergeLiterals_concatenation (parts rest : List Generator) :
    mergeLiterals (.concatenation parts :: rest) = .concatenation parts :: mergeLiterals rest := rfl

@[simp] theorem mergeLiterals_capitalize (inner : Generator) (rest : List Generator) :
    mergeLiterals (.capitalize inner :: rest) = .capitalize inner :: mergeLiterals rest := rfl

@[simp] theorem consText_empty (parts : List Generator) : consText "" parts = parts := by
  unfold consText
  split <;> simp

end NamePattern.Generator
