/-!
# Generators

A generator is a tree that describes a set of texts and how to draw one of them. This module
holds the tree, its induction principle, its decidable equality and `Generator.fold`, by which
the measures, the languages and the written forms of trees are defined.
-/

namespace NamePattern

/-- A description of texts that can be drawn at random. -/
inductive Generator where
  /-- Always this text. -/
  | literal (text : String)
  /-- What one of the options gives, each being as likely as any other; without options, the
  empty text. -/
  | choice (options : List Generator)
  /-- What the parts give, one after the other. -/
  | concatenation (parts : List Generator)
  /-- What the inner generator gives, with a first letter in `a`–`z` turned into upper case. -/
  | capitalize (inner : Generator)

namespace Generator

instance : Inhabited Generator := ⟨.literal ""⟩

/-! ## Induction -/

/-- Induction in which the children of a node are met as the members of its list. -/
@[induction_eliminator]
theorem induct {P : Generator → Prop}
    (literal : ∀ text, P (.literal text))
    (choice : ∀ options, (∀ option ∈ options, P option) → P (.choice options))
    (concatenation : ∀ parts, (∀ part ∈ parts, P part) → P (.concatenation parts))
    (capitalize : ∀ inner, P inner → P (.capitalize inner))
    (g : Generator) : P g :=
  @Generator.rec P (fun children => ∀ child ∈ children, P child)
    literal choice concatenation capitalize
    (fun _ member => nomatch member)
    (fun _ _ first rest child member => by
      rcases List.mem_cons.mp member with rfl | member
      · exact first
      · exact rest child member)
    g

/-- Induction in which the parts of a concatenation are met one by one: the first part, and the
concatenation of the others. -/
theorem inductParts {P : Generator → Prop}
    (literal : ∀ text, P (.literal text))
    (choice : ∀ options, (∀ option ∈ options, P option) → P (.choice options))
    (nil : P (.concatenation []))
    (cons : ∀ part parts, P part → P (.concatenation parts) → P (.concatenation (part :: parts)))
    (capitalize : ∀ inner, P inner → P (.capitalize inner))
    (g : Generator) : P g := by
  induction g with
  | literal text => exact literal text
  | choice options ih => exact choice options ih
  | concatenation parts ih =>
    induction parts with
    | nil => exact nil
    | cons part parts rest =>
      have later := rest fun other member => ih other (List.mem_cons_of_mem part member)
      exact cons part parts (ih part List.mem_cons_self) later
  | capitalize inner ih => exact capitalize inner ih

/-! ## Decidable equality -/

mutual
/-- Structural comparison of two generators. -/
def decEq : (g h : Generator) → Decidable (g = h)
  | .literal s, .literal t =>
      if same : s = t then .isTrue (by rw [same]) else .isFalse (by simp [same])
  | .choice gs, .choice hs =>
      match decEqAll gs hs with
      | .isTrue same => .isTrue (by rw [same])
      | .isFalse differ => .isFalse (by simp [differ])
  | .concatenation gs, .concatenation hs =>
      match decEqAll gs hs with
      | .isTrue same => .isTrue (by rw [same])
      | .isFalse differ => .isFalse (by simp [differ])
  | .capitalize g, .capitalize h =>
      match decEq g h with
      | .isTrue same => .isTrue (by rw [same])
      | .isFalse differ => .isFalse (by simp [differ])
  | .literal _, .choice _ => .isFalse (by simp)
  | .literal _, .concatenation _ => .isFalse (by simp)
  | .literal _, .capitalize _ => .isFalse (by simp)
  | .choice _, .literal _ => .isFalse (by simp)
  | .choice _, .concatenation _ => .isFalse (by simp)
  | .choice _, .capitalize _ => .isFalse (by simp)
  | .concatenation _, .literal _ => .isFalse (by simp)
  | .concatenation _, .choice _ => .isFalse (by simp)
  | .concatenation _, .capitalize _ => .isFalse (by simp)
  | .capitalize _, .literal _ => .isFalse (by simp)
  | .capitalize _, .choice _ => .isFalse (by simp)
  | .capitalize _, .concatenation _ => .isFalse (by simp)
def decEqAll : (gs hs : List Generator) → Decidable (gs = hs)
  | [], [] => .isTrue rfl
  | [], _ :: _ => .isFalse (by simp)
  | _ :: _, [] => .isFalse (by simp)
  | g :: gs, h :: hs =>
      match decEq g h, decEqAll gs hs with
      | .isTrue same, .isTrue sameRest => .isTrue (by rw [same, sameRest])
      | .isFalse differ, _ => .isFalse (by simp [differ])
      | _, .isFalse differ => .isFalse (by simp [differ])
end

instance : DecidableEq Generator := decEq

/-! ## Folding -/

/-- A meaning for each kind of node, given the meanings of its children. -/
structure Algebra (α : Type) where
  literal : String → α
  choice : List α → α
  concatenation : List α → α
  capitalize : α → α

mutual
/-- The meaning of a generator under an algebra. -/
def fold {α : Type} (algebra : Algebra α) : Generator → α
  | .literal text => algebra.literal text
  | .choice options => algebra.choice (foldAll algebra options)
  | .concatenation parts => algebra.concatenation (foldAll algebra parts)
  | .capitalize inner => algebra.capitalize (fold algebra inner)
def foldAll {α : Type} (algebra : Algebra α) : List Generator → List α
  | [] => []
  | g :: gs => fold algebra g :: foldAll algebra gs
end

section Fold

variable {α : Type} (algebra : Algebra α)

theorem foldAll_eq_map (gs : List Generator) : foldAll algebra gs = gs.map (fold algebra) := by
  induction gs with
  | nil => rfl
  | cons g gs ih => simp [foldAll, ih]

@[simp] theorem fold_literal (text : String) :
    fold algebra (.literal text) = algebra.literal text := by
  simp [fold]

@[simp] theorem fold_choice (options : List Generator) :
    fold algebra (.choice options) = algebra.choice (options.map (fold algebra)) := by
  simp [fold, foldAll_eq_map]

@[simp] theorem fold_concatenation (parts : List Generator) :
    fold algebra (.concatenation parts) = algebra.concatenation (parts.map (fold algebra)) := by
  simp [fold, foldAll_eq_map]

@[simp] theorem fold_capitalize (inner : Generator) :
    fold algebra (.capitalize inner) = algebra.capitalize (fold algebra inner) := by
  simp [fold]

end Fold

end Generator

end NamePattern
