import NamePattern.Generator.Build

/-!
# Measures of generators

How many ways there are to draw from a generator, how short and how long the texts are that it
gives, in characters, and how many nodes it has. Counts of ways stop at `countLimit`, and they
stop there after every single sum and product.
-/

namespace NamePattern

/-- The largest count of ways that is told apart from larger ones, 2 ^ 128 - 1. -/
def countLimit : Nat := 340282366920938463463374607431768211455

/-- A sum of counts, no larger than the limit. -/
def addCount (m n : Nat) : Nat := min (m + n) countLimit

/-- A product of counts, no larger than the limit. -/
def mulCount (m n : Nat) : Nat := min (m * n) countLimit

def total : List Nat → Nat
  | [] => 0
  | first :: rest => first + total rest

@[simp] theorem total_nil : total [] = 0 := rfl

@[simp] theorem total_cons (first : Nat) (rest : List Nat) :
    total (first :: rest) = first + total rest := rfl

@[simp] theorem total_append (front back : List Nat) :
    total (front ++ back) = total front + total back := by
  induction front with
  | nil => simp
  | cons first front ih => simp [ih, Nat.add_assoc]

theorem total_reverse (list : List Nat) : total list.reverse = total list := by
  induction list with
  | nil => rfl
  | cons first rest ih => simp [ih, Nat.add_comm]

theorem total_map_one {α : Type} (values : List α) : total (values.map fun _ => 1) = values.length := by
  induction values with
  | nil => rfl
  | cons value values ih =>
    rw [List.map_cons, total_cons, List.length_cons, ih]
    omega

theorem le_total_map_of_mem {α : Type} {list : List α} {a : α} (f : α → Nat) (member : a ∈ list) :
    f a ≤ total (list.map f) := by
  induction list with
  | nil => simp at member
  | cons first rest ih =>
    rw [List.map_cons, total_cons]
    rcases List.mem_cons.mp member with rfl | member
    · exact Nat.le_add_right _ _
    · exact Nat.le_trans (ih member) (Nat.le_add_left _ _)

theorem total_map_le_total_map {α : Type} {list : List α} {f f' : α → Nat}
    (each : ∀ a ∈ list, f a ≤ f' a) : total (list.map f) ≤ total (list.map f') := by
  induction list with
  | nil => exact Nat.le_refl 0
  | cons first rest ih =>
    rw [List.forall_mem_cons] at each
    exact Nat.add_le_add each.1 (ih each.2)

namespace Generator

/-- How many ways there are to draw: those of the options added up, and at least one; those of
the parts multiplied. -/
def combinations : Generator → Nat := fold {
  literal := fun _ => 1
  choice := fun counts => max (counts.foldl addCount 0) 1
  concatenation := fun counts => counts.foldl mulCount 1
  capitalize := id }

/-- The number of characters of the shortest text that can be drawn. -/
def minLength : Generator → Nat := fold {
  literal := String.length
  choice := fun lengths => lengths.min?.getD 0
  concatenation := total
  capitalize := id }

/-- The number of characters of the longest text that can be drawn. -/
def maxLength : Generator → Nat := fold {
  literal := String.length
  choice := fun lengths => lengths.max?.getD 0
  concatenation := total
  capitalize := id }

def nodeCount : Generator → Nat := fold {
  literal := fun _ => 1
  choice := fun counts => 1 + total counts
  concatenation := fun counts => 1 + total counts
  capitalize := fun count => 1 + count }

structure Stats where
  combinations : Nat
  minLength : Nat
  maxLength : Nat
  nodeCount : Nat
  deriving DecidableEq, Repr

def stats (g : Generator) : Stats where
  combinations := g.combinations
  minLength := g.minLength
  maxLength := g.maxLength
  nodeCount := g.nodeCount

/-! ## One equation per node -/

section Equations

variable (text : String) (options parts : List Generator) (inner : Generator)

@[simp] theorem combinations_literal : (literal text).combinations = 1 := by
  simp [combinations]

@[simp] theorem combinations_choice : (choice options).combinations =
    max ((options.map combinations).foldl addCount 0) 1 := by
  simp [combinations]

@[simp] theorem combinations_concatenation : (concatenation parts).combinations =
    (parts.map combinations).foldl mulCount 1 := by
  simp [combinations]

@[simp] theorem combinations_capitalize :
    (capitalize inner).combinations = inner.combinations := by
  simp [combinations]

@[simp] theorem minLength_literal : (literal text).minLength = text.length := by
  simp [minLength]

@[simp] theorem minLength_choice :
    (choice options).minLength = (options.map minLength).min?.getD 0 := by
  simp [minLength]

@[simp] theorem minLength_concatenation :
    (concatenation parts).minLength = total (parts.map minLength) := by
  simp [minLength]

@[simp] theorem minLength_capitalize : (capitalize inner).minLength = inner.minLength := by
  simp [minLength]

@[simp] theorem maxLength_literal : (literal text).maxLength = text.length := by
  simp [maxLength]

@[simp] theorem maxLength_choice :
    (choice options).maxLength = (options.map maxLength).max?.getD 0 := by
  simp [maxLength]

@[simp] theorem maxLength_concatenation :
    (concatenation parts).maxLength = total (parts.map maxLength) := by
  simp [maxLength]

@[simp] theorem maxLength_capitalize : (capitalize inner).maxLength = inner.maxLength := by
  simp [maxLength]

@[simp] theorem nodeCount_literal : (literal text).nodeCount = 1 := by
  simp [nodeCount]

@[simp] theorem nodeCount_choice :
    (choice options).nodeCount = 1 + total (options.map nodeCount) := by
  simp [nodeCount]

@[simp] theorem nodeCount_concatenation :
    (concatenation parts).nodeCount = 1 + total (parts.map nodeCount) := by
  simp [nodeCount]

@[simp] theorem nodeCount_capitalize :
    (capitalize inner).nodeCount = 1 + inner.nodeCount := by
  simp [nodeCount]

end Equations

end Generator

end NamePattern
