import NamePattern.Generator.Basic
import NamePattern.Random

/-!
# Sampling

`Generator.sample` draws one text: it reads random words from a position on and gives the text
together with the position after the words it read. A choice picks its option before the option
is sampled, and parts are sampled from left to right.
-/

namespace NamePattern

/-- A text with its first character in upper case, if that is one of `a`–`z`. -/
def upperFirst (text : String) : String :=
  match text.toList with
  | [] => ""
  | first :: rest => String.ofList (first.toUpper :: rest)

namespace Generator

mutual
/-- Draws a text with the words from a position on; gives the text and the next position. -/
def sample (words : Words) : Generator → Nat → String × Nat
  | .literal text, position => (text, position)
  | .choice options, position =>
      if options.isEmpty then ("", position)
      else
        let picked := pick words options.length position
        sampleNth words options picked.1 picked.2
  | .concatenation parts, position => sampleAll words parts position
  | .capitalize inner, position =>
      let drawn := sample words inner position
      (upperFirst drawn.1, drawn.2)
/-- Draws from the option at an index; past the last option there is only the empty text. -/
def sampleNth (words : Words) : List Generator → Nat → Nat → String × Nat
  | [], _, position => ("", position)
  | option :: _, 0, position => sample words option position
  | _ :: options, index + 1, position => sampleNth words options index position
/-- Draws from each part in turn and joins the texts. -/
def sampleAll (words : Words) : List Generator → Nat → String × Nat
  | [], position => ("", position)
  | part :: parts, position =>
      let first := sample words part position
      let rest := sampleAll words parts first.2
      (first.1 ++ rest.1, rest.2)
end

section Equations

variable (words : Words) (position : Nat)

@[simp] theorem sample_literal (text : String) :
    sample words (.literal text) position = (text, position) := by
  simp [sample]

@[simp] theorem sample_choice_nil : sample words (.choice []) position = ("", position) := by
  simp [sample]

theorem sampleNth_eq (options : List Generator) (index : Nat) :
    sampleNth words options index position =
      match options[index]? with
      | some option => sample words option position
      | none => ("", position) := by
  induction options generalizing index with
  | nil => rfl
  | cons option options ih =>
    cases index with
    | zero => rfl
    | succ index => simpa [sampleNth] using ih index

theorem sample_choice {options : List Generator} (filled : options ≠ []) :
    sample words (.choice options) position =
      sampleNth words options (pick words options.length position).1
        (pick words options.length position).2 := by
  simp [sample, filled]

@[simp] theorem sample_concatenation (parts : List Generator) :
    sample words (.concatenation parts) position = sampleAll words parts position := by
  simp [sample]

theorem sample_concatenation_nil : sample words (.concatenation []) position = ("", position) := by
  simp [sampleAll]

theorem sample_concatenation_cons (part : Generator) (parts : List Generator) :
    sample words (.concatenation (part :: parts)) position =
      ((sample words part position).1 ++
          (sample words (.concatenation parts) (sample words part position).2).1,
        (sample words (.concatenation parts) (sample words part position).2).2) := by
  simp [sampleAll]

@[simp] theorem sample_capitalize (inner : Generator) :
    sample words (.capitalize inner) position =
      (upperFirst (sample words inner position).1, (sample words inner position).2) := by
  simp [sample]

end Equations

end Generator

end NamePattern
