import NamePattern.Binary.Layout
import NamePattern.Json
import NamePattern.Pattern.Compile

/-!
# Generator expressions and their faults

An expression says how a generator comes about: from a pattern, by one of the building functions,
from a written form, or from a slot. It is evaluated under a symbol table and a choice of slots,
from left to right and inside out, and the first fault is the answer.
-/

namespace NamePattern

/-- Why a request is refused. -/
inductive Fault where
  | pattern (error : PatternError)
  | reserved (refusal : ReservedSymbol)
  /-- Bytes are no written form of what they should be. -/
  | bytes (error : Binary.DecodeError)
  | notTree
  | notTable
  | unsetSlot
  /-- A part of the request is missing or of the wrong type. -/
  | malformed
  deriving DecidableEq, Repr

/-- How a generator comes about. -/
inductive Expr where
  | pattern (text : String) (upper : Bool)
  | builtin (text : String) (upper : Bool)
  | literal (text : String)
  | choice (options : List Expr)
  | concatenation (parts : List Expr)
  | capitalize (inner : Expr)
  /-- The generator with a JSON form, as it is written. -/
  | tree (form : Json)
  | encoded (data : List UInt8)
  /-- A copy of what a slot holds. -/
  | slot (name : String)
  | malformed

namespace Expr

instance : Inhabited Expr := ⟨.malformed⟩

/-- Which generator a slot holds. -/
abbrev Slots := String → Option Generator

mutual
/-- The generator that an expression describes. -/
def eval (table : SymbolTable) (slots : Slots) : Expr → Except Fault Generator
  | .pattern text upper => (compile table text upper).mapError .pattern
  | .builtin text upper => (compile .builtin text upper).mapError .pattern
  | .literal text => .ok (.literal text)
  | .choice options => (evalAll table slots options).map Generator.oneOf
  | .concatenation parts => (evalAll table slots parts).map Generator.join
  | .capitalize inner => (eval table slots inner).map Generator.capitalized
  | .tree form =>
      match Generator.ofJson? form with
      | some g => .ok g
      | none => .error .notTree
  | .encoded data => (Generator.decode.value data).mapError .bytes
  | .slot name =>
      match slots name with
      | some g => .ok g
      | none => .error .unsetSlot
  | .malformed => .error .malformed
def evalAll (table : SymbolTable) (slots : Slots) : List Expr → Except Fault (List Generator)
  | [] => .ok []
  | expr :: rest =>
      match eval table slots expr with
      | .error fault => .error fault
      | .ok first => (evalAll table slots rest).map (first :: ·)
end

/-- The slots of a single request: none is set. -/
def noSlots : Slots := fun _ => none

end Expr

end NamePattern
