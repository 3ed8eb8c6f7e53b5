import NamePattern.Generator.Basic
import NamePattern.SymbolTable.Builtin

/-!
# JSON

Values as they are exchanged with other programs; an object is the list of its fields.

A generator is an object with a single field, which is named for the kind of node. A value of any
other shape, at any depth, is no generator. A table is an object with a field `symbols`, which is an
object that gives each symbol the array of its candidates. Other fields of the outer object mean
nothing. Where a table is asked for, two names stand for the built-in and the empty one.
-/

namespace NamePattern

inductive Json where
  | null
  | bool (value : Bool)
  /-- The number `mantissa / 10 ^ exponent`. -/
  | number (mantissa : Int) (exponent : Nat)
  | string (text : String)
  | array (elements : List Json)
  | object (fields : List (String × Json))

namespace Json

instance : Inhabited Json := ⟨.null⟩

def text? : Json → Option String
  | .string text => some text
  | _ => none

/-- The texts of an array of string values. -/
def texts? : Json → Option (List String)
  | .array elements => elements.mapM text?
  | _ => none

def ofTexts (texts : List String) : Json := .array (texts.map .string)

@[simp] theorem texts?_ofTexts (texts : List String) : (ofTexts texts).texts? = some texts := by
  have each : ∀ texts : List String,
      (texts.map Json.string).mapM text? = some texts := by
    intro texts
    induction texts with
    | nil => rfl
    | cons first rest ih => simp [text?, ih]
  exact each texts

end Json

/-! ## Generators -/

namespace Generator

def toJson : Generator → Json := fold {
  literal := fun text => .object [("Literal", .string text)]
  choice := fun options => .object [("Choice", .array options)]
  concatenation := fun parts => .object [("Concatenation", .array parts)]
  capitalize := fun inner => .object [("Capitalize", inner)] }

mutual
/-- The generator with this JSON form, if there is one. -/
def ofJson? : Json → Option Generator
  | .object [("Literal", .string text)] => some (.literal text)
  | .object [("Choice", .array options)] => (ofJsonAll? options).map .choice
  | .object [("Concatenation", .array parts)] => (ofJsonAll? parts).map .concatenation
  | .object [("Capitalize", inner)] => (ofJson? inner).map .capitalize
  | _ => none
def ofJsonAll? : List Json → Option (List Generator)
  | [] => some []
  | form :: forms =>
      match ofJson? form, ofJsonAll? forms with
      | some first, some rest => some (first :: rest)
      | _, _ => none
end

section Equations

variable (text : String) (options parts : List Generator) (inner : Generator)

@[simp] theorem toJson_literal :
    (literal text).toJson = .object [("Literal", .string text)] := by
  simp [toJson]

@[simp] theorem toJson_choice :
    (choice options).toJson = .object [("Choice", .array (options.map toJson))] := by
  simp [toJson]

@[simp] theorem toJson_concatenation :
    (concatenation parts).toJson = .object [("Concatenation", .array (parts.map toJson))] := by
  simp [toJson]

@[simp] theorem toJson_capitalize :
    (capitalize inner).toJson = .object [("Capitalize", inner.toJson)] := by
  simp [toJson]

end Equations

end Generator

/-! ## Symbol tables -/

namespace SymbolTable

def toJson (table : SymbolTable) : Json :=
  .object [("symbols", .object (table.toList.map fun entry =>
    (String.singleton entry.1, Json.ofTexts entry.2)))]

/-- The entry that a field of `symbols` describes: its name is one character. -/
def entryOfJson? (field : String × Json) : Option (Char × List String) :=
  match field.1.toList, field.2.texts? with
  | [symbol], some candidates => some (symbol, candidates)
  | _, _ => none

/-- The table that a JSON value describes, if it describes one. -/
def ofJson? : Json → Option SymbolTable
  | .object fields =>
      match fields.lookup "symbols" with
      | some (.object entries) => (entries.mapM entryOfJson?).map ofList
      | _ => none
  | _ => none

/-- The table that a JSON value stands for: one of two names, or the form of a table. -/
def ofSpec? : Json → Option SymbolTable
  | .string "default" => some builtin
  | .string "empty" => some empty
  | form => ofJson? form

@[simp] theorem entryOfJson?_singleton (symbol : Char) (candidates : List String) :
    entryOfJson? (String.singleton symbol, Json.ofTexts candidates) = some (symbol, candidates) := by
  simp [entryOfJson?]

end SymbolTable

end NamePattern
