import NamePattern.Json
import NamePattern.Proofs.SymbolTable.History
import NamePattern.Proofs.SymbolTable.Loading

/-!
# Reserved characters in symbol tables

A reserved character is not registered, and the built-in table and the empty one have none. Loading
a table looks at no symbol, so a reserved character that stands in a written form becomes an entry
(`reserved_symbol_loaded`). It stays there until it is unregistered or another table takes the place
of the loaded one; that is the only way in which a table comes to have a reserved character
(`no_reserved_symbol_iff`).
-/

namespace NamePattern

/-! ## Steps -/

/-- The ways to obtain a symbol table and to change it. -/
inductive TableStep where
  | builtin
  | empty
  | json (form : Json)
  | bytes (data : List UInt8)
  | edit (change : Edit)

namespace TableStep

/-- The table that a step makes, whatever was there before. Edits make no table, and neither does a
form that is refused. -/
def made? : TableStep → Option SymbolTable
  | .builtin => some .builtin
  | .empty => some .empty
  | .json form => SymbolTable.ofJson? form
  | .bytes data => (SymbolTable.decode.value data).toOption
  | .edit _ => none

/-- The table as a step edits it; only edits do. -/
def edited (table : SymbolTable) : TableStep → SymbolTable
  | .edit change => (table.edit change).2
  | _ => table

/-- The table after a step. A step that is refused leaves the table as it is. -/
def apply (table : SymbolTable) (step : TableStep) : SymbolTable :=
  step.made?.getD (step.edited table)

end TableStep

/-- The table after a row of steps that starts from the built-in one. -/
def tableAfter (steps : List TableStep) : SymbolTable := steps.foldl TableStep.apply .builtin

/-! ## One step -/

section OneStep

variable {table made : SymbolTable} {step : TableStep} {symbol : Char}

theorem TableStep.apply_of_made (makes : step.made? = some made) : apply table step = made := by
  rw [apply, makes, Option.getD_some]

/-- A step that makes no table keeps a reserved character, unless it unregisters it, and adds
none. -/
theorem TableStep.contains_apply (reserved : isReserved symbol = true)
    (makesNone : step.made? = none) :
    (apply table step).contains symbol = true ↔
      step ≠ .edit (.unregister symbol) ∧ table.contains symbol = true := by
  rw [apply, makesNone, Option.getD_none]
  cases step with
  | builtin => cases makesNone
  | empty => cases makesNone
  | json form => simp [edited]
  | bytes data => simp [edited]
  | edit change =>
    rw [edited, SymbolTable.contains_eq_isSome, SymbolTable.contains_eq_isSome,
      SymbolTable.candidates?_edit]
    cases change with
    | register other candidates =>
      -- to change the entry of a reserved character is refused
      have unchanged : (Edit.register other candidates).changes symbol = false := by
        by_cases same : other = symbol
        · subst same
          simp [Edit.changes, Edit.isRefused, reserved]
        · simp [Edit.changes, Edit.symbol, same]
      simp [unchanged]
    | unregister other =>
      by_cases same : other = symbol
      · subst same
        simp [Edit.changes, Edit.symbol, Edit.isRefused, Edit.entry]
      · simp [Edit.changes, Edit.symbol, same]

end OneStep

/-! ## Rows of steps -/

section Steps

variable {table : SymbolTable} {symbol : Char} {steps : List TableStep}

/-- Where no table is made, a reserved character is there at the end just if it was there and was
never unregistered. -/
theorem contains_foldl_apply (reserved : isReserved symbol = true)
    (makeNone : ∀ step ∈ steps, step.made? = none) :
    (steps.foldl TableStep.apply table).contains symbol = true ↔
      TableStep.edit (.unregister symbol) ∉ steps ∧ table.contains symbol = true := by
  induction steps generalizing table with
  | nil => simp
  | cons first rest ih =>
    rw [List.forall_mem_cons] at makeNone
    rw [List.foldl_cons, ih makeNone.2, TableStep.contains_apply reserved makeNone.1, List.mem_cons,
      not_or, ← and_assoc, and_comm (a := _ ∉ rest), ne_comm]

/-- A row of steps makes no table, or there is a last table that it makes. -/
theorem exists_last_made (steps : List TableStep) :
    (∀ step ∈ steps, step.made? = none) ∨
    ∃ before step made after, steps = before ++ step :: after ∧ step.made? = some made ∧
      ∀ later ∈ after, later.made? = none := by
  induction steps with
  | nil => exact .inl (by simp)
  | cons first rest ih =>
    rcases ih with makeNone | ⟨before, step, made, after, rfl, makes, last⟩
    · cases makes : first.made? with
      | none => exact .inl (List.forall_mem_cons.mpr ⟨makes, makeNone⟩)
      | some made => exact .inr ⟨[], first, made, rest, rfl, makes, makeNone⟩
    · exact .inr ⟨first :: before, step, made, after, rfl, makes, last⟩

theorem tableAfter_eq {before after : List TableStep} {step : TableStep} {made : SymbolTable}
    (makes : step.made? = some made) :
    tableAfter (before ++ step :: after) = after.foldl TableStep.apply made := by
  rw [tableAfter, List.foldl_append, List.foldl_cons, TableStep.apply_of_made makes]

theorem contains_builtin_of_isReserved (reserved : isReserved symbol = true) :
    SymbolTable.builtin.contains symbol = false := by
  rcases isReserved_iff.mp reserved with rfl | rfl | rfl | rfl | rfl
  all_goals rfl

end Steps

/-- **Where reserved characters come from.** After any row of steps that obtain and change a symbol
table, the table has no reserved character exactly if each one in the table that was made last has
been unregistered since. -/
theorem no_reserved_symbol_iff (steps : List TableStep) :
    (∀ symbol, isReserved symbol = true → (tableAfter steps).contains symbol = false) ↔
      ∀ before step made after, steps = before ++ step :: after → step.made? = some made →
        (∀ later ∈ after, later.made? = none) →
          ∀ symbol, isReserved symbol = true → made.contains symbol = true →
            .edit (.unregister symbol) ∈ after := by
  constructor
  · rintro none before step made after rfl makes last symbol reserved present
    have missing := none symbol reserved
    rw [tableAfter_eq makes, ← Bool.not_eq_true, contains_foldl_apply reserved last] at missing
    exact Classical.byContradiction fun kept => missing ⟨kept, present⟩
  · intro unregistered symbol reserved
    rw [← Bool.not_eq_true]
    rcases exists_last_made steps with makeNone | ⟨before, step, made, after, rfl, makes, last⟩
    · rw [tableAfter, contains_foldl_apply reserved makeNone,
        contains_builtin_of_isReserved reserved]
      simp
    · rw [tableAfter_eq makes, contains_foldl_apply reserved last]
      rintro ⟨kept, present⟩
      exact kept (unregistered before step made after rfl makes last symbol reserved present)

/-- A written form with an entry for `<` makes a table that contains it, be it JSON or bytes. -/
theorem reserved_symbol_loaded :
    isReserved '<' = true ∧
      (tableAfter [.json (.object [("symbols", .object [("<", .array [.string "x"])])])]).contains
        '<' = true ∧
      (tableAfter [.bytes [1, 1, 60, 1, 1, 120]]).contains '<' = true :=
  ⟨rfl, rfl, rfl⟩

end NamePattern
