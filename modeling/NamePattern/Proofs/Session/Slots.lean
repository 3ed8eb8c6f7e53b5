import NamePattern.Proofs.Session.Steps
import NamePattern.Proofs.SymbolTable.Loading

/-!
# What the slots of a session hold

A slot for generators holds what the last successful `put` into it gave, and a saved table is the
table that was current at the last `save`, whatever was done to the current table since
(`Session.slots_hold_last`). What a `put` gives is settled when it is made: an expression that
mentions no slot has there the value, or the fault, that a single request answers for it when that
request is given the written form of the current table.
-/

namespace NamePattern

open Std (ExtTreeMap)

/-! ## Expressions and what they read -/

namespace Expr

mutual
/-- The slots that an expression mentions. -/
def slotNames : Expr → List String
  | .slot name => [name]
  | .choice options => slotNamesAll options
  | .concatenation parts => slotNamesAll parts
  | .capitalize inner => slotNames inner
  | _ => []
def slotNamesAll : List Expr → List String
  | [] => []
  | expr :: rest => slotNames expr ++ slotNamesAll rest
end

mutual
/-- Of the slots an expression reads only those that it mentions. -/
theorem eval_congr (table : SymbolTable) {slots other : Slots} : ∀ expr : Expr,
    (∀ name ∈ expr.slotNames, slots name = other name) →
      expr.eval table slots = expr.eval table other
  | .pattern _ _, _ => rfl
  | .builtin _ _, _ => rfl
  | .literal _, _ => rfl
  | .choice options, agree => by
    rw [eval, eval, evalAll_congr table options agree]
  | .concatenation parts, agree => by
    rw [eval, eval, evalAll_congr table parts agree]
  | .capitalize inner, agree => by
    rw [eval, eval, eval_congr table inner agree]
  | .tree _, _ => rfl
  | .encoded _, _ => rfl
  | .slot name, agree => by
    rw [eval, eval, agree name (by simp [slotNames])]
  | .malformed, _ => rfl
theorem evalAll_congr (table : SymbolTable) {slots other : Slots} : ∀ exprs : List Expr,
    (∀ name ∈ slotNamesAll exprs, slots name = other name) →
      evalAll table slots exprs = evalAll table other exprs
  | [], _ => rfl
  | expr :: rest, agree => by
    have first := eval_congr table expr fun name member =>
      agree name (by simp [slotNamesAll, member])
    have others := evalAll_congr table rest fun name member =>
      agree name (by simp [slotNamesAll, member])
    rw [evalAll, evalAll, first, others]
end

/-- What a single request answers for an expression, given the written form of a table. -/
def build (form : Json) (expr : Expr) : Except Fault Generator :=
  match SymbolTable.ofSpec? form with
  | some table => expr.eval table noSlots
  | none => .error .notTable

/-- An expression that mentions no slot has the value that it has in a single request. -/
theorem eval_eq_build {expr : Expr} (closed : expr.slotNames = []) (table : SymbolTable)
    (slots : Slots) : expr.eval table slots = expr.build table.toJson := by
  rw [build, SymbolTable.ofSpec?_toJson]
  -- the slots are all that is left of the session, and the expression reads none
  apply eval_congr
  intro name member
  rw [closed] at member
  cases member

end Expr

namespace Session

/-! ## One step -/

theorem answer_put (session : Session) (slot : String) (expr : Expr) :
    session.answer (.put slot expr) =
      (expr.eval session.table session.slots).map .generator := by
  rw [answer, step]
  cases expr.eval session.table session.slots <;> rfl

theorem generators_after_put {session : Session} {expr : Expr} {g : Generator} (slot : String)
    (evaluated : expr.eval session.table session.slots = .ok g) :
    (session.after (.put slot expr)).generators[slot]? = some g := by
  rw [after, step, evaluated]
  exact ExtTreeMap.getElem?_insert_self

/-- Only a successful put into a slot for a generator changes what it holds. -/
theorem generators_after {session : Session} {step : Step} {slot : String}
    (fails : ∀ expr, step = .put slot expr → ∃ fault, session.answer step = .error fault) :
    (session.after step).generators[slot]? = session.generators[slot]? := by
  rcases answer_after_cases session step with ⟨-, same⟩ | ⟨⟨answer, succeeded⟩, changes⟩
  · rw [same]
  · generalize session.after step = next at changes ⊢
    cases changes with
    | stored evaluated =>
      rename_i into expr g
      -- a put that succeeded is one into another slot
      have other : into ≠ slot := by
        rintro rfl
        obtain ⟨fault, failed⟩ := fails expr rfl
        rw [succeeded] at failed
        cases failed
      simp [ExtTreeMap.getElem?_insert, other]
    | nothing | table | saved | reseeded | drawn => rfl

/-- Only a save to a slot for a table changes what it holds. -/
theorem tables_after {session : Session} {step : Step} {slot : String} (other : step ≠ .save slot) :
    (session.after step).tables[slot]? = session.tables[slot]? := by
  rcases answer_after_cases session step with ⟨-, same⟩ | ⟨-, changes⟩
  · rw [same]
  · generalize session.after step = next at changes ⊢
    cases changes with
    | saved into =>
      have differ : into ≠ slot := by
        rintro rfl
        exact other rfl
      simp [ExtTreeMap.getElem?_insert, differ]
    | nothing | table | stored | reseeded | drawn => rfl

theorem tables_after_save (session : Session) (slot : String) :
    (session.after (.save slot)).tables[slot]? = some session.table :=
  ExtTreeMap.getElem?_insert_self

theorem answer_after_restore {session : Session} {slot : String} {table : SymbolTable}
    (saved : session.tables[slot]? = some table) :
    session.answer (.restore slot) = .ok (.size table.size) ∧
      (session.after (.restore slot)).table = table := by
  have found : session.tableAt slot = .ok table := by
    rw [tableAt, saved]
  rw [answer, after, step, found]
  exact ⟨rfl, rfl⟩

/-! ## Runs -/

/-- No put into a slot succeeds while these steps are taken. -/
def PutsFail (session : Session) (slot : String) (steps : List Step) : Prop :=
  ∀ (position : Nat) (expr : Expr), steps[position]? = some (.put slot expr) →
    ∃ fault, (session.run steps).1[position]? = some (.error fault)

theorem generators_run {session : Session} {slot : String} {steps : List Step}
    (fails : session.PutsFail slot steps) :
    (session.run steps).2.generators[slot]? = session.generators[slot]? := by
  induction steps generalizing session with
  | nil => rfl
  | cons first rest ih =>
    unfold PutsFail at fails
    rw [run_cons] at fails ⊢
    have later : (session.after first).PutsFail slot rest := fun position expr here =>
      fails (position + 1) expr here
    have now : ∀ expr, first = .put slot expr →
        ∃ fault, session.answer first = .error fault := by
      rintro expr rfl
      obtain ⟨fault, failed⟩ := fails 0 expr rfl
      exact ⟨fault, Option.some.inj failed⟩
    rw [ih later, generators_after now]

theorem tables_run {session : Session} {slot : String} {steps : List Step}
    (unsaved : .save slot ∉ steps) :
    (session.run steps).2.tables[slot]? = session.tables[slot]? := by
  induction steps generalizing session with
  | nil => rfl
  | cons first rest ih =>
    have other : first ≠ .save slot := fun same => unsaved (same ▸ List.mem_cons_self)
    have later : .save slot ∉ rest := fun member => unsaved (List.mem_cons_of_mem first member)
    rw [run_cons, ih later, tables_after other]

/-- A step of a run answers what it answers in the session that the steps before it left. -/
theorem answer_run (session : Session) (before : List Step) (step : Step) (later : List Step) :
    (session.run (before ++ step :: later)).1[before.length]? =
      some ((session.run before).2.answer step) := by
  have behind : (session.run before).1.length ≤ before.length := Nat.le_of_eq (length_run ..)
  rw [run_append, run_cons, List.getElem?_append_right behind]
  simp [length_run]

/-- The session after a row of steps is the one after its last steps, taken after the others. -/
theorem run_append_cons (session : Session) (before : List Step) (step : Step)
    (later : List Step) :
    (session.run (before ++ step :: later)).2 =
      (((session.run before).2.after step).run later).2 := by
  rw [run_append, run_cons]

/-- What a saved table was when it was saved is there as long as nothing else is saved to its slot. -/
theorem tables_run_save (session : Session) (before : List Step) {slot : String}
    {between : List Step} (unsaved : .save slot ∉ between) :
    (session.run (before ++ .save slot :: between)).2.tables[slot]? =
      some (session.run before).2.table := by
  rw [run_append_cons, tables_run unsaved, tables_after_save]

/-- **Slots hold what was last put there.** Take any steps in any session. A slot for a generator
holds what the last put that succeeded gave, and what it held at first if there was none; no other
step changes that. A put answers the value of its expression in the session that it meets. If the
expression mentions no slot, this is the value, or the fault, that a single request answers when it
is given the table of that moment as it is dumped. A pattern for the built-in table is compiled the
same whatever the current table is, as in a single request that names the built-in table. A slot for
a table holds the table that was current when it was last saved to, and a restore makes that table
the current one again, whatever steps were taken in between. -/
theorem slots_hold_last (session : Session) (steps : List Step) :
    (∀ slot, session.PutsFail slot steps →
      (session.run steps).2.generators[slot]? = session.generators[slot]?) ∧
    (∀ before slot expr later, steps = before ++ .put slot expr :: later →
      let met := (session.run before).2
      let value := expr.eval met.table met.slots
      (session.run steps).1[before.length]? = some (value.map .generator) ∧
      (∀ g, value = .ok g → (met.after (.put slot expr)).PutsFail slot later →
        (session.run steps).2.generators[slot]? = some g) ∧
      (expr.slotNames = [] → ∃ dumped, met.answer .dump = .ok (.table dumped) ∧
        value = expr.build dumped.toJson)) ∧
    (∀ table slots text upper,
      (Expr.builtin text upper).eval table slots = (compile .builtin text upper).mapError .pattern ∧
      (Expr.builtin text upper).eval table slots =
        (Expr.pattern text upper).build (.string "default")) ∧
    (∀ slot, .save slot ∉ steps →
      (session.run steps).2.tables[slot]? = session.tables[slot]?) ∧
    ∀ before slot between later,
      steps = before ++ .save slot :: (between ++ .restore slot :: later) →
      .save slot ∉ between →
      let saved := (session.run before).2.table
      (session.run steps).1[before.length + 1 + between.length]? = some (.ok (.size saved.size)) ∧
      (session.run (before ++ .save slot :: (between ++ [.restore slot]))).2.table = saved := by
  refine ⟨?_, ?_, ?_, ?_, ?_⟩
  · intro slot fails
    exact generators_run fails
  · intro before slot expr later whole met value
    subst whole
    refine ⟨?_, ?_, ?_⟩
    · rw [answer_run, answer_put]
    · intro g evaluated fails
      rw [run_append_cons, generators_run fails]
      exact generators_after_put slot evaluated
    · intro closed
      exact ⟨met.table, rfl, Expr.eval_eq_build closed met.table met.slots⟩
  · intro table slots text upper
    exact ⟨rfl, rfl⟩
  · intro slot unsaved
    exact tables_run unsaved
  · intro before slot between later whole unsaved saved
    have held : (session.run (before ++ .save slot :: between)).2.tables[slot]? = some saved :=
      tables_run_save session before unsaved
    obtain ⟨answered, restored⟩ := answer_after_restore held
    refine ⟨?_, ?_⟩
    · -- the restore is the first step behind the save and what comes after it
      have place : before.length + 1 + between.length =
          (before ++ .save slot :: between).length := by
        rw [List.length_append, List.length_cons]
        omega
      have split : steps = (before ++ .save slot :: between) ++ .restore slot :: later := by
        rw [whole, List.append_assoc, List.cons_append]
      rw [place, split, answer_run, answered]
    · have split : before ++ .save slot :: (between ++ [.restore slot]) =
          (before ++ .save slot :: between) ++ [.restore slot] := by
        rw [List.append_assoc, List.cons_append]
      rw [split, run_append_cons]
      exact restored

/-- A generator and a saved table outlive edits of the table, a pattern that is refused, another
table, sampling and a restore. -/
theorem slots_hold_last_edited :
    let session : Session :=
      { table := .ofList [('v', ["a", "e"]), ('<', ["x"])], source := .cycle #[7, 4294967295] }
    let pattern := Expr.pattern "v(k)" true
    let tree : Generator :=
      .capitalize (.concatenation [.choice [.literal "a", .literal "e"], .literal "k"])
    let later : List Step := [
      .put "g" (.pattern "v>" true), .load (.string "empty"), .sample "g" (.ok 2),
      .restore "t", .put "h" (.builtin "x" false)]
    let steps : List Step := .save "t" :: .register 'v' ["a"] :: .register 'v' ["a", "e"] ::
      .put "g" pattern :: later
    (session.run steps).1[3]? = some (.ok (.generator tree)) ∧
      (∃ dumped, (session.run (steps.take 3)).2.answer .dump = .ok (.table dumped) ∧
        pattern.build dumped.toJson = .ok tree) ∧
      (session.run steps).2.generators["g"]? = some tree ∧
      (session.run steps).2.generators["x"]? = none ∧
      (session.run (steps.take 8)).2.table = session.table ∧
      (session.run steps).2.tables["h"]? = none := by
  intro session pattern tree later steps
  obtain ⟨unset, puts, -, unsaved, restores⟩ := slots_hold_last session steps
  obtain ⟨answered, held, asBuilt⟩ := puts (steps.take 3) "g" pattern later rfl
  have compiled : pattern.eval (session.run (steps.take 3)).2.table
      (session.run (steps.take 3)).2.slots = .ok tree := rfl
  have fails : ((session.run (steps.take 3)).2.after (.put "g" pattern)).PutsFail "g" later := by
    intro position expr here
    match position with
    | 0 => exact ⟨_, rfl⟩
    | 1 | 2 | 3 => cases here
    | 4 => simp [later] at here
    | position + 5 => cases here
  have other : session.PutsFail "x" steps := by
    intro position expr here
    match position with
    | 0 | 1 | 2 => cases here
    | 3 => simp [steps] at here
    | 4 => simp [steps, later] at here
    | 5 | 6 | 7 => cases here
    | 8 => simp [steps, later] at here
    | position + 9 => cases here
  refine ⟨?_, ?_, held tree compiled fails, unset "x" other, ?_, ?_⟩
  · exact answered
  · obtain ⟨dumped, dump, same⟩ := asBuilt rfl
    exact ⟨dumped, dump, same ▸ compiled⟩
  · exact (restores [] "t" (steps.drop 1 |>.take 6) (steps.drop 8) rfl (by simp [steps, later])).2
  · exact unsaved "h" (by simp [steps, later])

end Session

end NamePattern
