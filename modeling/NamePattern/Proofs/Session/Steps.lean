import NamePattern.Session.Basic

/-!
# What the steps of a session change

A step that succeeds changes at most one of the things that live across the steps, and
`Session.Changes` lists the ways in which it can; a step that fails changes nothing. So a step that
fails or only asks is as good as not taken: where such steps are left out of a session, the others
answer what they answered, and the session ends as it did (`Session.run_kept`).
-/

namespace NamePattern

/-! ## Kinds of steps -/

namespace Step

/-- A step that only asks. -/
def isQuery : Step → Bool
  | .lookup _ => true
  | .contains _ => true
  | .symbols => true
  | .dump => true
  | .sameTable _ => true
  | .stats _ => true
  | .equal _ _ => true
  | _ => false

/-- A step that may leave another symbol table. -/
def setsTable : Step → Bool
  | .register _ _ => true
  | .unregister _ => true
  | .load _ => true
  | .loadEncoded _ => true
  | .restore _ => true
  | _ => false

theorem isQuery_eq_false_of_setsTable {step : Step} (sets : step.setsTable = true) :
    step.isQuery = false := by
  cases step <;> first | rfl | cases sets

end Step

namespace Session

/-! ## One step -/

/-- What a step answers. -/
def answer (session : Session) (step : Step) : Except Fault Answer := (session.step step).1

/-- The session after a step. -/
def after (session : Session) (step : Step) : Session := (session.step step).2

/-- What a step that succeeds does to a session. -/
inductive Changes (session : Session) : Step → Session → Prop where
  | nothing {step : Step} : step.isQuery = true → Changes session step session
  | table {step : Step} (table : SymbolTable) : step.setsTable = true →
      Changes session step { session with table }
  | saved (slot : String) : Changes session (.save slot)
      { session with tables := session.tables.insert slot session.table }
  | stored {slot : String} {expr : Expr} {g : Generator} :
      expr.eval session.table session.slots = .ok g → Changes session (.put slot expr)
        { session with generators := session.generators.insert slot g }
  | reseeded (source : Source) :
      Changes session (.reseed source) { session with source, position := 0 }
  | drawn {slot : String} {count : Except Fault Nat} (position : Nat) :
      Changes session (.sample slot count) { session with position }

/-- What can have come of a step: a fault and the session as it was, or an answer and a session that
the step may leave. -/
inductive CameOf (session : Session) (step : Step) : Except Fault Answer × Session → Prop where
  | fault (fault : Fault) : CameOf session step (.error fault, session)
  | answer {next : Session} (answer : Answer) :
      Changes session step next → CameOf session step (.ok answer, next)

/-- A query answers something or a fault, and changes nothing either way. -/
theorem cameOf_of_isQuery {session : Session} {step : Step} (query : step.isQuery = true)
    (answer : Except Fault Answer) : CameOf session step (answer, session) := by
  cases answer with
  | error fault => exact .fault fault
  | ok answer => exact .answer answer (.nothing query)

theorem cameOf_step (session : Session) (step : Step) :
    CameOf session step (session.step step) := by
  -- what a step needs is looked up first, so that nothing is changed where that fails
  cases step with
  | lookup | contains | symbols | dump | sameTable | stats | equal => exact cameOf_of_isQuery rfl _
  | register symbol candidates =>
    rw [Session.step]
    split
    · exact .answer _ (.table _ rfl)
    · next refusal table outcome =>
      have same := SymbolTable.register_of_error (congrArg Prod.fst outcome)
      rw [outcome] at same
      subst same
      exact .fault _
  | unregister symbol => exact .answer _ (.table _ rfl)
  | load form =>
    rw [Session.step]
    split
    · exact .answer _ (.table _ rfl)
    · exact .fault _
  | loadEncoded data =>
    rw [Session.step]
    split
    · exact .answer _ (.table _ rfl)
    · exact .fault _
  | save slot => exact .answer _ (.saved slot)
  | restore slot =>
    rw [Session.step]
    split
    · exact .answer _ (.table _ rfl)
    · exact .fault _
  | put slot expr =>
    rw [Session.step]
    split
    · next evaluated => exact .answer _ (.stored evaluated)
    · exact .fault _
  | reseed source => exact .answer _ (.reseeded source)
  | sample slot count =>
    rw [Session.step]
    split
    · exact .answer _ (.drawn _)
    · exact .fault _
  | refused fault => exact .fault fault

/-- Either a step fails and the session stays as it is, or it succeeds and changes what it can. -/
theorem answer_after_cases (session : Session) (step : Step) :
    (∃ fault, session.answer step = .error fault) ∧ session.after step = session ∨
      (∃ answer, session.answer step = .ok answer) ∧
        Changes session step (session.after step) := by
  have came := cameOf_step session step
  unfold answer after
  generalize session.step step = outcome at came ⊢
  cases came with
  | fault fault => exact .inl ⟨⟨fault, rfl⟩, rfl⟩
  | answer answer changes => exact .inr ⟨⟨answer, rfl⟩, changes⟩

theorem after_of_error {session : Session} {step : Step} {fault : Fault}
    (failed : session.answer step = .error fault) : session.after step = session := by
  rcases answer_after_cases session step with ⟨-, same⟩ | ⟨⟨answer, succeeded⟩, -⟩
  · exact same
  · rw [failed] at succeeded
    cases succeeded

theorem after_of_isQuery {session : Session} {step : Step} (query : step.isQuery = true) :
    session.after step = session := by
  rcases answer_after_cases session step with ⟨-, same⟩ | ⟨-, changes⟩
  · exact same
  · generalize session.after step = next at changes ⊢
    cases changes with
    | nothing => rfl
    | table table sets =>
      rw [Step.isQuery_eq_false_of_setsTable sets] at query
      cases query
    | saved => cases query
    | stored => cases query
    | reseeded => cases query
    | drawn => cases query

/-! ## Runs -/

theorem run_cons (session : Session) (first : Step) (rest : List Step) :
    session.run (first :: rest) =
      (session.answer first :: ((session.after first).run rest).1,
        ((session.after first).run rest).2) := rfl

theorem length_run (session : Session) (steps : List Step) :
    (session.run steps).1.length = steps.length := by
  induction steps generalizing session with
  | nil => rfl
  | cons first rest ih => simp [run_cons, ih]

/-! ## Steps that are left out -/

/-- The elements of a list at the positions that are kept. -/
def keepAt {α : Type} (kept : Nat → Bool) : List α → List α
  | [] => []
  | first :: rest =>
      if kept 0 then first :: keepAt (fun position => kept (position + 1)) rest
      else keepAt (fun position => kept (position + 1)) rest

/-- **Steps that fail or only ask leave no trace.** Leave out of a session any steps that answer a
fault or are queries: each of the other steps answers what it answered before, samples and draws
included, and the session ends with the same symbol table, the same slots, the same saved tables and
the same source of words at the same position. -/
theorem run_kept (session : Session) (steps : List Step) (kept : Nat → Bool)
    (idle : ∀ position step, steps[position]? = some step → kept position = false →
      step.isQuery = true ∨ ∃ fault, (session.run steps).1[position]? = some (.error fault)) :
    session.run (keepAt kept steps) =
      (keepAt kept (session.run steps).1, (session.run steps).2) := by
  induction steps generalizing session kept with
  | nil => rfl
  | cons first rest ih =>
    rw [run_cons] at idle ⊢
    have later := ih (session.after first) (fun position => kept (position + 1)) <| by
      intro position step here left
      exact idle (position + 1) step here left
    cases keeps : kept 0 with
    | true => simp [keepAt, keeps, run_cons, later]
    | false =>
      -- the step that is left out hands on the session as it met it
      have unchanged : session.after first = session := by
        rcases idle 0 first rfl keeps with query | ⟨fault, failed⟩
        · exact after_of_isQuery query
        · exact after_of_error (Option.some.inj failed)
      rw [unchanged] at later ⊢
      simp [keepAt, keeps, later]

/-- A session in which every second step is left out: refused and unknown ones, an expression that
fails in its second part, forms and bytes that are no table, a slot that is not set, and queries. -/
theorem run_kept_every_second :
    let session : Session :=
      { table := .ofList [('v', ["a", "e"])], source := .cycle #[7, 4294967295] }
    let steps : List Step := [
      .put "g" (.pattern "v(k)" true), .register '<' ["x"],
      .sample "g" (.ok 2), .put "g" (.concatenation [.literal "a", .pattern "(b>" false]),
      .register 'v' ["o"], .load (.string "v"),
      .save "t", .loadEncoded [1, 9],
      .put "h" (.slot "g"), .sample "t" (.ok 1),
      .unregister 'v', .lookup 'v',
      .restore "t", .equal "g" (.ok "h"),
      .sample "h" (.ok 1), .refused .malformed]
    (∀ position step, steps[position]? = some step → (position % 2 == 0) = false →
      step.isQuery = true ∨ ∃ fault, (session.run steps).1[position]? = some (.error fault)) ∧
    session.run (keepAt (· % 2 == 0) steps) =
      (keepAt (· % 2 == 0) (session.run steps).1, (session.run steps).2) := by
  intro session steps
  have idle : ∀ position step, steps[position]? = some step → (position % 2 == 0) = false →
      step.isQuery = true ∨
        ∃ fault, (session.run steps).1[position]? = some (.error fault) := by
    intro position step here left
    match position with
    | 1 => exact .inr ⟨_, rfl⟩
    | 3 => exact .inr ⟨_, rfl⟩
    | 5 => exact .inr ⟨_, rfl⟩
    | 7 => exact .inr ⟨_, rfl⟩
    | 9 => exact .inr ⟨_, rfl⟩
    | 11 =>
      cases here
      exact .inl rfl
    | 13 =>
      cases here
      exact .inl rfl
    | 15 => exact .inr ⟨_, rfl⟩
    | 0 | 2 | 4 | 6 | 8 | 10 | 12 | 14 => cases left
    | position + 16 => cases here
  exact ⟨idle, run_kept session steps (· % 2 == 0) idle⟩

end Session

end NamePattern
