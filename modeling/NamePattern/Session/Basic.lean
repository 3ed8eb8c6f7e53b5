import NamePattern.Binary.Layout
import NamePattern.Generator.Buffer
import NamePattern.Generator.Measure
import NamePattern.Session.Expr

/-!
# Sessions

A session owns a symbol table, a source of random words with the position of the next one, slots
that hold generators and slots that hold saved tables. It goes on from step to step, and each step
answers something or a fault.
-/

namespace NamePattern

open Std (ExtTreeMap)

/-- What lives across the steps of a session. -/
structure Session where
  table : SymbolTable
  source : Source
  position : Nat := 0
  generators : ExtTreeMap String Generator := ∅
  tables : ExtTreeMap String SymbolTable := ∅

/-- A step of a session. A part that is read only after another part has been looked up may itself
be faulty. -/
inductive Step where
  | register (symbol : Char) (candidates : List String)
  | unregister (symbol : Char)
  | lookup (symbol : Char)
  | contains (symbol : Char)
  | symbols
  | dump
  | load (form : Json)
  | loadEncoded (data : List UInt8)
  | save (slot : String)
  | restore (slot : String)
  | sameTable (slot : String)
  | put (slot : String) (expr : Expr)
  | stats (slot : String)
  | equal (left : String) (right : Except Fault String)
  | reseed (source : Source)
  | sample (slot : String) (count : Except Fault Nat)
  /-- A step that could not be understood. -/
  | refused (fault : Fault)

inductive Answer where
  /-- The candidates before a change, and the size of the table after it. -/
  | changed (previous : Option (List String)) (size : Nat)
  | candidates (list : List String)
  | contains (present : Bool)
  | symbols (list : List Char) (size : Nat) (isEmpty : Bool)
  | table (table : SymbolTable)
  | size (size : Nat)
  | equal (same : Bool)
  | generator (g : Generator)
  | stats (stats : Generator.Stats)
  /-- The texts drawn, and how many words that took. -/
  | samples (texts : List String) (draws : Nat)
  | done

namespace Session

def generatorAt (session : Session) (slot : String) : Except Fault Generator :=
  match session.generators[slot]? with
  | some g => .ok g
  | none => .error .unsetSlot

def tableAt (session : Session) (slot : String) : Except Fault SymbolTable :=
  match session.tables[slot]? with
  | some table => .ok table
  | none => .error .unsetSlot

/-- The slots for generators, as expressions see them. -/
def slots (session : Session) : Expr.Slots := fun name => session.generators[name]?

/-- Whether two slots hold the same generator. The slots are looked at one after the other. -/
def compare (session : Session) (left : String) (right : Except Fault String) :
    Except Fault Answer := do
  let g ← session.generatorAt left
  let h ← session.generatorAt (← right)
  return .equal (decide (g = h))

/-- What is to be sampled, and how often. -/
def sampling (session : Session) (slot : String) (count : Except Fault Nat) :
    Except Fault (Generator × Nat) := do
  let g ← session.generatorAt slot
  return (g, ← count)

/-- Takes another table; its size is answered. -/
def withTable (session : Session) (table : SymbolTable) : Except Fault Answer × Session :=
  (.ok (.size table.size), { session with table })

/-- Takes one step: the answer or the fault, and the session after it. -/
def step (session : Session) : Step → Except Fault Answer × Session
  | .register symbol candidates =>
      match session.table.register symbol candidates with
      | (.ok previous, table) => (.ok (.changed previous table.size), { session with table })
      | (.error refusal, table) => (.error (.reserved refusal), { session with table })
  | .unregister symbol =>
      let (previous, table) := session.table.unregister symbol
      (.ok (.changed previous table.size), { session with table })
  | .lookup symbol => (.ok (.candidates (session.table.lookup symbol)), session)
  | .contains symbol => (.ok (.contains (session.table.contains symbol)), session)
  | .symbols =>
      (.ok (.symbols session.table.symbols session.table.size session.table.isEmpty), session)
  | .dump => (.ok (.table session.table), session)
  | .load form =>
      match SymbolTable.ofSpec? form with
      | some table => session.withTable table
      | none => (.error .notTable, session)
  | .loadEncoded data =>
      match SymbolTable.decode.value data with
      | .ok table => (.ok (.table table), { session with table })
      | .error error => (.error (.bytes error), session)
  | .save slot =>
      (.ok (.size session.table.size),
        { session with tables := session.tables.insert slot session.table })
  | .restore slot =>
      match session.tableAt slot with
      | .ok table => session.withTable table
      | .error fault => (.error fault, session)
  | .sameTable slot =>
      ((session.tableAt slot).map fun table => .equal (decide (table = session.table)), session)
  | .put slot expr =>
      match expr.eval session.table session.slots with
      | .ok g => (.ok (.generator g),
          { session with generators := session.generators.insert slot g })
      | .error fault => (.error fault, session)
  | .stats slot => ((session.generatorAt slot).map fun g => .stats g.stats, session)
  | .equal left right => (session.compare left right, session)
  | .reseed source => (.ok .done, { session with source, position := 0 })
  | .sample slot count =>
      match session.sampling slot count with
      | .ok (g, count) =>
          let (texts, position) := g.generateMany session.source.word count session.position
          (.ok (.samples texts (position - session.position)), { session with position })
      | .error fault => (.error fault, session)
  | .refused fault => (.error fault, session)

/-- Takes steps one after the other: the answer of each, and the session after them. -/
def run (session : Session) : List Step → List (Except Fault Answer) × Session
  | [] => ([], session)
  | first :: rest =>
      let (answer, next) := session.step first
      let later := next.run rest
      (answer :: later.1, later.2)

/-- A row of steps is its first part and then the second, taken where the first one ended. -/
theorem run_append (session : Session) (front back : List Step) :
    session.run (front ++ back) =
      ((session.run front).1 ++ ((session.run front).2.run back).1,
        ((session.run front).2.run back).2) := by
  induction front generalizing session with
  | nil => rfl
  | cons first rest ih => simp only [List.cons_append, run, ih]

end Session

end NamePattern
