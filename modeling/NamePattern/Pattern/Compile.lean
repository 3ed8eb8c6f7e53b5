import NamePattern.Generator.Build
import NamePattern.Pattern.Log
import NamePattern.SymbolTable.Basic

/-!
# Compiling patterns

A pattern is read from left to right with a stack of open groups. The reading holds one draft for
the top level and one for each open group; a closed group becomes a piece of the draft around it.
The first bracket that does not fit ends the reading, and so does the end of the pattern while a
group is open.

Reading and compiling are logged as they go on: what is read (`Reading.step`, `Reading.read`), what
a pattern compiles to (`compile`) and what the log of that is (`transcript`) are the parts of one
logged run.
-/

namespace NamePattern

open Generator (oneOf join capitalized)

/-- The piece that an ordinary character adds to a group of a kind. -/
def charPiece (table : SymbolTable) : GroupKind → Char → Generator
  | .symbol, c => oneOf ((table.lookup c).map .literal)
  | .literal, c => .literal (String.singleton c)

/-! ## Drafts -/

/-- What has been read of one body. Both lists hold the latest element first. -/
structure Draft where
  /-- The alternatives that a bar has ended. -/
  alternatives : List Generator := []
  /-- The pieces of the alternative that is being read. -/
  pieces : List Generator := []
  deriving DecidableEq

namespace Draft

def push (draft : Draft) (piece : Generator) : Draft :=
  { draft with pieces := piece :: draft.pieces }

/-- Ends the alternative that is being read and starts an empty one. -/
def endAlternative (draft : Draft) : Draft where
  alternatives := join draft.pieces.reverse :: draft.alternatives
  pieces := []

/-- The generator of the whole body: a choice among its alternatives. -/
def generator (draft : Draft) : Generator :=
  oneOf draft.endAlternative.alternatives.reverse

end Draft

/-! ## Readings -/

/-- A group that was opened and not yet closed. -/
structure OpenGroup where
  kind : GroupKind
  /-- Where its opener stands. -/
  position : Nat
  draft : Draft
  deriving DecidableEq

/-- What has been read of a pattern: the draft of the top level, which is no group and is never
closed, and the open groups, the innermost first. -/
structure Reading where
  root : Draft := {}
  opened : List OpenGroup := []
  deriving DecidableEq

namespace Reading

def start : Reading := {}

/-- The number of drafts, the top level included. -/
def depth (reading : Reading) : Nat := reading.opened.length + 1

/-- How an ordinary character is read now: as in the innermost open group, and as a symbol at the
top level. -/
def kind (reading : Reading) : GroupKind :=
  match reading.opened with
  | [] => .symbol
  | innermost :: _ => innermost.kind

/-- Changes the draft of the innermost open group, or of the top level if there is none. -/
def modifyTop (change : Draft → Draft) (reading : Reading) : Reading :=
  match reading.opened with
  | [] => { reading with root := change reading.root }
  | innermost :: around =>
      { reading with opened := { innermost with draft := change innermost.draft } :: around }

def openGroup (reading : Reading) (kind : GroupKind) (position : Nat) : Reading :=
  { reading with opened := { kind, position, draft := {} } :: reading.opened }

/-- Closes the innermost group by a closer that stands at a position: the group becomes a piece
of the draft around it. -/
def closeGroup (reading : Reading) (kind : GroupKind) (position : Nat) :
    Except PatternError Reading :=
  match reading.opened with
  | [] => .error (.unbalanced position kind)
  | innermost :: around =>
      if innermost.kind = kind then
        .ok ({ reading with opened := around }.modifyTop (·.push innermost.draft.generator))
      else
        .error (.mismatched position innermost.kind kind)

/-- Reads one character: the reading after it and what is logged about it. Brackets are logged if
they fit. -/
def stepLogged (table : SymbolTable) (reading : Reading) (position : Nat) (c : Char) :
    Except PatternError (Reading × Option Event) :=
  match Mark.ofChar? c with
  | some (.opens kind) =>
      let next := reading.openGroup kind position
      .ok (next, some (.opened kind position next.depth))
  | some (.closes kind) =>
      (reading.closeGroup kind position).map fun next =>
        (next, some (.closed kind position next.depth))
  | some .bar => .ok (reading.modifyTop Draft.endAlternative, none)
  | none => .ok (reading.modifyTop (·.push (charPiece table reading.kind c)), none)

def step (table : SymbolTable) (reading : Reading) (position : Nat) (c : Char) :
    Except PatternError Reading :=
  (reading.stepLogged table position c).map Prod.fst

/-- Reads a row of characters from a position on: what is logged, up to the first character that
does not fit, and the reading after them or what is wrong with that one. -/
def readLogged (table : SymbolTable) (reading : Reading) (position : Nat) :
    List Char → List Event × Except PatternError Reading
  | [] => ([], .ok reading)
  | c :: rest =>
      match reading.stepLogged table position c with
      | .ok (next, event) =>
          let later := next.readLogged table (position + 1) rest
          (event.toList ++ later.1, later.2)
      | .error error => ([], .error error)

def read (table : SymbolTable) (reading : Reading) (position : Nat) (chars : List Char) :
    Except PatternError Reading :=
  (reading.readLogged table position chars).2

def events (table : SymbolTable) (reading : Reading) (position : Nat) (chars : List Char) :
    List Event :=
  (reading.readLogged table position chars).1

/-- The generator of a pattern that has been read to its end. -/
def finish (reading : Reading) : Except PatternError Generator :=
  match reading.opened with
  | [] => .ok reading.root.generator
  | innermost :: _ => .error (.unclosed innermost.position innermost.kind)

end Reading

/-- What is logged about the brackets of a pattern, and its generator under a symbol table or the
first thing wrong with it. -/
def compileBodyLogged (table : SymbolTable) (pattern : String) :
    List Event × Except PatternError Generator :=
  let run := Reading.start.readLogged table 0 pattern.toList
  (run.1, run.2.bind Reading.finish)

def compileBody (table : SymbolTable) (pattern : String) : Except PatternError Generator :=
  (compileBodyLogged table pattern).2

/-- Compiles a pattern, and capitalises what it gives if that is asked for. What comes out is
reported last. -/
def compileLogged (table : SymbolTable) (pattern : String) (capitalize : Bool) :
    List Event × Except PatternError Generator :=
  let body := compileBodyLogged table pattern
  let outcome := body.2.map fun g => if capitalize then g.capitalized else g
  (body.1 ++ [verdict pattern outcome], outcome)

def compile (table : SymbolTable) (pattern : String) (capitalize : Bool) :
    Except PatternError Generator :=
  (compileLogged table pattern capitalize).2

/-- All that is logged while a pattern is compiled. -/
def transcript (table : SymbolTable) (pattern : String) (capitalize : Bool) : List Event :=
  (compileLogged table pattern capitalize).1

/-! ## Reading in steps -/

namespace Reading

section Steps

variable (table : SymbolTable) (reading : Reading) (position : Nat)

theorem step_eq (c : Char) :
    reading.step table position c =
      match Mark.ofChar? c with
      | some (.opens kind) => .ok (reading.openGroup kind position)
      | some (.closes kind) => reading.closeGroup kind position
      | some .bar => .ok (reading.modifyTop Draft.endAlternative)
      | none => .ok (reading.modifyTop (·.push (charPiece table reading.kind c))) := by
  unfold step stepLogged
  split
  · rfl
  · cases reading.closeGroup _ position <;> rfl
  · rfl
  · rfl

theorem step_opener (kind : GroupKind) :
    reading.step table position kind.opener = .ok (reading.openGroup kind position) := by
  rw [step_eq, Mark.ofChar?_opener]

theorem step_closer (kind : GroupKind) :
    reading.step table position kind.closer = reading.closeGroup kind position := by
  rw [step_eq, Mark.ofChar?_closer]

theorem step_bar :
    reading.step table position '|' = .ok (reading.modifyTop Draft.endAlternative) := by
  rw [step_eq, Mark.ofChar?_bar]

theorem step_ordinary {c : Char} (ordinary : isReserved c = false) :
    reading.step table position c =
      .ok (reading.modifyTop (·.push (charPiece table reading.kind c))) := by
  rw [step_eq, ofChar?_eq_none_iff.mpr ordinary]

theorem step_eq_ok_iff {c : Char} {next : Reading} :
    reading.step table position c = .ok next ↔
      ∃ event, reading.stepLogged table position c = .ok (next, event) := by
  unfold step
  cases reading.stepLogged table position c with
  | error error => simp [Except.map]
  | ok outcome => simp [Except.map, Prod.ext_iff]

@[simp] theorem read_nil : reading.read table position [] = .ok reading := rfl

theorem read_cons (c : Char) (rest : List Char) :
    reading.read table position (c :: rest) =
      match reading.step table position c with
      | .ok next => next.read table (position + 1) rest
      | .error error => .error error := by
  rw [read, readLogged, step]
  cases reading.stepLogged table position c <;> rfl

end Steps

/-- Reading a row of characters is reading its first part and going on with the second. -/
theorem read_append (table : SymbolTable) (reading : Reading) (position : Nat)
    (front back : List Char) :
    reading.read table position (front ++ back) =
      match reading.read table position front with
      | .ok next => next.read table (position + front.length) back
      | .error error => .error error := by
  induction front generalizing reading position with
  | nil => simp
  | cons c front ih =>
    simp only [List.cons_append, read_cons]
    cases reading.step table position c with
    | error error => rfl
    | ok next => simp [ih, Nat.add_assoc, Nat.add_comm 1]

end Reading

/-! ## What comes out -/

section Outcomes

variable (table : SymbolTable) (pattern : String)

theorem compileBody_eq :
    compileBody table pattern =
      match Reading.start.read table 0 pattern.toList with
      | .ok reading => reading.finish
      | .error error => .error error := by
  show (Reading.start.read table 0 pattern.toList).bind Reading.finish = _
  cases Reading.start.read table 0 pattern.toList <;> rfl

theorem compile_eq (capitalize : Bool) :
    compile table pattern capitalize =
      (compileBody table pattern).map fun g => if capitalize then g.capitalized else g := rfl

/-- The last report is about the outcome itself, and those before it are about the brackets. -/
theorem transcript_eq (capitalize : Bool) :
    transcript table pattern capitalize =
      Reading.start.events table 0 pattern.toList ++
        [verdict pattern (compile table pattern capitalize)] := rfl

end Outcomes

end NamePattern
