import NamePattern.Proofs.Pattern.Outcome
import NamePattern.Proofs.Pattern.Reading

/-!
# The log is a transcript of the brackets

What is logged while a pattern is compiled can be written down from the text of the pattern and from
how it came out (`transcript_exact`): a line for each bracket, with the depth that the brackets up to
it make, and one last line. A closer that does not fit ends the log of the brackets without a line of
its own. The lines follow the reading, so it is shown for a reading first that all of its
characters fit (`Reading.map_line_events`); the depth that the reading has is kept equal to what the
brackets make.
-/

namespace NamePattern

/-! ## What the log should be -/

/-- A line of the log: how much it matters, and what it says. -/
def Event.line (classes : Text.CharClasses) (event : Event) : Level × String :=
  (event.level, event.textIn classes)

def isOpener (c : Char) : Bool := c == '<' || c == '('

def isCloser (c : Char) : Bool := c == '>' || c == ')'

/-- The depth that the brackets of a text make: the top level counts one, an opener adds one and a
closer takes one away. -/
def bracketDepth (chars : List Char) : Nat := 1 + chars.countP isOpener - chars.countP isCloser

/-- The line about the character at a position of a text, if it is a bracket. -/
def bracketLine? (chars : List Char) (position : Nat) : Option (Level × String) :=
  match chars[position]? with
  | none => none
  | some c =>
      let depth := bracketDepth (chars.take (position + 1))
      if isOpener c then
        some (.trace, "opened " ++ quoteChar c ++ " at " ++ position.repr ++
          " (depth " ++ depth.repr ++ ")")
      else if isCloser c then
        some (.trace, "closed " ++ quoteChar c ++ " at " ++ position.repr ++
          " (depth " ++ depth.repr ++ ")")
      else none

/-- The last line, on how a pattern came out. -/
def lastLine (classes : Text.CharClasses) (pattern : String) :
    Except PatternError Generator → Level × String
  | .ok g =>
      (.debug, "compiled pattern " ++ Text.quoted classes pattern ++ " (" ++ g.nodeCount.repr ++
        " nodes, " ++ g.combinations.repr ++ " combinations)")
  | .error error =>
      (.debug, "failed to compile pattern " ++ Text.quoted classes pattern ++ ": " ++ error.message)

/-- How many characters of a pattern fit: those before the closer that it is refused for, or all. -/
def lengthRead (pattern : String) : Except PatternError Generator → Nat
  | .ok _ => pattern.length
  | .error error => if error.atCloser then error.position else pattern.length

namespace Event

def isOpened : Event → Bool
  | .opened .. => true
  | _ => false

def isClosed : Event → Bool
  | .closed .. => true
  | _ => false

end Event

/-! ## Brackets and marks -/

theorem isOpener_opener (kind : GroupKind) : isOpener kind.opener = true := by
  cases kind <;> rfl

theorem isCloser_opener (kind : GroupKind) : isCloser kind.opener = false := by
  cases kind <;> rfl

theorem isOpener_closer (kind : GroupKind) : isOpener kind.closer = false := by
  cases kind <;> rfl

theorem isCloser_closer (kind : GroupKind) : isCloser kind.closer = true := by
  cases kind <;> rfl

theorem not_bracket_of_ordinary {c : Char} (ordinary : isReserved c = false) :
    isOpener c = false ∧ isCloser c = false := by
  have marks := mt isReserved_iff.mpr (Bool.eq_false_iff.mp ordinary)
  simp only [not_or] at marks
  simp [isOpener, isCloser, marks]

namespace Reading

section Transcript

variable {table : SymbolTable} {reading next : Reading} {position : Nat} {c : Char}

/-! ## One character -/

/-- The depth changes with the brackets: openers and closers are counted on either side, since the
depth is taken away from by closers. -/
theorem depth_step (stepped : reading.step table position c = .ok next) :
    next.depth + [c].countP isCloser = reading.depth + [c].countP isOpener := by
  rcases step_ok_cases stepped with ⟨kind, rfl, rfl⟩ |
    ⟨innermost, around, rfl, open_groups, rfl⟩ | ⟨rfl, rfl⟩ | ⟨ordinary, rfl⟩
  · simp [isOpener_opener, isCloser_opener, depth, openGroup]
  · have same : (modifyTop (·.push innermost.draft.generator)
        { reading with opened := around }).depth = around.length + 1 := by
      rw [depth_eq, kinds_modifyTop, kinds, List.length_map]
    rw [same]
    simp [isOpener_closer, isCloser_closer, depth, open_groups]
  · rw [depth_eq, kinds_modifyTop, ← depth_eq]
    rfl
  · rw [depth_eq, kinds_modifyTop, ← depth_eq]
    simp [not_bracket_of_ordinary ordinary]

/-- What is logged about a character that fits. -/
theorem exists_logged_of_step (stepped : reading.step table position c = .ok next) :
    ∃ event, reading.stepLogged table position c = .ok (next, event) ∧
      ((∃ kind, c = kind.opener ∧ event = some (.opened kind position next.depth)) ∨
      (∃ kind, c = kind.closer ∧ event = some (.closed kind position next.depth)) ∨
      isOpener c = false ∧ isCloser c = false ∧ event = none) := by
  obtain ⟨event, logged⟩ := (step_eq_ok_iff ..).mp stepped
  refine ⟨event, logged, ?_⟩
  rcases stepLogged_ok_cases logged with ⟨kind, rfl, -, rfl⟩ |
    ⟨innermost, around, rfl, -, -, rfl⟩ | ⟨rfl, -, rfl⟩ | ⟨ordinary, -, rfl⟩
  · exact .inl ⟨kind, rfl, rfl⟩
  · exact .inr (.inl ⟨innermost.kind, rfl, rfl⟩)
  · exact .inr (.inr ⟨rfl, rfl, rfl⟩)
  · obtain ⟨noOpener, noCloser⟩ := not_bracket_of_ordinary ordinary
    exact .inr (.inr ⟨noOpener, noCloser, rfl⟩)

theorem events_cons_of_logged {event : Option Event}
    (logged : reading.stepLogged table position c = .ok (next, event)) (behind : List Char) :
    reading.events table position (c :: behind) =
      event.toList ++ next.events table (position + 1) behind := by
  rw [events, readLogged, logged]
  rfl

theorem events_cons_of_error {error : PatternError}
    (refused : reading.step table position c = .error error) (behind : List Char) :
    reading.events table position (c :: behind) = [] := by
  rw [events, readLogged]
  cases logged : reading.stepLogged table position c with
  | error other => rfl
  | ok outcome =>
    rw [step, logged] at refused
    cases refused

/-! ## A row of characters that fit -/

/-- The reading is as deep as the brackets before it make it. -/
def Counted (reading : Reading) (before : List Char) : Prop :=
  reading.depth + before.countP isCloser = 1 + before.countP isOpener

theorem counted_start : Counted start [] := rfl

theorem Counted.depth_eq {before : List Char} (counted : Counted reading before) :
    reading.depth = bracketDepth before := by
  unfold Counted at counted
  unfold bracketDepth
  omega

theorem Counted.step {before : List Char} (counted : Counted reading before)
    (stepped : reading.step table position c = .ok next) : Counted next (before ++ [c]) := by
  unfold Counted at counted ⊢
  have changed := depth_step stepped
  rw [List.countP_append, List.countP_append]
  omega

theorem Counted.read {before chars : List Char} (counted : Counted reading before)
    (finished : reading.read table position chars = .ok next) : Counted next (before ++ chars) := by
  induction chars generalizing reading position before with
  | nil =>
    cases finished
    rw [List.append_nil]
    exact counted
  | cons c rest ih =>
    obtain ⟨middle, stepped, finished⟩ := read_cons_eq_ok_iff.mp finished
    have later := ih (counted.step stepped) finished
    rwa [List.append_assoc, List.singleton_append] at later

/-- The line of a character that fits is the line about its place in the whole text. -/
theorem line_step (classes : Text.CharClasses) {before : List Char}
    (counted : Counted reading before)
    (stepped : reading.step table before.length c = .ok next) (behind : List Char) :
    ∃ event, reading.stepLogged table before.length c = .ok (next, event) ∧
      event.map (Event.line classes) = bracketLine? (before ++ c :: behind) before.length := by
  have here : (before ++ c :: behind)[before.length]? = some c := by simp
  have upTo : (before ++ c :: behind).take (before.length + 1) = before ++ [c] := by
    simp [List.take_append, List.take_of_length_le]
  have deep := (counted.step stepped).depth_eq
  unfold bracketLine?
  simp only [here, upTo, ← deep]
  obtain ⟨event, logged, brackets⟩ := exists_logged_of_step stepped
  refine ⟨event, logged, ?_⟩
  rcases brackets with ⟨kind, rfl, rfl⟩ | ⟨kind, rfl, rfl⟩ | ⟨noOpener, noCloser, rfl⟩
  · rw [if_pos (isOpener_opener kind)]
    rfl
  · rw [if_neg (by simp [isOpener_closer]), if_pos (isCloser_closer kind)]
    rfl
  · rw [noOpener, noCloser]
    rfl

/-- While all characters fit, what is logged is a line for each bracket, in their order. -/
theorem map_line_events (classes : Text.CharClasses) {before chars : List Char}
    (counted : Counted reading before)
    (finished : reading.read table before.length chars = .ok next) (behind : List Char) :
    (reading.events table before.length chars).map (Event.line classes) =
      (List.range' before.length chars.length).filterMap
        (bracketLine? (before ++ (chars ++ behind))) := by
  induction chars generalizing reading before with
  | nil => rfl
  | cons c rest ih =>
    obtain ⟨middle, stepped, finished⟩ := read_cons_eq_ok_iff.mp finished
    obtain ⟨event, logged, first⟩ := line_step classes counted stepped (rest ++ behind)
    have length : (before ++ [c]).length = before.length + 1 := by simp
    rw [← length] at finished
    have later := ih (counted.step stepped) finished
    rw [length, List.append_assoc, List.singleton_append] at later
    rw [events_cons_of_logged logged, List.length_cons, List.range'_succ, List.cons_append,
      List.filterMap_cons, ← first, List.map_append, later]
    cases event <;> rfl

/-- The log of what is read first does not depend on what follows. -/
theorem events_append {front : List Char}
    (finished : reading.read table position front = .ok next) (behind : List Char) :
    reading.events table position (front ++ behind) =
      reading.events table position front ++
        next.events table (position + front.length) behind := by
  induction front generalizing reading position with
  | nil =>
    cases finished
    rfl
  | cons d rest ih =>
    obtain ⟨middle, stepped, finished⟩ := read_cons_eq_ok_iff.mp finished
    obtain ⟨event, logged, -⟩ := exists_logged_of_step stepped
    rw [List.cons_append, events_cons_of_logged logged, events_cons_of_logged logged, ih finished,
      List.append_assoc, List.length_cons, Nat.add_assoc, Nat.add_comm 1]

/-! ## Counting the lines -/

theorem countP_isOpened_events {chars : List Char}
    (finished : reading.read table position chars = .ok next) :
    (reading.events table position chars).countP Event.isOpened = chars.countP isOpener ∧
      (reading.events table position chars).countP Event.isClosed = chars.countP isCloser := by
  induction chars generalizing reading position with
  | nil => exact ⟨rfl, rfl⟩
  | cons d rest ih =>
    obtain ⟨middle, stepped, finished⟩ := read_cons_eq_ok_iff.mp finished
    obtain ⟨openers, closers⟩ := ih finished
    obtain ⟨event, logged, brackets⟩ := exists_logged_of_step stepped
    rw [events_cons_of_logged logged]
    simp only [List.countP_append, List.countP_cons, openers, closers]
    rcases brackets with ⟨kind, rfl, rfl⟩ | ⟨kind, rfl, rfl⟩ | ⟨noOpener, noCloser, rfl⟩
    · simp [Event.isOpened, Event.isClosed, isOpener_opener, isCloser_opener, Nat.add_comm]
    · simp [Event.isOpened, Event.isClosed, isOpener_closer, isCloser_closer, Nat.add_comm]
    · simp [noOpener, noCloser]

end Transcript

end Reading

/-! ## Whole patterns -/

section Patterns

variable (table : SymbolTable) (pattern : String)

/-- A pattern whose characters all fit compiles if no group is open behind it, and is unclosed if one
is. -/
theorem compile_of_read {last : Reading}
    (finished : Reading.start.read table 0 pattern.toList = .ok last) (capitalize : Bool) :
    (last.kinds = [] ∧ ∃ g, compile table pattern capitalize = .ok g) ∨
      last.kinds ≠ [] ∧
        ∃ position kind, compile table pattern capitalize = .error (.unclosed position kind) := by
  have body : compileBody table pattern = last.finish := by rw [compileBody_eq, finished]
  obtain ⟨root, _ | ⟨innermost, around⟩⟩ := last
  · refine .inl ⟨rfl, _, compile_eq_ok_iff.mpr ⟨root.generator, body, rfl⟩⟩
  · refine .inr ⟨List.cons_ne_nil _ _, innermost.position, innermost.kind, ?_⟩
    exact compile_eq_error_iff.mpr body

/-- The characters of a pattern that fit are read, and nothing is logged about those behind them. No
group is open behind them just if the pattern compiles or is refused for a closer that closes
nothing. -/
theorem exists_fitting (capitalize : Bool) :
    ∃ front behind last, pattern.toList = front ++ behind ∧
      front.length = lengthRead pattern (compile table pattern capitalize) ∧
      Reading.start.read table 0 front = .ok last ∧
      Reading.start.events table 0 pattern.toList = Reading.start.events table 0 front ∧
      (last.kinds = [] ↔ (∃ g, compile table pattern capitalize = .ok g) ∨
        ∃ position found, compile table pattern capitalize = .error (.unbalanced position found)) := by
  cases outcome : Reading.start.read table 0 pattern.toList with
  | ok last =>
    refine ⟨pattern.toList, [], last, (List.append_nil _).symm, ?_, outcome, rfl, ?_⟩
    all_goals
      rcases compile_of_read table pattern outcome capitalize with
        ⟨none_open, g, compiled⟩ | ⟨some_open, position, kind, refused⟩
    · rw [compiled]
      exact String.length_toList
    · rw [refused]
      exact String.length_toList
    · simp [none_open, compiled]
    · simp [some_open, refused]
  | error error =>
    have refused : compile table pattern capitalize = .error error := by
      rw [compile_eq_error_iff, compileBody_eq, outcome]
    obtain ⟨front, c, behind, last, whole, finished, stopped⟩ :=
      Reading.exists_of_read_error outcome
    have logged : Reading.start.events table 0 pattern.toList =
        Reading.start.events table 0 front := by
      rw [whole, Reading.events_append finished, Reading.events_cons_of_error stopped,
        List.append_nil]
    rw [Nat.zero_add] at stopped
    refine ⟨front, c :: behind, last, whole, ?_, finished, logged, ?_⟩
    all_goals
      rw [refused]
      rcases Reading.step_error_cases stopped with ⟨kind, -, none_open, rfl⟩ |
        ⟨kind, innermost, around, -, some_open, -, rfl⟩
    · rfl
    · rfl
    · simp [Reading.kinds, none_open]
    · simp [Reading.kinds, some_open]

theorem line_verdict (classes : Text.CharClasses) (outcome : Except PatternError Generator) :
    (verdict pattern outcome).line classes = lastLine classes pattern outcome := by
  cases outcome <;> rfl

theorem countP_verdict (outcome : Except PatternError Generator) :
    [verdict pattern outcome].countP Event.isOpened = 0 ∧
      [verdict pattern outcome].countP Event.isClosed = 0 := by
  cases outcome <;> exact ⟨rfl, rfl⟩

/-- **The log is an exact transcript.** Whatever the symbol table and whether or not a capital letter
is asked for, the log of a pattern has one line for each bracket that fits, in the order of the
pattern, with the bracket, its position and the depth that the brackets up to it make; then it has
one line more, which quotes the pattern and has the measures of the generator that is given back or
the message of the error. So there are as many lines on opened groups as on closed ones and on groups
that are open where the reading ends. No group is open there just if the pattern compiles or if a
closer closes nothing. All this is so whichever characters count as printable. -/
theorem transcript_exact (classes : Text.CharClasses) (capitalize : Bool) :
    let outcome := compile table pattern capitalize
    let log := transcript table pattern capitalize
    let opened := openBehind [] (pattern.toList.take (lengthRead pattern outcome))
    log.map (Event.line classes) =
        (List.range (lengthRead pattern outcome)).filterMap (bracketLine? pattern.toList) ++
          [lastLine classes pattern outcome] ∧
      log.countP Event.isOpened = log.countP Event.isClosed + opened.length ∧
      (opened = [] ↔ (∃ g, outcome = .ok g) ∨
        ∃ position found, outcome = .error (.unbalanced position found)) := by
  intro outcome log opened
  obtain ⟨front, behind, last, whole, length, finished, logged, none_open⟩ :=
    exists_fitting table pattern capitalize
  have lines := Reading.map_line_events classes Reading.counted_start finished behind
  have counts := Reading.countP_isOpened_events finished
  have deep := Reading.counted_start.read finished
  have kinds : last.kinds = opened := by
    rw [Reading.kinds_read finished]
    show openBehind [] front = openBehind [] (pattern.toList.take (lengthRead pattern outcome))
    rw [← length, whole, List.take_left]
  have whole_log : log = Reading.start.events table 0 front ++ [verdict pattern outcome] := by
    rw [← logged]
    exact transcript_eq table pattern capitalize
  refine ⟨?_, ?_, ?_⟩
  · rw [whole_log, List.map_append, List.map_singleton, line_verdict, ← length,
      List.range_eq_range', whole]
    exact congrArg (· ++ [lastLine classes pattern outcome]) lines
  · have balance : last.depth + front.countP isCloser = 1 + front.countP isOpener := deep
    rw [Reading.depth_eq, kinds] at balance
    obtain ⟨noneOpened, noneClosed⟩ := countP_verdict pattern outcome
    rw [whole_log, List.countP_append, List.countP_append, counts.1, counts.2]
    omega
  · rw [← kinds]
    exact none_open

example : (transcript .empty "(a<b)" false).map (Event.line .unicode) =
    [(.trace, "opened '(' at 0 (depth 2)"), (.trace, "opened '<' at 2 (depth 3)"),
      (.debug, "failed to compile pattern \"(a<b)\": mismatched bracket type at position 4: " ++
        "expected '>', found ')'")] := by
  decide +kernel

end Patterns

end NamePattern
