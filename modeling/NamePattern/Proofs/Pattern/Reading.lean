import NamePattern.Proofs.Grammar.OpenGroups
import NamePattern.Proofs.Pattern.Outcome

/-!
# Reading step by step

What one character can do to a reading is said once, for the characters that fit, with what is
logged about them (`Reading.stepLogged_ok_cases`), and for those that do not
(`Reading.step_error_cases`). From there it goes by induction on the characters that are read, the
first of them and then the others (`Reading.read_cons_eq_ok_iff`, `Reading.read_cons_eq_error_iff`).
The groups that are open are those that the text alone leaves open (`Reading.kinds_read`), and a
reading that stops was all right up to the closer that stopped it (`Reading.exists_of_read_error`).
The position of an error is the place of a bracket: a closer that does not fit lies in what is being
read (`Reading.position_of_read`), and a group that is open was opened there or was open before
(`Reading.mem_opened_read`). Reading the same characters elsewhere moves the positions and changes
nothing else (`Reading.read_move`).
-/

namespace NamePattern

/-! ## One character -/

section Step

variable {table : SymbolTable} {reading next : Reading} {position : Nat} {error : PatternError}
  {c : Char}

/-- What a character that fits can do, and what is logged about it: it opens a group, closes the
innermost one, ends an alternative, or adds a piece. -/
theorem Reading.stepLogged_ok_cases {event : Option Event}
    (logged : reading.stepLogged table position c = .ok (next, event)) :
    (∃ kind, c = kind.opener ∧ next = reading.openGroup kind position ∧
      event = some (.opened kind position next.depth)) ∨
    (∃ innermost around, c = innermost.kind.closer ∧ reading.opened = innermost :: around ∧
      next = modifyTop (·.push innermost.draft.generator) { reading with opened := around } ∧
      event = some (.closed innermost.kind position next.depth)) ∨
    (c = '|' ∧ next = reading.modifyTop Draft.endAlternative ∧ event = none) ∨
    (isReserved c = false ∧
      next = reading.modifyTop (·.push (charPiece table reading.kind c)) ∧ event = none) := by
  unfold stepLogged at logged
  split at logged
  · next kind found =>
    cases logged
    exact .inl ⟨kind, (Mark.char_of_ofChar? found).symm, rfl, rfl⟩
  · next kind found =>
    unfold closeGroup at logged
    split at logged
    · cases logged
    · next innermost around open_groups =>
      split at logged
      · next fits =>
        cases logged
        subst fits
        have written := Mark.char_of_ofChar? found
        exact .inr (.inl ⟨innermost, around, written.symm, open_groups, rfl, rfl⟩)
      · cases logged
  · next found =>
    cases logged
    exact .inr (.inr (.inl ⟨(Mark.char_of_ofChar? found).symm, rfl, rfl⟩))
  · next found =>
    cases logged
    exact .inr (.inr (.inr ⟨ofChar?_eq_none_iff.mp found, rfl, rfl⟩))

theorem Reading.step_ok_cases (stepped : reading.step table position c = .ok next) :
    (∃ kind, c = kind.opener ∧ next = reading.openGroup kind position) ∨
    (∃ innermost around, c = innermost.kind.closer ∧ reading.opened = innermost :: around ∧
      next = modifyTop (·.push innermost.draft.generator) { reading with opened := around }) ∨
    (c = '|' ∧ next = reading.modifyTop Draft.endAlternative) ∨
    (isReserved c = false ∧
      next = reading.modifyTop (·.push (charPiece table reading.kind c))) := by
  obtain ⟨event, logged⟩ := (step_eq_ok_iff ..).mp stepped
  rcases stepLogged_ok_cases logged with ⟨kind, written, after, -⟩ |
    ⟨innermost, around, written, open_groups, after, -⟩ | ⟨written, after, -⟩ |
    ⟨ordinary, after, -⟩
  · exact .inl ⟨kind, written, after⟩
  · exact .inr (.inl ⟨innermost, around, written, open_groups, after⟩)
  · exact .inr (.inr (.inl ⟨written, after⟩))
  · exact .inr (.inr (.inr ⟨ordinary, after⟩))

/-- A character does not fit only as a closer, where no group or one of the other kind is open. -/
theorem Reading.step_error_cases (refused : reading.step table position c = .error error) :
    (∃ kind, c = kind.closer ∧ reading.opened = [] ∧ error = .unbalanced position kind) ∨
    ∃ kind innermost around, c = kind.closer ∧ reading.opened = innermost :: around ∧
      innermost.kind ≠ kind ∧ error = .mismatched position innermost.kind kind := by
  rw [step_eq] at refused
  split at refused
  · cases refused
  · next kind found =>
    have written := Mark.char_of_ofChar? found
    unfold closeGroup at refused
    split at refused
    · next none_open =>
      cases refused
      exact .inl ⟨kind, written.symm, none_open, rfl⟩
    · next innermost around open_groups =>
      split at refused
      · cases refused
      · next crossed =>
        cases refused
        exact .inr ⟨kind, innermost, around, written.symm, open_groups, crossed, rfl⟩
  · cases refused
  · cases refused

/-! ## Rows of characters -/

variable {rest : List Char}

theorem Reading.read_cons_eq_ok_iff :
    reading.read table position (c :: rest) = .ok next ↔
      ∃ middle, reading.step table position c = .ok middle ∧
        middle.read table (position + 1) rest = .ok next := by
  rw [read_cons]
  cases reading.step table position c with
  | ok middle => simp
  | error error => simp

theorem Reading.read_cons_eq_error_iff :
    reading.read table position (c :: rest) = .error error ↔
      reading.step table position c = .error error ∨
        ∃ middle, reading.step table position c = .ok middle ∧
          middle.read table (position + 1) rest = .error error := by
  rw [read_cons]
  cases reading.step table position c with
  | ok middle => simp
  | error error => simp

end Step

/-! ## Positions of errors -/

namespace PatternError

/-- Where the bracket stands that an error names. -/
def position : PatternError → Nat
  | unbalanced position _ => position
  | mismatched position _ _ => position
  | unclosed position _ => position

/-- The error of the same kind with the same brackets, at another position. -/
def withPosition (error : PatternError) (position : Nat) : PatternError :=
  match error with
  | unbalanced _ found => unbalanced position found
  | mismatched _ expected found => mismatched position expected found
  | unclosed _ kind => unclosed position kind

@[simp] theorem withPosition_position (error : PatternError) :
    error.withPosition error.position = error := by
  cases error <;> rfl

/-- Whether an error is about a closer, and not about the end of the pattern. -/
def atCloser : PatternError → Bool
  | unbalanced _ _ => true
  | mismatched _ _ _ => true
  | unclosed _ _ => false

def move (change : Nat → Nat) (error : PatternError) : PatternError :=
  error.withPosition (change error.position)

end PatternError

/-! ## Readings at other positions -/

namespace Reading

/-- The reading with the positions of its open groups changed. -/
def move (change : Nat → Nat) (reading : Reading) : Reading :=
  { reading with opened := reading.opened.map fun group =>
      { group with position := change group.position } }

/-- What came out of a reading, with its positions changed. -/
def moveResult (change : Nat → Nat) : Except PatternError Reading → Except PatternError Reading
  | .ok reading => .ok (reading.move change)
  | .error error => .error (error.move change)

section Move

variable (change : Nat → Nat) (table : SymbolTable) (reading : Reading)

@[simp] theorem kind_move : (reading.move change).kind = reading.kind := by
  obtain ⟨root, _ | ⟨innermost, around⟩⟩ := reading <;> rfl

@[simp] theorem modifyTop_move (edit : Draft → Draft) :
    (reading.move change).modifyTop edit = (reading.modifyTop edit).move change := by
  obtain ⟨root, _ | ⟨innermost, around⟩⟩ := reading <;> rfl

theorem closeGroup_move (kind : GroupKind) (position : Nat) :
    (reading.move change).closeGroup kind (change position) =
      moveResult change (reading.closeGroup kind position) := by
  obtain ⟨root, _ | ⟨innermost, around⟩⟩ := reading
  · rfl
  · show (if innermost.kind = kind then _ else _) =
      moveResult change (if innermost.kind = kind then _ else _)
    by_cases fits : innermost.kind = kind
    · rw [if_pos fits, if_pos fits]
      exact congrArg Except.ok (modifyTop_move change ⟨root, around⟩ _)
    · rw [if_neg fits, if_neg fits]
      rfl

theorem step_move (position : Nat) (c : Char) :
    (reading.move change).step table (change position) c =
      moveResult change (reading.step table position c) := by
  rw [step_eq, step_eq]
  split
  · rfl
  · exact closeGroup_move change reading _ position
  · exact congrArg Except.ok (modifyTop_move change reading _)
  · rw [kind_move]
    exact congrArg Except.ok (modifyTop_move change reading _)

/-- Where later positions move along with one another, a reading that starts elsewhere comes out
elsewhere, and otherwise as it does here. -/
theorem read_move {position : Nat} (along : ∀ k, position ≤ k → change (k + 1) = change k + 1)
    (chars : List Char) :
    (reading.move change).read table (change position) chars =
      moveResult change (reading.read table position chars) := by
  induction chars generalizing reading position with
  | nil => rfl
  | cons c rest ih =>
    simp only [read_cons, step_move]
    cases reading.step table position c with
    | error error => rfl
    | ok next =>
      have later := ih next fun k behind => along k (Nat.le_of_succ_le behind)
      rw [along position (Nat.le_refl position)] at later
      exact later

/-- A reading is where it was if none of its positions changes. -/
theorem move_eq_self (kept : ∀ group ∈ reading.opened, change group.position = group.position) :
    reading.move change = reading := by
  obtain ⟨root, opened⟩ := reading
  have same : (opened.map fun group => { group with position := change group.position }) =
      opened := by
    refine (List.map_congr_left fun group member => ?_).trans (List.map_id opened)
    show ({ group with position := change group.position } : OpenGroup) = group
    rw [kept group member]
  exact congrArg (Reading.mk root) same

theorem finish_move :
    (reading.move change).finish = reading.finish.mapError (PatternError.move change) := by
  obtain ⟨root, _ | ⟨innermost, around⟩⟩ := reading <;> rfl

end Move

/-! ## The open groups -/

/-- The kinds of the open groups, the innermost first. -/
def kinds (reading : Reading) : List GroupKind := reading.opened.map OpenGroup.kind

section OpenGroups

variable {table : SymbolTable} {reading next : Reading} {position : Nat}

@[simp] theorem kinds_start : start.kinds = [] := rfl

@[simp] theorem kinds_modifyTop (change : Draft → Draft) (reading : Reading) :
    (reading.modifyTop change).kinds = reading.kinds := by
  obtain ⟨root, _ | ⟨innermost, around⟩⟩ := reading <;> rfl

theorem depth_eq (reading : Reading) : reading.depth = reading.kinds.length + 1 := by
  rw [kinds, List.length_map, depth]

/-- An ordinary character is read as the open groups say. -/
theorem kind_eq_kindIn (reading : Reading) : reading.kind = kindIn reading.kinds := by
  obtain ⟨root, _ | ⟨innermost, around⟩⟩ := reading <;> rfl

theorem kinds_step {c : Char} (stepped : reading.step table position c = .ok next) :
    next.kinds = openAfter reading.kinds c := by
  rcases step_ok_cases stepped with ⟨kind, rfl, rfl⟩ |
    ⟨innermost, around, rfl, open_groups, rfl⟩ | ⟨rfl, rfl⟩ | ⟨ordinary, rfl⟩
  · rw [openAfter_opener]
    rfl
  · rw [kinds_modifyTop, openAfter_closer]
    simp [kinds, open_groups]
  · rw [kinds_modifyTop, openAfter_bar]
  · rw [kinds_modifyTop, openAfter_of_ordinary _ ordinary]

/-- The groups that are open in a reading are those that the text leaves open. -/
theorem kinds_read {chars : List Char} (finished : reading.read table position chars = .ok next) :
    next.kinds = openBehind reading.kinds chars := by
  induction chars generalizing reading position with
  | nil =>
    cases finished
    rfl
  | cons c rest ih =>
    obtain ⟨middle, stepped, finished⟩ := read_cons_eq_ok_iff.mp finished
    rw [ih finished, kinds_step stepped, openBehind_cons]

/-- A reading that stops has read everything before the closer that stopped it. -/
theorem exists_of_read_error {error : PatternError} {chars : List Char}
    (refused : reading.read table position chars = .error error) :
    ∃ front c behind last, chars = front ++ c :: behind ∧
      reading.read table position front = .ok last ∧
      last.step table (position + front.length) c = .error error := by
  induction chars generalizing reading position with
  | nil => cases refused
  | cons c rest ih =>
    rcases read_cons_eq_error_iff.mp refused with stopped | ⟨middle, stepped, refused⟩
    · exact ⟨[], c, rest, reading, rfl, rfl, stopped⟩
    · obtain ⟨front, d, behind, last, rfl, finished, stopped⟩ := ih refused
      refine ⟨c :: front, d, behind, last, rfl, ?_, ?_⟩
      · exact read_cons_eq_ok_iff.mpr ⟨middle, stepped, finished⟩
      · rw [List.length_cons, Nat.add_comm front.length 1, ← Nat.add_assoc]
        exact stopped

end OpenGroups

/-! ## Where the brackets are -/

section Brackets

variable {table : SymbolTable} {reading next : Reading} {position : Nat} {error : PatternError}

theorem position_of_step {c : Char} (refused : reading.step table position c = .error error) :
    error.position = position := by
  rcases step_error_cases refused with ⟨kind, -, -, rfl⟩ | ⟨kind, innermost, around, -, -, -, rfl⟩
  · rfl
  · rfl

/-- The closer that ends a reading lies in what is being read. -/
theorem position_of_read {chars : List Char}
    (refused : reading.read table position chars = .error error) :
    position ≤ error.position ∧ error.position < position + chars.length := by
  obtain ⟨front, c, behind, last, rfl, -, stopped⟩ := exists_of_read_error refused
  have here := position_of_step stopped
  rw [List.length_append, List.length_cons]
  omega

theorem mem_opened_modifyTop {change : Draft → Draft} {group : OpenGroup}
    (member : group ∈ (reading.modifyTop change).opened) :
    ∃ before ∈ reading.opened, before.position = group.position := by
  obtain ⟨root, _ | ⟨innermost, around⟩⟩ := reading
  · cases member
  · rcases List.mem_cons.mp member with rfl | member
    · exact ⟨innermost, List.mem_cons_self, rfl⟩
    · exact ⟨group, List.mem_cons_of_mem _ member, rfl⟩

/-- A group that is open after a character was open before it, or the character opened it. -/
theorem mem_opened_step {c : Char} (stepped : reading.step table position c = .ok next)
    {group : OpenGroup} (member : group ∈ next.opened) :
    (∃ before ∈ reading.opened, before.position = group.position) ∨ group.position = position := by
  rcases step_ok_cases stepped with ⟨kind, -, rfl⟩ | ⟨innermost, around, -, open_groups, rfl⟩ |
    ⟨-, rfl⟩ | ⟨-, rfl⟩
  · rcases List.mem_cons.mp member with rfl | member
    · exact .inr rfl
    · exact .inl ⟨group, member, rfl⟩
  · obtain ⟨before, among, same⟩ := mem_opened_modifyTop member
    refine .inl ⟨before, ?_, same⟩
    rw [open_groups]
    exact List.mem_cons_of_mem innermost among
  · exact .inl (mem_opened_modifyTop member)
  · exact .inl (mem_opened_modifyTop member)

/-- A group that is open after a row of characters was open before it, or was opened in it. -/
theorem mem_opened_read {chars : List Char}
    (finished : reading.read table position chars = .ok next) {group : OpenGroup}
    (member : group ∈ next.opened) :
    (∃ before ∈ reading.opened, before.position = group.position) ∨
      position ≤ group.position ∧ group.position < position + chars.length := by
  induction chars generalizing reading position with
  | nil =>
    cases finished
    exact .inl ⟨group, member, rfl⟩
  | cons c rest ih =>
    obtain ⟨middle, stepped, finished⟩ := read_cons_eq_ok_iff.mp finished
    rw [List.length_cons]
    rcases ih finished with ⟨between, among, same⟩ | inside
    · rcases mem_opened_step stepped among with ⟨before, first, same'⟩ | here
      · exact .inl ⟨before, first, same'.trans same⟩
      · exact .inr (by omega)
    · exact .inr (by omega)

/-- The groups that are open behind the beginning of a pattern were opened in it. -/
theorem position_lt_of_start {chars : List Char} (finished : start.read table 0 chars = .ok next) :
    ∀ group ∈ next.opened, group.position < chars.length := by
  intro group member
  rcases mem_opened_read finished member with ⟨before, none_open, -⟩ | ⟨-, inside⟩
  · cases none_open
  · omega

/-! ## Reading to the end -/

/-- What comes out when the rest of a pattern is read, from a position on. -/
def outcome (table : SymbolTable) (reading : Reading) (position : Nat) (chars : List Char) :
    Except PatternError Generator :=
  match reading.read table position chars with
  | .ok next => next.finish
  | .error error => .error error

theorem outcome_move (table : SymbolTable) (reading : Reading) {position : Nat}
    {change : Nat → Nat} (along : ∀ k, position ≤ k → change (k + 1) = change k + 1)
    (chars : List Char) :
    (reading.move change).outcome table (change position) chars =
      (reading.outcome table position chars).mapError (PatternError.move change) := by
  unfold outcome
  rw [read_move change table reading along]
  cases reading.read table position chars with
  | error error => rfl
  | ok next => exact finish_move change next

/-- A reading that ends too early is refused for a group that is open. -/
theorem position_of_finish (refused : reading.finish = .error error) :
    ∃ group ∈ reading.opened, group.position = error.position := by
  obtain ⟨root, _ | ⟨innermost, around⟩⟩ := reading
  · cases refused
  · cases refused
    exact ⟨innermost, List.mem_cons_self, rfl⟩

/-- The bracket that an error names lies in the rest of the pattern, or it opened one of the groups
that are open already. -/
theorem position_of_outcome {chars : List Char}
    (refused : reading.outcome table position chars = .error error) :
    (∃ group ∈ reading.opened, group.position = error.position) ∨
      position ≤ error.position ∧ error.position < position + chars.length := by
  unfold outcome at refused
  cases finished : reading.read table position chars with
  | error first =>
    rw [finished] at refused
    cases refused
    exact .inr (position_of_read finished)
  | ok next =>
    rw [finished] at refused
    obtain ⟨group, member, same⟩ := position_of_finish refused
    rw [← same]
    exact mem_opened_read finished member

end Brackets

end Reading

/-- A pattern that compiles is read to its end with no group open. -/
theorem exists_read_of_compileBody {table : SymbolTable} {pattern : String} {g : Generator}
    (compiled : compileBody table pattern = .ok g) :
    ∃ root, Reading.start.read table 0 pattern.toList = .ok { root } ∧ root.generator = g := by
  rw [compileBody_eq] at compiled
  cases finished : Reading.start.read table 0 pattern.toList with
  | error error =>
    rw [finished] at compiled
    cases compiled
  | ok reading =>
    rw [finished] at compiled
    obtain ⟨root, _ | ⟨innermost, around⟩⟩ := reading
    · cases compiled
      exact ⟨root, rfl, rfl⟩
    · cases compiled

end NamePattern
