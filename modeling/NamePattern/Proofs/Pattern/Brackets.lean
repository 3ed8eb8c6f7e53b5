import NamePattern.Proofs.Pattern.Outcome

/-!
# The bracket at fault

A refused pattern is refused for one bracket, and which one is a matter of the text: a closer
behind a balanced text closes nothing, a closer of the wrong kind closes another group than the
innermost one, and a pattern that ends inside groups leaves the innermost of them open
(`compile_error_iff`). Positions count characters.
-/

namespace NamePattern

/-! ## What can be wrong with a bracket -/

/-- A closer stands at the position, and everything before it is balanced. -/
def ClosesNothing (chars : List Char) (position : Nat) (found : GroupKind) : Prop :=
  chars[position]? = some found.closer ∧ Balanced (chars.take position)

/-- A closer stands at the position, and the group that is innermost there is of another kind. -/
def ClosesOther (chars : List Char) (position : Nat) (expected found : GroupKind) : Prop :=
  expected ≠ found ∧ chars[position]? = some found.closer ∧
    ∃ (around : Nesting) (body : Body),
      (Nesting.within around expected body).chars = chars.take position

/-- The text ends inside groups, and the innermost of them was opened at the position. -/
def LeavesOpen (chars : List Char) (position : Nat) (kind : GroupKind) : Prop :=
  ∃ (around : Nesting) (body : Body),
    (Nesting.within around kind body).chars = chars ∧ around.chars.length = position

/-- The fault of a text that an error reports. -/
def BracketFault (chars : List Char) : PatternError → Prop
  | .unbalanced position found => ClosesNothing chars position found
  | .mismatched position expected found => ClosesOther chars position expected found
  | .unclosed position kind => LeavesOpen chars position kind

/-! ## Positions -/

theorem eq_take_append_of_getElem? {chars : List Char} {position : Nat} {c : Char}
    (there : chars[position]? = some c) :
    chars = chars.take position ++ c :: chars.drop (position + 1) ∧
      (chars.take position).length = position := by
  obtain ⟨inside, rfl⟩ := List.getElem?_eq_some_iff.mp there
  constructor
  · rw [← List.drop_eq_getElem_cons inside, List.take_append_drop]
  · rw [List.length_take]
    omega

theorem getElem?_and_take_of_eq {chars front behind : List Char} {c : Char}
    (written : chars = front ++ c :: behind) :
    chars[front.length]? = some c ∧ chars.take front.length = front := by
  subst written
  simp

/-! ## Each error is its fault -/

section Faults

variable {table : SymbolTable} {pattern : String} {position : Nat}

theorem compileBody_eq_unbalanced_iff {found : GroupKind} :
    compileBody table pattern = .error (.unbalanced position found) ↔
      ClosesNothing pattern.toList position found := by
  constructor
  · intro refused
    rcases compileBody_cases table pattern with ⟨_, _, out⟩ | ⟨_, _, _, _, out⟩ |
      ⟨body, kind, behind, written, out⟩ | ⟨_, _, _, _, _, _, _, out⟩
    case inr.inr.inl =>
      rw [refused] at out
      simp only [Except.error.injEq, PatternError.unbalanced.injEq] at out
      obtain ⟨rfl, rfl⟩ := out
      obtain ⟨there, before⟩ := getElem?_and_take_of_eq written
      exact ⟨there, body, before.symm⟩
    all_goals
      rw [refused] at out
      simp at out
  · rintro ⟨there, body, before⟩
    obtain ⟨written, length⟩ := eq_take_append_of_getElem? there
    rw [← before] at written length
    rw [← length]
    exact compileBody_of_stray table written

theorem compileBody_eq_mismatched_iff {expected found : GroupKind} :
    compileBody table pattern = .error (.mismatched position expected found) ↔
      ClosesOther pattern.toList position expected found := by
  constructor
  · intro refused
    rcases compileBody_cases table pattern with ⟨_, _, out⟩ | ⟨_, _, _, _, out⟩ |
      ⟨_, _, _, _, out⟩ | ⟨around, kind, kind', body, behind, differ, written, out⟩
    case inr.inr.inr =>
      rw [refused] at out
      simp only [Except.error.injEq, PatternError.mismatched.injEq] at out
      obtain ⟨rfl, rfl, rfl⟩ := out
      obtain ⟨there, before⟩ := getElem?_and_take_of_eq written
      exact ⟨differ, there, around, body, before.symm⟩
    all_goals
      rw [refused] at out
      simp at out
  · rintro ⟨differ, there, around, body, before⟩
    obtain ⟨written, length⟩ := eq_take_append_of_getElem? there
    rw [← before] at written length
    rw [← length]
    exact compileBody_of_crossed table differ written

theorem compileBody_eq_unclosed_iff {kind : GroupKind} :
    compileBody table pattern = .error (.unclosed position kind) ↔
      LeavesOpen pattern.toList position kind := by
  constructor
  · intro refused
    rcases compileBody_cases table pattern with ⟨_, _, out⟩ | ⟨around, kind', body, written, out⟩ |
      ⟨_, _, _, _, out⟩ | ⟨_, _, _, _, _, _, _, out⟩
    case inr.inl =>
      rw [refused] at out
      simp only [Except.error.injEq, PatternError.unclosed.injEq] at out
      obtain ⟨rfl, rfl⟩ := out
      exact ⟨around, body, written.symm, rfl⟩
    all_goals
      rw [refused] at out
      simp at out
  · rintro ⟨around, body, written, rfl⟩
    exact compileBody_of_within table written.symm

theorem compileBody_eq_error_iff {error : PatternError} :
    compileBody table pattern = .error error ↔ BracketFault pattern.toList error := by
  cases error with
  | unbalanced position found => exact compileBody_eq_unbalanced_iff
  | mismatched position expected found => exact compileBody_eq_mismatched_iff
  | unclosed position kind => exact compileBody_eq_unclosed_iff

end Faults

/-! ## The fault decides -/

theorem exists_compile_eq_ok_iff (table : SymbolTable) (pattern : String) (capitalize : Bool) :
    (∃ g, compile table pattern capitalize = .ok g) ↔ Balanced pattern.toList := by
  have body_side : (∃ g, compileBody table pattern = .ok g) ↔ Balanced pattern.toList := by
    simp only [compileBody_eq_ok_iff, Balanced, Body.text_eq_iff]
    constructor
    · rintro ⟨_, body, written, _⟩
      exact ⟨body, written⟩
    · rintro ⟨body, written⟩
      exact ⟨_, body, written, rfl⟩
  rw [← body_side, compile_eq]
  cases compileBody table pattern <;> simp [Except.map]

/-- A pattern that is not balanced has one of the three faults. -/
theorem balanced_of_no_fault {pattern : String}
    (noneClosesNothing : ∀ position found, ¬ ClosesNothing pattern.toList position found)
    (noneClosesOther : ∀ position expected found,
      ¬ ClosesOther pattern.toList position expected found)
    (noneOpen : ∀ position kind, ¬ LeavesOpen pattern.toList position kind) :
    Balanced pattern.toList := by
  -- the fault would be the one for which any table's compilation refuses the pattern
  rcases compileBody_cases .empty pattern with ⟨body, written, _⟩ | ⟨_, _, _, _, out⟩ |
    ⟨_, _, _, _, out⟩ | ⟨_, _, _, _, _, _, _, out⟩
  · exact ⟨body, written.symm⟩
  · exact absurd (compileBody_eq_unclosed_iff.mp out) (noneOpen _ _)
  · exact absurd (compileBody_eq_unbalanced_iff.mp out) (noneClosesNothing _ _)
  · exact absurd (compileBody_eq_mismatched_iff.mp out) (noneClosesOther _ _ _)

/-- Whether a pattern compiles, and the error otherwise, is the same under every symbol table. -/
theorem compile_map_unit (table other : SymbolTable) (pattern : String)
    (capitalize capitalize' : Bool) :
    (compile table pattern capitalize).map (fun _ => ()) =
      (compile other pattern capitalize').map (fun _ => ()) := by
  cases first : compile table pattern capitalize with
  | ok g =>
    have balanced := (exists_compile_eq_ok_iff table pattern capitalize).mp ⟨g, first⟩
    obtain ⟨h, second⟩ := (exists_compile_eq_ok_iff other pattern capitalize').mpr balanced
    simp [second, Except.map]
  | error error =>
    have second : compile other pattern capitalize' = .error error := by
      rw [compile_eq_error_iff, compileBody_eq_error_iff] at first ⊢
      exact first
    simp [second, Except.map]

/-- **The bracket at fault.** Each error is reported exactly for its fault; a pattern without any
of the faults is balanced and compiles; and neither the symbol table nor the wish for a capital
letter has a part in it. -/
theorem compile_error_iff (table : SymbolTable) (pattern : String) (capitalize : Bool) :
    (∀ position found,
      compile table pattern capitalize = .error (.unbalanced position found) ↔
        ClosesNothing pattern.toList position found) ∧
    (∀ position expected found,
      compile table pattern capitalize = .error (.mismatched position expected found) ↔
        ClosesOther pattern.toList position expected found) ∧
    (∀ position kind,
      compile table pattern capitalize = .error (.unclosed position kind) ↔
        LeavesOpen pattern.toList position kind) ∧
    ((∃ g, compile table pattern capitalize = .ok g) ↔ Balanced pattern.toList) ∧
    ((∀ position found, ¬ ClosesNothing pattern.toList position found) →
      (∀ position expected found, ¬ ClosesOther pattern.toList position expected found) →
      (∀ position kind, ¬ LeavesOpen pattern.toList position kind) →
        Balanced pattern.toList) ∧
    ∀ (other : SymbolTable) (capitalize' : Bool),
      (compile other pattern capitalize').map (fun _ => ()) =
        (compile table pattern capitalize).map (fun _ => ()) := by
  simp only [compile_eq_error_iff]
  refine ⟨?_, ?_, ?_, exists_compile_eq_ok_iff _ _ _, balanced_of_no_fault, ?_⟩
  · exact fun position found => compileBody_eq_unbalanced_iff
  · exact fun position expected found => compileBody_eq_mismatched_iff
  · exact fun position kind => compileBody_eq_unclosed_iff
  · exact fun other capitalize' => compile_map_unit other table pattern capitalize' capitalize

end NamePattern
