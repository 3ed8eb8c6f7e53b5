import NamePattern.Proofs.Grammar.OpenGroups
import NamePattern.Proofs.Pattern.Brackets
import NamePattern.Proofs.Pattern.Reading

/-!
# Patterns that can still become whole

A pattern that is refused for a closer is refused for it whatever is written behind, and what stands
before the closer could have been gone on with; a pattern that ends inside groups becomes whole by
their closers, and by nothing shorter (`compile_error_no_return`). What stands before the fault is a
nesting in all cases, and a nesting can always be closed (`Nesting.balanced_append_closers`).
-/

namespace NamePattern

/-- The groups that a pattern leaves open, the innermost first. -/
def unmatched (pattern : String) : List GroupKind := openBehind [] pattern.toList

/-- The closers of a row of open groups, the innermost first. -/
def closers (opened : List GroupKind) : String := String.ofList (opened.map GroupKind.closer)

/-! ## Faults stay -/

section Faults

variable {chars : List Char} {position : Nat} {found : GroupKind}

theorem ClosesNothing.append (fault : ClosesNothing chars position found) (more : List Char) :
    ClosesNothing (chars ++ more) position found := by
  obtain ⟨there, balanced⟩ := fault
  obtain ⟨inside, -⟩ := List.getElem?_eq_some_iff.mp there
  refine ⟨?_, ?_⟩
  · rw [List.getElem?_append_left inside]
    exact there
  · rw [List.take_append_of_le_length (Nat.le_of_lt inside)]
    exact balanced

theorem ClosesOther.append {expected : GroupKind} (fault : ClosesOther chars position expected found)
    (more : List Char) : ClosesOther (chars ++ more) position expected found := by
  obtain ⟨differ, there, around, body, before⟩ := fault
  obtain ⟨inside, -⟩ := List.getElem?_eq_some_iff.mp there
  refine ⟨differ, ?_, around, body, ?_⟩
  · rw [List.getElem?_append_left inside]
    exact there
  · rw [List.take_append_of_le_length (Nat.le_of_lt inside)]
    exact before

/-- A closer that does not fit stays the fault of all longer texts. -/
theorem BracketFault.append {error : PatternError} (fault : BracketFault chars error)
    (closer : error.atCloser = true) (more : List Char) : BracketFault (chars ++ more) error := by
  cases error with
  | unbalanced position found => exact ClosesNothing.append fault more
  | mismatched position expected found => exact ClosesOther.append fault more
  | unclosed position kind => simp [PatternError.atCloser] at closer

/-- Before a closer that does not fit there is a nesting. -/
theorem BracketFault.exists_nesting {error : PatternError} (fault : BracketFault chars error)
    (closer : error.atCloser = true) :
    ∃ nesting : Nesting, nesting.chars = chars.take error.position := by
  cases error with
  | unbalanced position found =>
    obtain ⟨-, body, before⟩ := fault
    exact ⟨.root body, before⟩
  | mismatched position expected found =>
    obtain ⟨-, -, around, body, before⟩ := fault
    exact ⟨.within around expected body, before⟩
  | unclosed position kind => simp [PatternError.atCloser] at closer

end Faults

/-! ## Closing what is open -/

theorem Nesting.exists_compile_append_closers (table : SymbolTable) (nesting : Nesting)
    {pattern : String} (written : nesting.chars = pattern.toList) (capitalize : Bool) :
    ∃ g, compile table (pattern ++ closers nesting.openKinds) capitalize = .ok g := by
  rw [exists_compile_eq_ok_iff, String.toList_append, closers, String.toList_ofList, ← written]
  exact nesting.balanced_append_closers

/-- A text that makes another one whole has a closer for each group that is open there. -/
theorem Balanced.length_openBehind_le {front back : List Char} (balanced : Balanced (front ++ back)) :
    (openBehind [] front).length ≤ back.length := by
  obtain ⟨body, written⟩ := balanced
  have closed := openBehind_body [] body
  rw [written, openBehind_append] at closed
  have many := length_le_openBehind_add (openBehind [] front) back
  rw [closed, List.length_nil, Nat.zero_add] at many
  exact many

/-- **No return and always a way on.** Under every symbol table and with or without a capital
letter: a pattern that is refused for a closer is refused in the same way whatever is written
behind it, while what stands before the closer can be gone on with to a pattern that compiles. A
pattern that ends inside groups compiles with the closers of these groups behind it, the innermost
first, and with nothing that is shorter than they are. -/
theorem compile_error_no_return (table : SymbolTable) (pattern : String) (capitalize : Bool) :
    (∀ error, compile table pattern capitalize = .error error → error.atCloser = true →
      (∀ more, compile table (pattern ++ more) capitalize = .error error) ∧
      ∃ more g, compile table (String.ofList (pattern.toList.take error.position) ++ more)
        capitalize = .ok g) ∧
    ∀ position kind, compile table pattern capitalize = .error (.unclosed position kind) →
      (∃ g, compile table (pattern ++ closers (unmatched pattern)) capitalize = .ok g) ∧
      ∀ more : String, more.length < (unmatched pattern).length →
        ∀ g, compile table (pattern ++ more) capitalize ≠ .ok g := by
  refine ⟨?_, ?_⟩
  · intro error refused closer
    rw [compile_eq_error_iff, compileBody_eq_error_iff] at refused
    refine ⟨?_, ?_⟩
    · intro more
      rw [compile_eq_error_iff, compileBody_eq_error_iff, String.toList_append]
      exact refused.append closer more.toList
    · obtain ⟨nesting, written⟩ := refused.exists_nesting closer
      refine ⟨closers nesting.openKinds, ?_⟩
      apply nesting.exists_compile_append_closers table
      rw [written, String.toList_ofList]
  · intro position kind refused
    rw [compile_eq_error_iff, compileBody_eq_error_iff] at refused
    obtain ⟨around, body, written, -⟩ := refused
    refine ⟨?_, ?_⟩
    · have opened : unmatched pattern = (Nesting.within around kind body).openKinds := by
        rw [unmatched, ← written, Nesting.openBehind_chars]
      rw [opened]
      exact Nesting.exists_compile_append_closers table _ written capitalize
    · intro more shorter g compiled
      have balanced := (exists_compile_eq_ok_iff table _ capitalize).mp ⟨g, compiled⟩
      rw [String.toList_append] at balanced
      have enough := balanced.length_openBehind_le
      rw [String.length_toList] at enough
      exact absurd shorter (Nat.not_lt.mpr enough)

/-- A closer of the wrong kind behind two openers, and the two openers alone. -/
theorem compile_error_no_return_crossed :
    compile .empty "(a<b)" true = .error (.mismatched 4 .symbol .literal) ∧
    (∀ more, compile .empty ("(a<b)" ++ more) true = .error (.mismatched 4 .symbol .literal)) ∧
    (∃ more g, compile .empty (String.ofList ("(a<b)".toList.take 4) ++ more) true = .ok g) ∧
    compile .empty "(a<b" true = .error (.unclosed 2 .symbol) ∧
    closers (unmatched "(a<b") = ">)" ∧
    (∃ g, compile .empty ("(a<b" ++ closers (unmatched "(a<b")) true = .ok g) ∧
    ∀ more : String, more.length < 2 → ∀ g, compile .empty ("(a<b" ++ more) true ≠ .ok g := by
  have crossed : compile .empty "(a<b)" true = .error (.mismatched 4 .symbol .literal) := rfl
  have opened : compile .empty "(a<b" true = .error (.unclosed 2 .symbol) := rfl
  have two : unmatched "(a<b" = [.symbol, .literal] := by decide
  obtain ⟨stays, before⟩ := (compile_error_no_return .empty "(a<b)" true).1 _ crossed rfl
  obtain ⟨closed, shorter⟩ := (compile_error_no_return .empty "(a<b" true).2 _ _ opened
  rw [two] at shorter
  exact ⟨crossed, stays, before, opened, by decide, closed, shorter⟩

end NamePattern
