import NamePattern.Pattern.Written
import NamePattern.Proofs.Grammar.Nesting
import NamePattern.Proofs.Grammar.Unambiguous

/-!
# How a pattern comes out

The reading of a pattern up to some point is determined by the nesting there
(`Reading.read_nesting`): its open groups are those of the nesting, and its drafts hold what the
bodies of the nesting mean. So the four ways in which a pattern can come out are told apart by its
text alone (`compileBody_cases`), and a pattern compiles exactly if it is written from a body
(`compile_meaning`).
-/

namespace NamePattern

/-! ## Reading a nesting -/

namespace Nesting

/-- What has been read when this much of a pattern has been read. -/
def reading (table : SymbolTable) : Nesting → Reading
  | .root body => Reading.start.modifyTop (Draft.readBody table .symbol · body)
  | .within around kind body =>
      ((around.reading table).openGroup kind around.chars.length).modifyTop
        (Draft.readBody table kind · body)

theorem opened_reading_within (table : SymbolTable) (around : Nesting) (kind : GroupKind)
    (body : Body) :
    ((within around kind body).reading table).opened =
      { kind, position := around.chars.length, draft := Draft.readBody table kind {} body } ::
        (around.reading table).opened := rfl

theorem reading_root (table : SymbolTable) (body : Body) :
    (root body).reading table = { root := Draft.readBody table .symbol {} body } := rfl

end Nesting

/-- Reading what a nesting is written as, whatever follows. -/
theorem Reading.read_nesting (table : SymbolTable) (nesting : Nesting) (rest : List Char) :
    Reading.start.read table 0 (nesting.chars ++ rest) =
      (nesting.reading table).read table nesting.chars.length rest := by
  induction nesting generalizing rest with
  | root body =>
    have body_read := Reading.read_body table .start 0 body rest
    rw [Nat.zero_add] at body_read
    exact body_read
  | within around kind body ih =>
    -- first what is around the group, then its opener, then the body as far as it goes
    rw [Nesting.chars, List.append_assoc, ih, List.cons_append]
    simp only [Reading.read_cons, Reading.step_opener]
    rw [Reading.read_body]
    have inside : ((around.reading table).openGroup kind around.chars.length).kind = kind := rfl
    rw [inside, Nesting.reading]
    congr 1
    simp only [List.length_append, List.length_cons]
    omega

/-! ## The four outcomes -/

section Outcomes

variable (table : SymbolTable) {pattern : String}

theorem compileBody_of_root {body : Body} (written : pattern.toList = body.chars) :
    compileBody table pattern = .ok (body.generator table .symbol) := by
  rw [← Body.text_eq_iff.mpr written.symm]
  exact compileBody_text table body

theorem compileBody_of_within {around : Nesting} {kind : GroupKind} {body : Body}
    (written : pattern.toList = (Nesting.within around kind body).chars) :
    compileBody table pattern = .error (.unclosed around.chars.length kind) := by
  have read := Reading.read_nesting table (.within around kind body) []
  rw [List.append_nil, ← written, Reading.read_nil] at read
  simp only [compileBody_eq, read, Reading.finish, Nesting.opened_reading_within]

theorem compileBody_of_stray {body : Body} {kind : GroupKind} {behind : List Char}
    (written : pattern.toList = body.chars ++ kind.closer :: behind) :
    compileBody table pattern = .error (.unbalanced body.chars.length kind) := by
  have read := Reading.read_nesting table (.root body) (kind.closer :: behind)
  rw [Nesting.chars, ← written] at read
  simp only [compileBody_eq, read, Reading.read_cons, Reading.step_closer, Reading.closeGroup,
    Nesting.reading_root]

theorem compileBody_of_crossed {around : Nesting} {expected found : GroupKind} {body : Body}
    {behind : List Char} (differ : expected ≠ found)
    (written : pattern.toList =
      (Nesting.within around expected body).chars ++ found.closer :: behind) :
    compileBody table pattern =
      .error (.mismatched (Nesting.within around expected body).chars.length expected found) := by
  have read := Reading.read_nesting table (.within around expected body) (found.closer :: behind)
  rw [← written] at read
  simp only [compileBody_eq, read, Reading.read_cons, Reading.step_closer, Reading.closeGroup,
    Nesting.opened_reading_within, differ, if_false]

end Outcomes

/-- How a pattern comes out, by its text alone: it is written from a body, or it ends inside a
group, or it comes to a closer where no group is open, or to one of the wrong kind. -/
theorem compileBody_cases (table : SymbolTable) (pattern : String) :
    (∃ body : Body, pattern.toList = body.chars ∧
      compileBody table pattern = .ok (body.generator table .symbol)) ∨
    (∃ (around : Nesting) (kind : GroupKind) (body : Body),
      pattern.toList = (Nesting.within around kind body).chars ∧
      compileBody table pattern = .error (.unclosed around.chars.length kind)) ∨
    (∃ (body : Body) (kind : GroupKind) (behind : List Char),
      pattern.toList = body.chars ++ kind.closer :: behind ∧
      compileBody table pattern = .error (.unbalanced body.chars.length kind)) ∨
    ∃ (around : Nesting) (expected found : GroupKind) (body : Body) (behind : List Char),
      expected ≠ found ∧
      pattern.toList = (Nesting.within around expected body).chars ++ found.closer :: behind ∧
      compileBody table pattern =
        .error (.mismatched (Nesting.within around expected body).chars.length expected found) := by
  rcases Nesting.exists_or_stuck pattern.toList with
    ⟨whole, written⟩ | ⟨front, kind, behind, written, stuck⟩
  · cases whole with
    | root body => exact .inl ⟨body, written.symm, compileBody_of_root table written.symm⟩
    | within around kind body =>
      exact .inr (.inl ⟨around, kind, body, written.symm, compileBody_of_within table written.symm⟩)
  · cases front with
    | root body =>
      exact .inr (.inr (.inl ⟨body, kind, behind, written, compileBody_of_stray table written⟩))
    | within around expected body =>
      have differ : expected ≠ kind := fun same => stuck (congrArg some same)
      exact .inr (.inr (.inr ⟨around, expected, kind, body, behind, differ, written,
        compileBody_of_crossed table differ written⟩))

/-! ## Capitalising changes no outcome -/

theorem compile_eq_error_iff {table : SymbolTable} {pattern : String} {capitalize : Bool}
    {error : PatternError} :
    compile table pattern capitalize = .error error ↔ compileBody table pattern = .error error := by
  rw [compile_eq]
  cases compileBody table pattern <;> simp [Except.map]

/-- What compiles to be capitalised is what compiles without that, under one more node. -/
theorem compile_eq_ok_iff {table : SymbolTable} {pattern : String} {capitalize : Bool}
    {g : Generator} :
    compile table pattern capitalize = .ok g ↔
      ∃ inner, compileBody table pattern = .ok inner ∧
        (if capitalize then inner.capitalized else inner) = g := by
  rw [compile_eq]
  cases compileBody table pattern <;> simp [Except.map]

theorem compile_false (table : SymbolTable) (pattern : String) :
    compile table pattern false = compileBody table pattern := by
  rw [compile_eq]
  cases compileBody table pattern <;> rfl

theorem compileBody_eq_ok_iff {table : SymbolTable} {pattern : String} {g : Generator} :
    compileBody table pattern = .ok g ↔
      ∃ body : Body, body.text = pattern ∧ body.generator table .symbol = g := by
  constructor
  · intro compiled
    rcases compileBody_cases table pattern with ⟨body, written, out⟩ | ⟨_, _, _, _, out⟩ |
      ⟨_, _, _, _, out⟩ | ⟨_, _, _, _, _, _, _, out⟩
    · rw [compiled, Except.ok.injEq] at out
      exact ⟨body, Body.text_eq_iff.mpr written.symm, out.symm⟩
    all_goals
      rw [compiled] at out
      simp at out
  · rintro ⟨body, rfl, rfl⟩
    exact compileBody_text table body

/-- **The meaning of patterns.** A pattern compiles exactly if it is written from a body; the body
is the only one that is written so, and the generator of the pattern is what it means. -/
theorem compile_meaning (table : SymbolTable) (pattern : String) :
    ((∃ g, compile table pattern false = .ok g) ↔ ∃ body : Body, body.text = pattern) ∧
    ∀ g, compile table pattern false = .ok g ↔
      ∃ body : Body, body.text = pattern ∧ (∀ other : Body, other.text = pattern → other = body) ∧
        body.generator table .symbol = g := by
  simp only [compile_false, compileBody_eq_ok_iff]
  refine ⟨⟨?_, ?_⟩, fun g => ⟨?_, ?_⟩⟩
  · rintro ⟨_, body, written, _⟩
    exact ⟨body, written⟩
  · rintro ⟨body, written⟩
    exact ⟨_, body, written, rfl⟩
  · rintro ⟨body, written, means⟩
    refine ⟨body, written, fun other same => ?_, means⟩
    exact Body.text_injective (same.trans written.symm)
  · rintro ⟨body, written, _, means⟩
    exact ⟨body, written, means⟩

end NamePattern
