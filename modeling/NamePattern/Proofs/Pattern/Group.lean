import NamePattern.Proofs.Generator.Minimal
import NamePattern.Proofs.Pattern.Reading

/-!
# A group is as good as what it gives

A pattern in the brackets of a symbol group gives what it gives without them, and wherever a pattern
contains such a group, the group can be replaced by another that gives the same
(`compile_inGroup`). When a whole group has been read, all that is left of it is one piece in the
draft around it (`Reading.read_inGroup`), so that what follows is read in the same way, only
elsewhere.
-/

namespace NamePattern

open Generator (oneOf join)

/-- A pattern in the brackets of a symbol group. -/
def inGroup (pattern : String) : String := "<" ++ pattern ++ ">"

theorem toList_inGroup (pattern : String) :
    (inGroup pattern).toList = '<' :: (pattern.toList ++ ['>']) := by
  simp [inGroup]

/-- The piece that a group is, as a part of the pattern around it. -/
theorem Body.toList_inGroup_text (body : Body) :
    (inGroup body.text).toList = (Piece.group .symbol body).chars := by
  rw [toList_inGroup, Body.text, String.toList_ofList]
  rfl

section Group

variable {table : SymbolTable} {pattern : String} {g : Generator}

/-- Reading a group leaves its generator behind as one more piece. -/
theorem Reading.read_inGroup (compiled : compileBody table pattern = .ok g) (reading : Reading)
    (position : Nat) (rest : List Char) :
    reading.read table position ((inGroup pattern).toList ++ rest) =
      (reading.modifyTop (·.push g)).read table (position + (inGroup pattern).length) rest := by
  obtain ⟨body, rfl, rfl⟩ := compileBody_eq_ok_iff.mp compiled
  rw [← String.length_toList, Body.toList_inGroup_text]
  exact Reading.read_piece table reading position (.group .symbol body) rest

/-- A fault before a group is the fault of the whole pattern. -/
theorem compileBody_around_of_error {before : String} {error : PatternError}
    (front : Reading.start.read table 0 before.toList = .error error) (behind : String) :
    compileBody table (before ++ inGroup pattern ++ behind) = .error error := by
  rw [compileBody_eq, String.toList_append, String.toList_append, List.append_assoc,
    Reading.read_append, front]

/-- Where there is no fault before a group, the pattern comes out as what is behind it decides. -/
theorem compileBody_around_of_ok (compiled : compileBody table pattern = .ok g) {before : String}
    {reading : Reading} (front : Reading.start.read table 0 before.toList = .ok reading)
    (behind : String) :
    compileBody table (before ++ inGroup pattern ++ behind) =
      (reading.modifyTop (·.push g)).outcome table (before.length + (inGroup pattern).length)
        behind.toList := by
  rw [compileBody_eq, String.toList_append, String.toList_append, List.append_assoc,
    Reading.read_append, front, Nat.zero_add, String.length_toList]
  simp only [Reading.read_inGroup compiled]
  rfl

theorem compileBody_inGroup (compiled : compileBody table pattern = .ok g) :
    compileBody table (inGroup pattern) = .ok g := by
  have front : Reading.start.read table 0 "".toList = .ok .start := rfl
  have alone := compileBody_around_of_ok compiled front ""
  rw [String.empty_append, String.append_empty] at alone
  rw [alone]
  show Except.ok (oneOf [join [g]]) = .ok g
  rw [Generator.oneOf_singleton, Generator.join_singleton]

end Group

/-! ## Replacing a group -/

/-- Where something stands after what ended at a position has come to end at another one; what
stands before a limit stays. -/
def slide (limit ended ends position : Nat) : Nat :=
  if position < limit then position else position + ends - ended

section Slide

variable {limit ended ends position : Nat}

theorem slide_of_lt (before : position < limit) : slide limit ended ends position = position :=
  if_pos before

theorem slide_of_le (outside : limit ≤ ended) (behind : ended ≤ position) :
    slide limit ended ends position = ends + (position - ended) := by
  rw [slide, if_neg (by omega)]
  omega

theorem slide_succ (outside : limit ≤ ended) (behind : ended ≤ position) :
    slide limit ended ends (position + 1) = slide limit ended ends position + 1 := by
  rw [slide_of_le outside behind, slide_of_le outside (Nat.le_succ_of_le behind)]
  omega

end Slide

section Replacing

variable {table : SymbolTable}

/-- A reading that goes on at another place than it would comes out in the same way, with what it
meets on its way moved. -/
theorem Reading.outcome_slide {reading : Reading} {limit ended : Nat} (outside : limit ≤ ended)
    (opened_before : ∀ group ∈ reading.opened, group.position < limit) (ends : Nat)
    (chars : List Char) :
    reading.outcome table ends chars =
      (reading.outcome table ended chars).mapError (PatternError.move (slide limit ended ends)) := by
  have kept : reading.move (slide limit ended ends) = reading :=
    Reading.move_eq_self _ reading fun group member => slide_of_lt (opened_before group member)
  have here : slide limit ended ends ended = ends := by
    rw [slide_of_le outside (Nat.le_refl ended)]
    omega
  have along : ∀ k, ended ≤ k → slide limit ended ends (k + 1) = slide limit ended ends k + 1 :=
    fun k behind => slide_succ outside behind
  have moved := Reading.outcome_move table reading along chars
  rw [kept, here] at moved
  exact moved

/-- Where a reading ends up does not depend on where it goes on; a fault that it comes to lies as far
behind, and a fault that it had before stays where it was. -/
theorem Reading.outcome_elsewhere {reading : Reading} {limit ended : Nat} (outside : limit ≤ ended)
    (opened_before : ∀ group ∈ reading.opened, group.position < limit) (ends : Nat)
    (chars : List Char) :
    (∀ g, reading.outcome table ended chars = .ok g → reading.outcome table ends chars = .ok g) ∧
    ∀ error, reading.outcome table ended chars = .error error →
      (error.position < limit ∧ reading.outcome table ends chars = .error error) ∨
      ∃ offset < chars.length, error.position = ended + offset ∧
        reading.outcome table ends chars = .error (error.withPosition (ends + offset)) := by
  rw [Reading.outcome_slide outside opened_before ends]
  refine ⟨?_, ?_⟩
  · intro g compiled
    rw [compiled]
    rfl
  · intro error refused
    rw [refused]
    show (error.position < limit ∧
        Except.error (error.withPosition (slide limit ended ends error.position)) = .error error) ∨
      ∃ offset < chars.length, error.position = ended + offset ∧
        Except.error (error.withPosition (slide limit ended ends error.position)) = _
    rcases Reading.position_of_outcome refused with ⟨group, member, same⟩ | ⟨first, last⟩
    · -- a group that was open already is never closed
      have before := opened_before group member
      rw [same] at before
      refine .inl ⟨before, ?_⟩
      rw [slide_of_lt before, PatternError.withPosition_position]
    · refine .inr ⟨error.position - ended, by omega, by omega, ?_⟩
      rw [slide_of_le outside first]

variable {pattern pattern' : String} {g : Generator}

/-- What comes out of a pattern with a group in it, when the group is replaced by another one that
gives the same. -/
theorem compileBody_replace (compiled : compileBody table pattern = .ok g)
    (compiled' : compileBody table pattern' = .ok g) (before behind : String) :
    (∀ h, compileBody table (before ++ inGroup pattern ++ behind) = .ok h →
      compileBody table (before ++ inGroup pattern' ++ behind) = .ok h) ∧
    ∀ error, compileBody table (before ++ inGroup pattern ++ behind) = .error error →
      (error.position < before.length ∧
        compileBody table (before ++ inGroup pattern' ++ behind) = .error error) ∨
      ∃ offset < behind.length,
        error.position = before.length + (inGroup pattern).length + offset ∧
        compileBody table (before ++ inGroup pattern' ++ behind) = .error (error.withPosition
          (before.length + (inGroup pattern').length + offset)) := by
  cases front : Reading.start.read table 0 before.toList with
  | error first =>
    -- the fault is in what is before the group
    obtain ⟨-, inside⟩ := Reading.position_of_read front
    rw [Nat.zero_add, String.length_toList] at inside
    rw [compileBody_around_of_error front, compileBody_around_of_error front]
    refine ⟨fun h compiles => compiles, ?_⟩
    intro error refused
    cases refused
    exact .inl ⟨inside, rfl⟩
  | ok reading =>
    have opened_before : ∀ group ∈ (reading.modifyTop (·.push g)).opened,
        group.position < before.length := by
      intro group member
      obtain ⟨original, among, same⟩ := Reading.mem_opened_modifyTop member
      have inside := Reading.position_lt_of_start front original among
      rwa [same, String.length_toList] at inside
    have outside : before.length ≤ before.length + (inGroup pattern).length :=
      Nat.le_add_right _ _
    rw [compileBody_around_of_ok compiled front, compileBody_around_of_ok compiled' front,
      ← String.length_toList (s := behind)]
    exact Reading.outcome_elsewhere outside opened_before _ behind.toList

end Replacing

/-- **A group is as good as what it gives.** A pattern that compiles gives the same in the brackets
of a symbol group, capitalised or not. And if two patterns give the same, then a group with one of
them can be replaced by a group with the other wherever it stands, even between texts that are no
patterns: either both come out as the same generator, or both are refused for the same bracket,
which stands before the group in both or behind it, as far from its end. -/
theorem compile_inGroup (table : SymbolTable) :
    (∀ pattern, (∃ g, compile table pattern false = .ok g) →
      ∀ capitalize, compile table (inGroup pattern) capitalize = compile table pattern capitalize) ∧
    ∀ pattern pattern' g, compile table pattern false = .ok g →
      compile table pattern' false = .ok g →
      ∀ before behind capitalize,
        (∀ h, compile table (before ++ inGroup pattern ++ behind) capitalize = .ok h ↔
          compile table (before ++ inGroup pattern' ++ behind) capitalize = .ok h) ∧
        ∀ error,
          compile table (before ++ inGroup pattern ++ behind) capitalize = .error error →
            (error.position < before.length ∧
              compile table (before ++ inGroup pattern' ++ behind) capitalize = .error error) ∨
            ∃ offset < behind.length,
              error.position = before.length + (inGroup pattern).length + offset ∧
              compile table (before ++ inGroup pattern' ++ behind) capitalize =
                .error (error.withPosition
                  (before.length + (inGroup pattern').length + offset)) := by
  refine ⟨?_, ?_⟩
  · intro pattern compiles capitalize
    obtain ⟨g, compiled⟩ := compiles
    rw [compile_false] at compiled
    rw [compile_eq, compile_eq, compiled, compileBody_inGroup compiled]
  · intro pattern pattern' g compiled compiled' before behind capitalize
    rw [compile_false] at compiled compiled'
    obtain ⟨stays, moves⟩ := compileBody_replace compiled compiled' before behind
    obtain ⟨returns, -⟩ := compileBody_replace compiled' compiled before behind
    refine ⟨?_, ?_⟩
    · intro h
      rw [compile_eq_ok_iff, compile_eq_ok_iff]
      refine exists_congr fun inner => and_congr_left fun _ => ?_
      exact ⟨stays inner, returns inner⟩
    · intro error refused
      simp only [compile_eq_error_iff] at refused ⊢
      exact moves error refused

/-- Two ways to write one literal, between an alternative and a closer of the wrong kind. -/
theorem compile_inGroup_literal :
    compile .empty "(ab)" false = .ok (.literal "ab") ∧
    compile .empty "<(a)>(b)" false = .ok (.literal "ab") ∧
    compile .empty (inGroup "(ab)") true = compile .empty "(ab)" true ∧
    (∀ h, compile .empty ("x|(" ++ inGroup "(ab)" ++ "y)") false = .ok h ↔
      compile .empty ("x|(" ++ inGroup "<(a)>(b)" ++ "y)") false = .ok h) ∧
    compile .empty ("x|(" ++ inGroup "(ab)" ++ "y>") false =
      .error (.mismatched 10 .literal .symbol) ∧
    ((10 < 3 ∧ compile .empty ("x|(" ++ inGroup "<(a)>(b)" ++ "y>") false =
        .error (.mismatched 10 .literal .symbol)) ∨
      ∃ offset < 2, 10 = 9 + offset ∧
        compile .empty ("x|(" ++ inGroup "<(a)>(b)" ++ "y>") false =
          .error (.mismatched (13 + offset) .literal .symbol)) := by
  have short : compile .empty "(ab)" false = .ok (.literal "ab") := rfl
  have long : compile .empty "<(a)>(b)" false = .ok (.literal "ab") := rfl
  have crossed : compile .empty ("x|(" ++ inGroup "(ab)" ++ "y>") false =
      .error (.mismatched 10 .literal .symbol) := rfl
  obtain ⟨wrapped, replaced⟩ := compile_inGroup .empty
  obtain ⟨same, -⟩ := replaced _ _ _ short long "x|(" "y)" false
  obtain ⟨-, moved⟩ := replaced _ _ _ short long "x|(" "y>" false
  exact ⟨short, long, wrapped _ ⟨_, short⟩ true, same, crossed, moved _ crossed⟩

end NamePattern
