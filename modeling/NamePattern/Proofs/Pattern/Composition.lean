import NamePattern.Proofs.Generator.Building
import NamePattern.Proofs.Pattern.Group

/-!
# Putting patterns together

Two patterns in groups, one behind the other, draw what the first draws and then what the second
draws; two patterns with a bar between them give what either gives (`compile_composed`). The
generator of the whole is not made of those of its parts: literals merge where the groups meet, and
the alternatives of both patterns become options of one choice. What was read is put together first
(`compileBody_inGroup_inGroup`, `compileBody_bar`), and building keeps the rest.
-/

namespace NamePattern

open Generator (oneOf join generate generate_eq_sample Gives)

/-! ## One behind the other -/

section Grouped

variable {table : SymbolTable} {pattern pattern' : String} {g h : Generator}

theorem compileBody_inGroup_inGroup (compiled : compileBody table pattern = .ok g)
    (compiled' : compileBody table pattern' = .ok h) :
    compileBody table (inGroup pattern ++ inGroup pattern') = .ok (join [g, h]) := by
  have front := Reading.read_inGroup compiled .start 0 (inGroup pattern').toList
  have back := Reading.read_inGroup compiled' (Reading.start.modifyTop (·.push g))
    (0 + (inGroup pattern).length) []
  rw [List.append_nil] at back
  rw [compileBody_eq, String.toList_append, front, back]
  rfl

end Grouped

/-! ## One or the other -/

/-- The alternatives of one body and then those of another. -/
def Body.or : Body → Body → Body
  | .last alternative, other => .bar alternative other
  | .bar alternative rest, other => .bar alternative (rest.or other)

theorem Body.chars_or (body other : Body) :
    (body.or other).chars = body.chars ++ '|' :: other.chars := by
  cases body with
  | last alternative => rfl
  | bar alternative rest =>
    have later := Body.chars_or rest other
    rw [Body.or, Body.chars, later, Body.chars, List.append_assoc, List.cons_append]

theorem Body.text_or (body other : Body) : (body.or other).text = body.text ++ "|" ++ other.text := by
  rw [Body.text_eq_iff, Body.chars_or]
  simp [Body.text]

section Alternatives

variable (table : SymbolTable) (kind : GroupKind)

theorem Body.alternatives_or (body other : Body) :
    (body.or other).alternatives table kind =
      body.alternatives table kind ++ other.alternatives table kind := by
  cases body with
  | last alternative => rfl
  | bar alternative rest =>
    have later := Body.alternatives_or rest other
    rw [Body.or, Body.alternatives, later, Body.alternatives, List.cons_append]

theorem Body.alternatives_ne_nil (body : Body) : body.alternatives table kind ≠ [] := by
  cases body with
  | last alternative => exact List.cons_ne_nil _ _
  | bar alternative rest => exact List.cons_ne_nil _ _

end Alternatives

section Barred

variable {table : SymbolTable} {pattern pattern' : String} {g h : Generator}

/-- A pattern with a bar between two patterns is a choice among the options of both. -/
theorem compileBody_bar (compiled : compileBody table pattern = .ok g)
    (compiled' : compileBody table pattern' = .ok h) :
    ∃ front back, front ≠ [] ∧ back ≠ [] ∧ oneOf front = g ∧ oneOf back = h ∧
      compileBody table (pattern ++ "|" ++ pattern') = .ok (oneOf (front ++ back)) := by
  obtain ⟨body, rfl, rfl⟩ := compileBody_eq_ok_iff.mp compiled
  obtain ⟨other, rfl, rfl⟩ := compileBody_eq_ok_iff.mp compiled'
  refine ⟨body.alternatives table .symbol, other.alternatives table .symbol,
    body.alternatives_ne_nil table .symbol, other.alternatives_ne_nil table .symbol, rfl, rfl, ?_⟩
  rw [← Body.text_or, compileBody_text, Body.generator, Body.alternatives_or]

end Barred

/-! ## Both ways -/

/-- How many words are read when a text is drawn with the words from a position on. -/
def Generator.wordsRead (words : Words) (g : Generator) (position : Nat) : Nat :=
  (generate words g position).2 - position

theorem Generator.wordsRead_join_pair (words : Words) (first second : Generator)
    (position : Nat) :
    (join [first, second]).wordsRead words position = first.wordsRead words position +
      second.wordsRead words (generate words first position).2 := by
  have front := first.le_sample words position
  have back := second.le_sample words (sample words first position).2
  simp only [wordsRead, generate_eq_sample, sample_join_pair]
  omega

/-- **Composition.** Two patterns that compile also compile one behind the other, each in a group,
and with a bar between them. In the first case a sample is one of the first pattern and then one of
the second, from the words that the first has left; combinations multiply and lengths add up. In
the second case the texts are those of both patterns; combinations add up, and the lengths are the
least and the largest. Combinations stop at 2 ^ 128 - 1. -/
theorem compile_composed {table : SymbolTable} {pattern pattern' : String} {g h : Generator}
    (compiled : compile table pattern false = .ok g)
    (compiled' : compile table pattern' false = .ok h) :
    (∃ both, compile table (inGroup pattern ++ inGroup pattern') false = .ok both ∧
      (∀ words position, generate words both position =
        ((generate words g position).1 ++ (generate words h (generate words g position).2).1,
          (generate words h (generate words g position).2).2)) ∧
      (∀ words position, both.wordsRead words position =
        g.wordsRead words position + h.wordsRead words (generate words g position).2) ∧
      both.combinations = min (g.combinations * h.combinations) (2 ^ 128 - 1) ∧
      both.minLength = g.minLength + h.minLength ∧
      both.maxLength = g.maxLength + h.maxLength) ∧
    ∃ either, compile table (pattern ++ "|" ++ pattern') false = .ok either ∧
      (∀ text, Gives either text ↔ Gives g text ∨ Gives h text) ∧
      either.combinations = min (g.combinations + h.combinations) (2 ^ 128 - 1) ∧
      either.minLength = min g.minLength h.minLength ∧
      either.maxLength = max g.maxLength h.maxLength := by
  rw [compile_false] at compiled compiled'
  simp only [compile_false]
  refine ⟨?_, ?_⟩
  · refine ⟨join [g, h], compileBody_inGroup_inGroup compiled compiled', ?_,
      fun words position => Generator.wordsRead_join_pair words g h position,
      Generator.combinations_join_pair g h, Generator.minLength_join_pair g h,
      Generator.maxLength_join_pair g h⟩
    intro words position
    simp only [generate_eq_sample]
    exact Generator.sample_join_pair g h words position
  · obtain ⟨front, back, filled, filled', rfl, rfl, compiles⟩ := compileBody_bar compiled compiled'
    refine ⟨oneOf (front ++ back), compiles, ?_,
      Generator.combinations_oneOf_append filled filled',
      Generator.minLength_oneOf_append filled filled',
      Generator.maxLength_oneOf_append filled filled'⟩
    intro text
    exact Generator.gives_oneOf_append filled filled'

/-- A pattern with a bar at its end and one that comes to a single literal, whose text would merge
with a neighbour. -/
theorem compile_composed_bar :
    compile .empty "k|" false = .ok (.choice [.literal "k", .literal ""]) ∧
    compile .empty "a<(b)>" false = .ok (.literal "ab") ∧
    (∃ both, compile .empty (inGroup "k|" ++ inGroup "a<(b)>") false = .ok both ∧
      both.combinations = 2 ∧ both.minLength = 2 ∧ both.maxLength = 3) ∧
    ∃ either, compile .empty ("k|" ++ "|" ++ "a<(b)>") false = .ok either ∧
      either.combinations = 3 ∧ either.minLength = 0 ∧ either.maxLength = 2 := by
  have barred : compile .empty "k|" false = .ok (.choice [.literal "k", .literal ""]) := rfl
  have merged : compile .empty "a<(b)>" false = .ok (.literal "ab") := rfl
  obtain ⟨⟨both, compiled, -, -, product, shortest, longest⟩,
    either, compiled', -, sum, shortest', longest'⟩ := compile_composed barred merged
  refine ⟨barred, merged, ⟨both, compiled, ?_, ?_, ?_⟩, either, compiled', ?_, ?_, ?_⟩
  · rw [product]
    rfl
  · rw [shortest]
    rfl
  · rw [longest]
    rfl
  · rw [sum]
    rfl
  · rw [shortest']
    rfl
  · rw [longest']
    rfl

end NamePattern
