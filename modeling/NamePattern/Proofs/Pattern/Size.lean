import NamePattern.Proofs.Generator.Building
import NamePattern.Proofs.Pattern.Dependence
import NamePattern.Proofs.Pattern.Spelling

/-!
# How many nodes a pattern compiles to

A pattern pays for the nodes of its generator: one for each character, and for a character that is
read as a symbol one more for each of its candidates (`charWeight`). What a reading holds is paid
for by the characters that were read (`Reading.held_read`), where an opener pays one node in advance
for its group: its closer pays the other one of the two that a group may need, and a bar pays the
node of the alternative that it ends. The top level has no brackets, so a generator may have two
nodes more than its pattern weighs (`nodeCount_compile_le`).
-/

namespace NamePattern

open Generator (nodeCount oneOf join nodeCount_oneOf_le nodeCount_join_le)

/-! ## Weights -/

/-- What a character pays for where it is read in a group of a kind. -/
def charWeight (table : SymbolTable) (kind : GroupKind) (c : Char) : Nat :=
  if isReserved c then 1
  else match kind with
    | .symbol => 1 + (table.lookup c).length
    | .literal => 1

/-- What a text pays for, where these groups are open before it. -/
def weightIn (table : SymbolTable) (opened : List GroupKind) : List Char → Nat
  | [] => 0
  | c :: rest => charWeight table (kindIn opened) c + weightIn table (openAfter opened c) rest

/-- The weight of a pattern: each character weighs one, and each symbol as much more as it has
candidates. -/
def weightOf (table : SymbolTable) (pattern : String) : Nat := weightIn table [] pattern.toList

section Weights

variable (table : SymbolTable) {kind : GroupKind} {c : Char}

theorem charWeight_of_isReserved (reserved : isReserved c = true) : charWeight table kind c = 1 := by
  simp [charWeight, reserved]

theorem charWeight_mark (mark : Mark) : charWeight table kind mark.char = 1 :=
  charWeight_of_isReserved table (isReserved_char mark)

theorem charWeight_symbol (ordinary : isReserved c = false) :
    charWeight table .symbol c = 1 + (table.lookup c).length := by
  simp [charWeight, ordinary]

theorem charWeight_literal (c : Char) : charWeight table .literal c = 1 := by
  simp [charWeight]

/-- An ordinary character pays for its piece. -/
theorem nodeCount_charPiece_le (kind : GroupKind) (ordinary : isReserved c = false) :
    (charPiece table kind c).nodeCount ≤ charWeight table kind c := by
  cases kind with
  | symbol =>
    have candidates : total (((table.lookup c).map Generator.literal).map nodeCount) =
        (table.lookup c).length := by
      rw [List.map_map, ← total_map_one]
      exact congrArg total (List.map_congr_left fun text _ => Generator.nodeCount_literal text)
    rw [charWeight_symbol table ordinary, ← candidates]
    exact nodeCount_oneOf_le _
  | literal =>
    rw [charWeight_literal]
    show (Generator.literal (String.singleton c)).nodeCount ≤ 1
    rw [Generator.nodeCount_literal]

end Weights

/-! ## Nodes held in a reading -/

/-- The nodes of the generators in a draft. -/
def Draft.held (draft : Draft) : Nat :=
  total (draft.alternatives.map nodeCount) + total (draft.pieces.map nodeCount)

theorem Draft.held_push (draft : Draft) (piece : Generator) :
    (draft.push piece).held = draft.held + piece.nodeCount := by
  simp only [held, push, List.map_cons, total_cons]
  omega

/-- The alternative that is ended has at most one node more than its pieces. -/
theorem Draft.held_endAlternative_le (draft : Draft) :
    draft.endAlternative.held ≤ draft.held + 1 := by
  have ended := nodeCount_join_le draft.pieces.reverse
  rw [List.map_reverse, total_reverse] at ended
  simp only [held, endAlternative, List.map_cons, List.map_nil, total_cons, total_nil]
  omega

/-- The generator of a body has at most two nodes more than its draft: one for its last alternative,
and one for the choice among the alternatives. -/
theorem Draft.nodeCount_generator_le (draft : Draft) :
    draft.generator.nodeCount ≤ draft.held + 2 := by
  have built := nodeCount_oneOf_le draft.endAlternative.alternatives.reverse
  have ended := draft.held_endAlternative_le
  rw [List.map_reverse, total_reverse] at built
  rw [generator]
  simp only [held] at ended ⊢
  omega

namespace Reading

/-- The nodes of the generators in a reading, and one for each open group. -/
def held (reading : Reading) : Nat :=
  reading.root.held + total (reading.opened.map fun group => group.draft.held + 1)

theorem held_openGroup (reading : Reading) (kind : GroupKind) (position : Nat) :
    (reading.openGroup kind position).held = reading.held + 1 := by
  have fresh : Draft.held {} = 0 := rfl
  simp only [held, openGroup, List.map_cons, total_cons, fresh]
  omega

/-- A reading comes to hold no more than the draft on top does. -/
theorem held_modifyTop_le {change : Draft → Draft} {more : Nat}
    (grows : ∀ draft, (change draft).held ≤ draft.held + more) (reading : Reading) :
    (reading.modifyTop change).held ≤ reading.held + more := by
  obtain ⟨root, _ | ⟨innermost, around⟩⟩ := reading
  · have top := grows root
    simp only [held, modifyTop, List.map_nil, total_nil]
    omega
  · have top := grows innermost.draft
    simp only [held, modifyTop, List.map_cons, total_cons]
    omega

variable {table : SymbolTable} {reading next : Reading} {position : Nat}

/-- A character pays for what is held because of it. -/
theorem held_step {c : Char} (stepped : reading.step table position c = .ok next) :
    next.held ≤ reading.held + charWeight table reading.kind c := by
  rcases step_ok_cases stepped with ⟨kind, rfl, rfl⟩ |
    ⟨innermost, around, rfl, open_groups, rfl⟩ | ⟨rfl, rfl⟩ | ⟨ordinary, rfl⟩
  · have opener : charWeight table reading.kind kind.opener = 1 := charWeight_mark table (.opens kind)
    rw [held_openGroup, opener]
  · -- the opener has paid for one node of the group, and the closer pays for the other one
    have group := innermost.draft.nodeCount_generator_le
    have pushed : ∀ draft : Draft, (draft.push innermost.draft.generator).held ≤
        draft.held + (innermost.draft.held + 2) := by
      intro draft
      rw [Draft.held_push]
      omega
    have closed := held_modifyTop_le pushed { reading with opened := around }
    have closer : charWeight table reading.kind innermost.kind.closer = 1 :=
      charWeight_mark table (.closes innermost.kind)
    rw [closer]
    simp only [held, open_groups, List.map_cons, total_cons] at closed ⊢
    omega
  · have bar : charWeight table reading.kind '|' = 1 := charWeight_mark table .bar
    rw [bar]
    exact held_modifyTop_le Draft.held_endAlternative_le reading
  · apply held_modifyTop_le
    intro draft
    have piece := nodeCount_charPiece_le table reading.kind ordinary
    rw [Draft.held_push]
    omega

/-- The characters of a text pay for what is held because of them. -/
theorem held_read {chars : List Char} (finished : reading.read table position chars = .ok next) :
    next.held ≤ reading.held + weightIn table reading.kinds chars := by
  induction chars generalizing reading position with
  | nil =>
    cases finished
    exact Nat.le_add_right _ _
  | cons c rest ih =>
    obtain ⟨middle, stepped, finished⟩ := read_cons_eq_ok_iff.mp finished
    have first := held_step stepped
    have later := ih finished
    rw [kind_eq_kindIn] at first
    rw [kinds_step stepped] at later
    rw [weightIn]
    omega

/-- A text without symbols weighs as much as it has characters. -/
theorem weightIn_of_symbolsIn {chars : List Char}
    (finished : reading.read table position chars = .ok next)
    (none : symbolsIn reading.kinds chars = []) :
    weightIn table reading.kinds chars = chars.length := by
  induction chars generalizing reading position with
  | nil => rfl
  | cons c rest ih =>
    obtain ⟨middle, stepped, finished⟩ := read_cons_eq_ok_iff.mp finished
    have missing := List.eq_nil_iff_forall_not_mem.mp none
    have later : symbolsIn middle.kinds rest = [] := by
      rw [List.eq_nil_iff_forall_not_mem]
      intro symbol member
      exact missing symbol (mem_symbolsIn_of_step stepped member)
    have one : charWeight table reading.kind c = 1 := by
      cases ordinary : isReserved c with
      | true => exact charWeight_of_isReserved table ordinary
      | false =>
        cases kind : reading.kind with
        | literal => exact charWeight_literal table c
        | symbol => exact absurd (mem_symbolsIn_self kind ordinary) (missing c)
    rw [weightIn, ← kind_eq_kindIn, one, ← kinds_step stepped, ih finished later, List.length_cons,
      Nat.add_comm]

end Reading

/-! ## Compiled patterns -/

/-- **Generators are linear in their patterns.** The generator of a pattern has at most two nodes
more than the pattern weighs, where each character weighs one and a symbol as much more as it has
candidates. To be capitalised takes just one node more. Without symbols the nodes are at most two
more than the characters, however deep the groups are nested. -/
theorem nodeCount_compile_le {table : SymbolTable} {pattern : String} {g : Generator}
    (compiled : compile table pattern false = .ok g) :
    g.nodeCount ≤ 2 + weightOf table pattern ∧
    (∃ capitalized, compile table pattern true = .ok capitalized ∧
      capitalized.nodeCount = g.nodeCount + 1) ∧
    (symbolsOf pattern = [] → g.nodeCount ≤ pattern.length + 2) := by
  have body := compiled
  rw [compile_false] at body
  obtain ⟨root, finished, rfl⟩ := exists_read_of_compileBody body
  have paid := Reading.held_read finished
  have built := root.nodeCount_generator_le
  have bound : root.generator.nodeCount ≤ 2 + weightOf table pattern := by
    have nothing : Reading.start.held = 0 := rfl
    have all : Reading.held { root } = root.held := rfl
    rw [nothing, all, Reading.kinds_start] at paid
    rw [weightOf]
    omega
  refine ⟨bound, ⟨.capitalize root.generator, ?_, ?_⟩, ?_⟩
  · rw [compile_true, compiled]
    rfl
  · rw [Generator.nodeCount_capitalize, Nat.add_comm]
  · intro none
    have plain : weightOf table pattern = pattern.length := by
      rw [weightOf, ← Reading.kinds_start, Reading.weightIn_of_symbolsIn finished none,
        String.length_toList]
    omega

/-- Patterns that have as many nodes as they may have: a symbol with two candidates and a choice
between empty texts, side by side, and two such choices in groups of both kinds. -/
theorem nodeCount_compile_le_tight :
    let table := SymbolTable.ofList [('v', ["a", "e"])]
    let blank := Generator.choice [.literal "", .literal ""]
    let g := Generator.choice [
      .concatenation [.choice [.literal "a", .literal "e"], blank], .literal ""]
    let h := Generator.choice [.concatenation [blank, blank], .literal ""]
    compile table "v(|)|" false = .ok g ∧ weightOf table "v(|)|" = 7 ∧ g.nodeCount = 9 ∧
      g.nodeCount ≤ 2 + weightOf table "v(|)|" ∧
      (∃ capitalized, compile table "v(|)|" true = .ok capitalized ∧
        capitalized.nodeCount = 9 + 1) ∧
      compile table "(|)<|>|" false = .ok h ∧ symbolsOf "(|)<|>|" = [] ∧ h.nodeCount = 9 ∧
      h.nodeCount ≤ "(|)<|>|".length + 2 := by
  intro table blank g h
  have compiled : compile table "v(|)|" false = .ok g := rfl
  have compiled' : compile table "(|)<|>|" false = .ok h := rfl
  have none : symbolsOf "(|)<|>|" = [] := by decide
  obtain ⟨bound, capitalized, -⟩ := nodeCount_compile_le compiled
  obtain ⟨-, -, plain⟩ := nodeCount_compile_le compiled'
  exact ⟨compiled, by decide, by decide, bound, capitalized, compiled', none, by decide, plain none⟩

end NamePattern
