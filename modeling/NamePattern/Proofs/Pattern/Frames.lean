import NamePattern.Proofs.Pattern.Matching
import NamePattern.Proofs.Pattern.Reading
import NamePattern.Proofs.Pattern.Spelling

/-!
# What the drafts of a reading hold

While a pattern is read there is a draft for the top level and one for each open group, and the text
that has been read falls into as many balanced parts: one for the top level, and one behind the
opener of each open group. `Frames` says that the open groups are those of the openers between the
parts, and that each draft comes from its part: it has ended as many alternatives as the part has
own bars, and the generators in it are normal. Each character that fits keeps that
(`Reading.Follows.step`), so it holds wherever a reading has come to (`Reading.Follows.read`), and
from there what a reading holds is told by the text alone (`reading_told_by_text`).
-/

namespace NamePattern

open Generator (Normal normal_literal normal_oneOf normal_join)

/-! ## Drafts -/

/-- What a draft holds when a balanced text has been read into it. -/
structure Draft.Holds (draft : Draft) (text : List Char) : Prop where
  balanced : Balanced text
  bars : draft.alternatives.length = ownBars text
  alternatives : ∀ g ∈ draft.alternatives, g.Normal
  pieces : ∀ g ∈ draft.pieces, g.Normal

namespace Draft.Holds

variable {draft : Draft} {text : List Char}

theorem blank : Draft.Holds {} [] := ⟨balanced_nil, rfl, by simp, by simp⟩

/-- Reading a piece adds its generator to the alternative and no own bar to the text. -/
theorem push (holds : draft.Holds text) (piece : Piece) {g : Generator} (normal : g.Normal) :
    (draft.push g).Holds (text ++ piece.chars) where
  balanced := holds.balanced.append_piece piece
  bars := holds.bars.trans (ownBars_append_piece text piece).symm
  alternatives := holds.alternatives
  pieces := List.forall_mem_cons.mpr ⟨normal, holds.pieces⟩

theorem endAlternative (holds : draft.Holds text) : draft.endAlternative.Holds (text ++ ['|']) where
  balanced := holds.balanced.append_bar
  bars := by
    rw [ownBars_append_bar holds.balanced, ← holds.bars]
    rfl
  alternatives := by
    have ended := normal_join fun g member => holds.pieces g (List.mem_reverse.mp member)
    exact List.forall_mem_cons.mpr ⟨ended, holds.alternatives⟩
  pieces := by simp [Draft.endAlternative]

theorem normal_generator (holds : draft.Holds text) : draft.generator.Normal :=
  normal_oneOf fun g member => holds.endAlternative.alternatives g (List.mem_reverse.mp member)

end Draft.Holds

/-! ## Stacks of drafts -/

/-- The draft of the top level and the open groups, the innermost first, are those of a text. -/
inductive Frames (root : Draft) : List OpenGroup → List Char → Prop
  | root {text} (holds : root.Holds text) : Frames root [] text
  | group {around front innermost inner} (outside : Frames root around front)
      (position : innermost.position = front.length) (holds : innermost.draft.Holds inner) :
      Frames root (innermost :: around) (front ++ innermost.kind.opener :: inner)

/-! ## Reading keeps the frames -/

/-- The frames of a reading are those of the text that has been read. -/
def Reading.Follows (reading : Reading) (text : List Char) : Prop :=
  Frames reading.root reading.opened text

namespace Reading.Follows

variable {table : SymbolTable} {reading next : Reading} {text : List Char}

theorem start : Reading.start.Follows [] := .root .blank

/-- What is done to the draft on top and to the text behind its opener goes for the whole text. -/
theorem modifyTop (follows : reading.Follows text) {change : Draft → Draft} {more : List Char}
    (changed : ∀ draft part, draft.Holds part → (change draft).Holds (part ++ more)) :
    (reading.modifyTop change).Follows (text ++ more) := by
  obtain ⟨root, opened⟩ := reading
  cases follows with
  | root holds => exact .root (changed root text holds)
  | group outside position holds =>
    rw [List.append_assoc, List.cons_append]
    exact .group outside position (changed _ _ holds)

/-- A character that fits keeps the frames: an opener adds one, a closer makes the innermost part a
piece of the part around it, and any other character goes to the part on top. -/
theorem step (follows : reading.Follows text) {c : Char}
    (stepped : reading.step table text.length c = .ok next) : next.Follows (text ++ [c]) := by
  rcases step_ok_cases stepped with ⟨kind, rfl, rfl⟩ |
    ⟨innermost, around, rfl, open_groups, rfl⟩ | ⟨rfl, rfl⟩ | ⟨ordinary, rfl⟩
  · exact .group follows rfl .blank
  · rw [Follows, open_groups] at follows
    cases follows with
    | group outside position holds =>
      have below : Reading.Follows { reading with opened := around } _ := outside
      obtain ⟨body, rfl⟩ := holds.balanced
      rw [List.append_assoc]
      exact below.modifyTop fun _ _ around_it =>
        around_it.push (.group innermost.kind body) holds.normal_generator
  · exact follows.modifyTop fun _ _ holds => holds.endAlternative
  · refine follows.modifyTop fun _ _ holds => ?_
    exact holds.push (.char c ordinary) (normal_charPiece table reading.kind c)

/-- Wherever a reading has come to, its frames are those of the text that was read. -/
theorem read (follows : reading.Follows text) {chars : List Char}
    (finished : reading.read table text.length chars = .ok next) :
    next.Follows (text ++ chars) := by
  induction chars generalizing reading text with
  | nil =>
    cases finished
    rwa [List.append_nil]
  | cons c rest ih =>
    obtain ⟨middle, stepped, finished⟩ := read_cons_eq_ok_iff.mp finished
    have longer : text.length + 1 = (text ++ [c]).length := by simp
    rw [longer] at finished
    have later := ih (follows.step stepped) finished
    rwa [List.append_assoc, List.singleton_append] at later

end Reading.Follows

/-! ## What the text tells about its frames -/

namespace Frames

variable {root : Draft} {opened : List OpenGroup} {text : List Char}

theorem position_lt (frames : Frames root opened text) :
    ∀ group ∈ opened, group.position < text.length := by
  induction frames with
  | root holds => simp
  | group outside position holds ih =>
    intro group member
    rw [List.length_append, List.length_cons]
    rcases List.mem_cons.mp member with rfl | member
    · omega
    · have before := ih group member
      omega

/-- A group lies behind the groups around it. -/
theorem pairwise_position (frames : Frames root opened text) :
    opened.Pairwise fun group outer => outer.position < group.position := by
  induction frames with
  | root holds => exact .nil
  | group outside position holds ih =>
    refine .cons (fun outer member => ?_) ih
    rw [position]
    exact outside.position_lt outer member

/-- The open groups are those of the unclosed openers. -/
theorem unclosedOpeners_eq (frames : Frames root opened text) :
    unclosedOpeners text = opened.reverse.map fun group => (group.kind, group.position) := by
  induction frames with
  | root holds => exact unclosedOpeners_of_balanced holds.balanced
  | group outside position holds ih =>
    rw [unclosedOpeners_append_opener holds.balanced, ih, List.reverse_cons, List.map_append,
      List.map_singleton, position]

theorem length_root (frames : Frames root opened text) :
    root.alternatives.length = ownBars text := by
  induction frames with
  | root holds => exact holds.bars
  | group outside position holds ih => rw [ih, ownBars_append_opener holds.balanced]

/-- A group has ended an alternative for each own bar of what stands behind its opener. -/
theorem length_alternatives (frames : Frames root opened text) :
    ∀ group ∈ opened,
      group.draft.alternatives.length = ownBars (text.drop (group.position + 1)) := by
  induction frames with
  | root holds => simp
  | @group around front innermost inner outside position holds ih =>
    intro group member
    rcases List.mem_cons.mp member with rfl | member
    · have behind : (front ++ group.kind.opener :: inner).drop (group.position + 1) = inner := by
        simp [position, List.drop_append]
      rw [behind]
      exact holds.bars
    · rw [List.drop_append_of_le_length (outside.position_lt group member),
        ownBars_append_opener holds.balanced]
      exact ih group member

theorem normal (frames : Frames root opened text) :
    ∀ draft ∈ root :: opened.map OpenGroup.draft,
      (∀ g ∈ draft.alternatives, g.Normal) ∧ ∀ g ∈ draft.pieces, g.Normal := by
  induction frames with
  | root holds =>
    intro draft member
    rw [List.mem_singleton.mp member]
    exact ⟨holds.alternatives, holds.pieces⟩
  | group outside position holds ih =>
    intro draft member
    rw [List.map_cons, List.mem_cons, List.mem_cons] at member
    rcases member with rfl | rfl | member
    · exact ih draft List.mem_cons_self
    · exact ⟨holds.alternatives, holds.pieces⟩
    · exact ih draft (List.mem_cons_of_mem root member)

end Frames

/-! ## Readings -/

/-- The draft of the top level and those of the open groups. -/
def Reading.drafts (reading : Reading) : List Draft :=
  reading.root :: reading.opened.map OpenGroup.draft

/-- **What a reading holds is told by the text.** Wherever the reading of a pattern has come to,
under any symbol table, the open groups are the unclosed openers of the text before it, in the same
order, each of the kind and at the position of its opener. The depth counts them and the top level,
which is read as a symbol group is. The top level has ended an alternative for each own bar of the
text, and each group one for each own bar of the text behind its opener. All generators that are
held are normal. -/
theorem reading_told_by_text {table : SymbolTable} {pattern : String} {n : Nat} {reading : Reading}
    (finished : Reading.start.read table 0 (pattern.toList.take n) = .ok reading) :
    let before := pattern.toList.take n
    reading.depth = 1 + (unclosedOpeners before).length ∧
    reading.opened.reverse.map (fun group => (group.kind, group.position)) =
      unclosedOpeners before ∧
    reading.opened.reverse.Pairwise (fun group inner => group.position < inner.position) ∧
    Reading.kind { root := reading.root } = .symbol ∧
    reading.kind = kindIn ((unclosedOpeners before).reverse.map Prod.fst) ∧
    reading.root.alternatives.length = ownBars before ∧
    (∀ group ∈ reading.opened,
      group.draft.alternatives.length = ownBars (before.drop (group.position + 1))) ∧
    ∀ draft ∈ reading.drafts,
      (∀ g ∈ draft.alternatives, g.Normal) ∧ ∀ g ∈ draft.pieces, g.Normal := by
  intro before
  have frames : Frames reading.root reading.opened before := Reading.Follows.start.read finished
  have opened := frames.unclosedOpeners_eq
  refine ⟨?_, opened.symm, ?_, rfl, ?_, frames.length_root, frames.length_alternatives,
    frames.normal⟩
  · rw [opened, List.length_map, List.length_reverse, Reading.depth, Nat.add_comm]
  · rw [List.pairwise_reverse]
    exact frames.pairwise_position
  · rw [Reading.kind_eq_kindIn, opened, ← List.map_reverse, List.reverse_reverse, List.map_map]
    rfl

/-- A pattern up to the closer that it is refused for, where two groups are open: there are bars of
the top level and of both groups, one of them behind a group that was closed. -/
theorem reading_told_by_text_refused :
    let table := SymbolTable.ofList [('v', ["a", "e"])]
    let before := "v|(b|<v|d>|<d|)".toList.take 14
    let vowel := Generator.choice [.literal "a", .literal "e"]
    let reading : Reading := {
      root := { alternatives := [vowel] }
      opened := [
        { kind := .symbol, position := 11, draft := { alternatives := [.literal "d"] } },
        { kind := .literal, position := 2, draft := {
            alternatives := [.choice [vowel, .literal "d"], .literal "b"] } }] }
    compile table "v|(b|<v|d>|<d|)" false = .error (.mismatched 14 .symbol .literal) ∧
    Reading.start.read table 0 before = .ok reading ∧
    (unclosedOpeners before).length = 2 ∧
    unclosedOpeners before = [(.literal, 2), (.symbol, 11)] ∧
    ownBars before = 1 ∧ ownBars (before.drop 3) = 2 ∧ ownBars (before.drop 12) = 1 ∧
    vowel.Normal := by
  intro table before vowel reading
  have finished : Reading.start.read table 0 before = .ok reading := rfl
  obtain ⟨depth, opened, -, -, -, root, groups, normal⟩ := reading_told_by_text finished
  have outer := groups _ (List.mem_cons_of_mem _ List.mem_cons_self)
  have inner := groups _ List.mem_cons_self
  have first := (normal reading.root List.mem_cons_self).1 vowel List.mem_cons_self
  refine ⟨rfl, finished, ?_, opened.symm, root.symm, outer.symm, inner.symm, first⟩
  have three : 1 + 2 = 1 + (unclosedOpeners before).length := depth
  omega

end NamePattern
