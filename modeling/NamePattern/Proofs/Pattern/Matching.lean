import NamePattern.Proofs.Grammar.OpenGroups
import NamePattern.Proofs.Pattern.Brackets

/-!
# Openers and their closers

The closer that belongs to an opener is the closer of its kind that stands behind it with a balanced
text between the two; an opener without one is *unclosed*. A bar is a text's *own* if what stands
before it is balanced, so that it is in none of the groups of the text. Both are said of the text
alone, and both can be computed, since a text is balanced if it compiles.

A group that was opened before a balanced text is open everywhere in it
(`suffix_openBehind_of_balanced`). Hence an opener with a balanced text behind it is the last
unclosed one, those before it stay what they were (`unclosedOpeners_append_opener`), and no bar
behind it is an own bar of what is around it (`ownBars_append_opener`).
-/

namespace NamePattern

/-! ## Balanced texts -/

theorem balanced_nil : Balanced [] := ⟨.blank, rfl⟩

theorem Balanced.append_piece {chars : List Char} (balanced : Balanced chars) (piece : Piece) :
    Balanced (chars ++ piece.chars) := by
  obtain ⟨body, rfl⟩ := balanced
  exact ⟨body.snoc piece, Body.chars_snoc body piece⟩

theorem Balanced.append_bar {chars : List Char} (balanced : Balanced chars) :
    Balanced (chars ++ ['|']) := by
  obtain ⟨body, rfl⟩ := balanced
  exact ⟨body.endAlternative, Body.chars_endAlternative body⟩

theorem balanced_iff_isOk {chars : List Char} :
    Balanced chars ↔ (compileBody .empty (String.ofList chars)).isOk = true := by
  have compiles := exists_compile_eq_ok_iff .empty (String.ofList chars) false
  rw [String.toList_ofList] at compiles
  rw [← compiles, compile_false]
  cases compileBody .empty (String.ofList chars) <;> simp [Except.isOk, Except.toBool]

instance (chars : List Char) : Decidable (Balanced chars) := decidable_of_iff' _ balanced_iff_isOk

/-! ## Groups stay open in a balanced text -/

theorem isPrefix_append_cases {part front back : List Char} (begins : part <+: front ++ back) :
    part <+: front ∨ ∃ more, part = front ++ more ∧ more <+: back := by
  rcases List.prefix_or_prefix_of_prefix begins (List.prefix_append front back) with
    inside | ⟨more, rfl⟩
  · exact .inl inside
  · exact .inr ⟨more, rfl, (List.prefix_append_right_inj front).mp begins⟩

mutual
theorem Piece.suffix_openBehind (opened : List GroupKind) {part : List Char} :
    ∀ piece : Piece, part <+: piece.chars → opened <:+ openBehind opened part
  | .char c ordinary, begins => by
    rcases List.prefix_cons_iff.mp begins with rfl | ⟨rest, rfl, nothing⟩
    · exact List.suffix_rfl
    · obtain rfl := List.prefix_nil.mp nothing
      rw [openBehind_cons, openAfter_of_ordinary opened ordinary]
      exact List.suffix_rfl
  | .group kind body, begins => by
    rcases List.prefix_cons_iff.mp begins with rfl | ⟨rest, rfl, later⟩
    · exact List.suffix_rfl
    · rw [openBehind_cons, openAfter_opener]
      rcases isPrefix_append_cases later with inside | ⟨more, rfl, atEnd⟩
      · exact (List.suffix_cons kind opened).trans (body.suffix_openBehind (kind :: opened) inside)
      · -- behind the whole body the group itself is innermost, and its closer closes only that
        rw [openBehind_append, openBehind_body]
        rcases List.prefix_cons_iff.mp atEnd with rfl | ⟨rest, rfl, nothing⟩
        · exact List.suffix_cons kind opened
        · obtain rfl := List.prefix_nil.mp nothing
          rw [openBehind_cons, openAfter_closer]
          exact List.suffix_rfl
theorem Alternative.suffix_openBehind (opened : List GroupKind) {part : List Char} :
    ∀ alternative : Alternative, part <+: alternative.chars → opened <:+ openBehind opened part
  | .nil, begins => by
    obtain rfl := List.prefix_nil.mp begins
    exact List.suffix_rfl
  | .cons piece rest, begins => by
    rcases isPrefix_append_cases begins with inside | ⟨more, rfl, later⟩
    · exact piece.suffix_openBehind opened inside
    · rw [openBehind_append, openBehind_piece]
      exact rest.suffix_openBehind opened later
theorem Body.suffix_openBehind (opened : List GroupKind) {part : List Char} :
    ∀ body : Body, part <+: body.chars → opened <:+ openBehind opened part
  | .last alternative, begins => alternative.suffix_openBehind opened begins
  | .bar alternative rest, begins => by
    rcases isPrefix_append_cases begins with inside | ⟨more, rfl, later⟩
    · exact alternative.suffix_openBehind opened inside
    · rw [openBehind_append, openBehind_alternative]
      rcases List.prefix_cons_iff.mp later with rfl | ⟨others, rfl, behind⟩
      · exact List.suffix_rfl
      · rw [openBehind_cons, openAfter_bar]
        exact rest.suffix_openBehind opened behind
end

section Balanced

variable {kind : GroupKind} {inner part : List Char}

/-- Nowhere in a balanced text is a group closed that was open before it. -/
theorem suffix_openBehind_of_balanced (balanced : Balanced inner) (begins : part <+: inner)
    (opened : List GroupKind) : opened <:+ openBehind opened part := by
  obtain ⟨body, rfl⟩ := balanced
  exact body.suffix_openBehind opened begins

/-- A text that ends inside a group is not balanced. -/
theorem not_balanced_append_opener (balanced : Balanced inner) (begins : part <+: inner)
    (front : List Char) : ¬ Balanced (front ++ kind.opener :: part) := by
  rintro ⟨body, written⟩
  have none_open := openBehind_body [] body
  rw [written, openBehind_append, openBehind_cons, openAfter_opener] at none_open
  have still := suffix_openBehind_of_balanced balanced begins (kind :: openBehind [] front)
  rw [none_open] at still
  exact List.cons_ne_nil _ _ (List.suffix_nil.mp still)

end Balanced

/-! ## The closer of an opener -/

theorem GroupKind.opener_ne_closer (kind other : GroupKind) : kind.opener ≠ other.closer := by
  intro same
  have marks := congrArg Mark.ofChar? same
  simp at marks

/-- Behind an opener of a kind stands its closer: the closer of that kind behind a balanced text. -/
def ClosedIn (kind : GroupKind) (behind : List Char) : Prop :=
  ∃ inner rest, behind = inner ++ kind.closer :: rest ∧ Balanced inner

section ClosedIn

variable {kind : GroupKind} {inner behind : List Char}

theorem closedIn_iff_getElem? : ClosedIn kind behind ↔
    ∃ n < behind.length, behind[n]? = some kind.closer ∧ Balanced (behind.take n) := by
  constructor
  · rintro ⟨inner, rest, written, balanced⟩
    obtain ⟨there, before⟩ := getElem?_and_take_of_eq written
    obtain ⟨inside, -⟩ := List.getElem?_eq_some_iff.mp there
    exact ⟨inner.length, inside, there, before.symm ▸ balanced⟩
  · rintro ⟨n, -, there, balanced⟩
    exact ⟨_, _, (eq_take_append_of_getElem? there).1, balanced⟩

instance (kind : GroupKind) (behind : List Char) : Decidable (ClosedIn kind behind) :=
  decidable_of_iff' _ closedIn_iff_getElem?

theorem ClosedIn.append (closed : ClosedIn kind behind) (more : List Char) :
    ClosedIn kind (behind ++ more) := by
  obtain ⟨inner, rest, rfl, balanced⟩ := closed
  exact ⟨inner, rest ++ more, by simp, balanced⟩

theorem closedIn_append_closer (balanced : Balanced inner) (rest : List Char) :
    ClosedIn kind (inner ++ kind.closer :: rest) := ⟨inner, rest, rfl, balanced⟩

/-- A balanced text does not close the group around it. -/
theorem not_closedIn_of_balanced (balanced : Balanced behind) : ¬ ClosedIn kind behind := by
  rintro ⟨inner, rest, rfl, body, rfl⟩
  have begins : body.chars ++ [kind.closer] <+: body.chars ++ kind.closer :: rest := ⟨rest, by simp⟩
  have still := suffix_openBehind_of_balanced balanced begins [kind]
  rw [openBehind_append, openBehind_body, openBehind_cons, openAfter_closer] at still
  exact List.cons_ne_nil _ _ (List.suffix_nil.mp still)

/-- In a group that is not closed there is no closer for an opener before it. -/
theorem closedIn_append_opener {other : GroupKind} (balanced : Balanced inner) :
    ClosedIn kind (behind ++ other.opener :: inner) ↔ ClosedIn kind behind := by
  refine ⟨?_, fun closed => closed.append _⟩
  rintro ⟨between, rest, written, whole⟩
  rcases List.append_eq_append_iff.mp written with ⟨part, rfl, later⟩ | ⟨part, rfl, later⟩
  · -- the closer would be the opener of the group or stand in the group
    rcases List.cons_eq_append_iff.mp later with ⟨rfl, same⟩ | ⟨part, rfl, rfl⟩
    · exact absurd (List.cons.inj same).1.symm (other.opener_ne_closer kind)
    · exact absurd whole (not_balanced_append_opener balanced (List.prefix_append part _) behind)
  · rcases List.cons_eq_append_iff.mp later with ⟨rfl, same⟩ | ⟨part, rfl, -⟩
    · exact absurd (List.cons.inj same).1 (other.opener_ne_closer kind)
    · exact closedIn_append_closer whole part

end ClosedIn

/-! ## In a balanced text every opener has its closer -/

/-- Each opener of a text has its closer in the text. -/
def AllClosed (chars : List Char) : Prop :=
  ∀ (front : List Char) (kind : GroupKind) (behind : List Char),
    chars = front ++ kind.opener :: behind → ClosedIn kind behind

theorem allClosed_nil : AllClosed [] := by
  intro front kind behind written
  simp at written

theorem allClosed_singleton {c : Char} (other : ∀ kind : GroupKind, c ≠ kind.opener) :
    AllClosed [c] := by
  intro front kind behind written
  rcases List.cons_eq_append_iff.mp written with ⟨-, same⟩ | ⟨rest, -, nothing⟩
  · exact absurd (List.cons.inj same).1.symm (other kind)
  · simp at nothing

theorem AllClosed.append {front back : List Char} (first : AllClosed front)
    (second : AllClosed back) : AllClosed (front ++ back) := by
  intro before kind behind written
  rcases List.append_eq_append_iff.mp written with ⟨part, rfl, later⟩ | ⟨part, rfl, later⟩
  · exact second part kind behind later
  · rcases List.cons_eq_append_iff.mp later with ⟨rfl, same⟩ | ⟨rest, rfl, rfl⟩
    · subst same
      exact second [] kind behind rfl
    · exact (first before kind rest rfl).append back

theorem AllClosed.group {inner : List Char} (closed : AllClosed inner) (balanced : Balanced inner)
    (kind : GroupKind) : AllClosed (kind.opener :: (inner ++ [kind.closer])) := by
  intro front other behind written
  rcases List.cons_eq_append_iff.mp written with ⟨-, same⟩ | ⟨rest, -, later⟩
  · obtain ⟨openers, rfl⟩ := List.cons.inj same
    rw [GroupKind.opener_injective openers]
    exact closedIn_append_closer balanced []
  · have closer : AllClosed [kind.closer] :=
      allClosed_singleton fun other same => other.opener_ne_closer kind same.symm
    exact closed.append closer rest other behind later

mutual
theorem Piece.allClosed : ∀ piece : Piece, AllClosed piece.chars
  | .char _ ordinary => allClosed_singleton fun _ => GroupKind.opener_ne ordinary
  | .group kind body => body.allClosed.group ⟨body, rfl⟩ kind
theorem Alternative.allClosed : ∀ alternative : Alternative, AllClosed alternative.chars
  | .nil => allClosed_nil
  | .cons piece rest => piece.allClosed.append rest.allClosed
theorem Body.allClosed : ∀ body : Body, AllClosed body.chars
  | .last alternative => alternative.allClosed
  | .bar alternative rest => by
    have bar : AllClosed ['|'] := allClosed_singleton fun kind => by cases kind <;> decide
    exact alternative.allClosed.append (bar.append rest.allClosed)
end

theorem Balanced.allClosed {chars : List Char} (balanced : Balanced chars) : AllClosed chars := by
  obtain ⟨body, rfl⟩ := balanced
  exact body.allClosed

/-! ## Unclosed openers -/

/-- The openers without a closer in a text that stands at a position: their kinds and positions, in
their order. -/
def unclosedFrom (position : Nat) : List Char → List (GroupKind × Nat)
  | [] => []
  | c :: rest =>
      match Mark.ofChar? c with
      | some (.opens kind) =>
          if ClosedIn kind rest then unclosedFrom (position + 1) rest
          else (kind, position) :: unclosedFrom (position + 1) rest
      | _ => unclosedFrom (position + 1) rest

/-- The unclosed openers of a text. -/
def unclosedOpeners (chars : List Char) : List (GroupKind × Nat) := unclosedFrom 0 chars

section Unclosed

variable {kind : GroupKind} {c : Char} {front inner rest : List Char}

theorem unclosedFrom_opener (position : Nat) : unclosedFrom position (kind.opener :: rest) =
    if ClosedIn kind rest then unclosedFrom (position + 1) rest
    else (kind, position) :: unclosedFrom (position + 1) rest := by
  simp [unclosedFrom]

theorem unclosedFrom_other (other : ∀ kind : GroupKind, c ≠ kind.opener) (position : Nat) :
    unclosedFrom position (c :: rest) = unclosedFrom (position + 1) rest := by
  rw [unclosedFrom]
  split
  · next kind found => exact absurd (Mark.char_of_ofChar? found).symm (other kind)
  · rfl

theorem unclosedFrom_of_allClosed (closed : AllClosed rest) (position : Nat) :
    unclosedFrom position rest = [] := by
  induction rest generalizing position with
  | nil => rfl
  | cons c rest ih =>
    have later : AllClosed rest := fun front kind behind written =>
      closed (c :: front) kind behind (by rw [written, List.cons_append])
    by_cases opens : ∃ kind : GroupKind, c = kind.opener
    · obtain ⟨kind, rfl⟩ := opens
      rw [unclosedFrom_opener, if_pos (closed [] kind rest rfl), ih later]
    · rw [unclosedFrom_other (not_exists.mp opens), ih later]

/-- With a balanced text behind it an opener is unclosed, and those before it are as without it. -/
theorem unclosedFrom_append_opener (balanced : Balanced inner) (position : Nat) :
    unclosedFrom position (front ++ kind.opener :: inner) =
      unclosedFrom position front ++ [(kind, position + front.length)] := by
  induction front generalizing position with
  | nil =>
    rw [List.nil_append, unclosedFrom_opener, if_neg (not_closedIn_of_balanced balanced),
      unclosedFrom_of_allClosed balanced.allClosed]
    rfl
  | cons c front ih =>
    have shift : position + 1 + front.length = position + (c :: front).length := by
      rw [List.length_cons]
      omega
    have later := ih (position + 1)
    rw [shift] at later
    by_cases opens : ∃ other : GroupKind, c = other.opener
    · obtain ⟨other, rfl⟩ := opens
      rw [List.cons_append, unclosedFrom_opener, unclosedFrom_opener, later]
      simp only [closedIn_append_opener balanced]
      split
      · rfl
      · rfl
    · rw [List.cons_append, unclosedFrom_other (not_exists.mp opens),
        unclosedFrom_other (not_exists.mp opens), later]

theorem unclosedOpeners_of_balanced (balanced : Balanced inner) : unclosedOpeners inner = [] :=
  unclosedFrom_of_allClosed balanced.allClosed 0

theorem unclosedOpeners_append_opener (balanced : Balanced inner) :
    unclosedOpeners (front ++ kind.opener :: inner) =
      unclosedOpeners front ++ [(kind, front.length)] := by
  have unclosed : unclosedFrom 0 (front ++ kind.opener :: inner) =
      unclosedFrom 0 front ++ [(kind, 0 + front.length)] := unclosedFrom_append_opener balanced 0
  rwa [Nat.zero_add] at unclosed

example : unclosedOpeners "(a)<b(c|)d<".toList = [(.symbol, 3), (.symbol, 10)] := by
  decide +kernel

end Unclosed

/-! ## Own bars -/

/-- The number of bars of a text that are in none of its groups. -/
def ownBars (chars : List Char) : Nat :=
  (List.range chars.length).countP fun n => chars[n]? = some '|' ∧ Balanced (chars.take n)

section OwnBars

variable {kind : GroupKind} {front inner tail : List Char}

theorem ownBars_append (front back : List Char) :
    ownBars (front ++ back) = ownBars front +
      (List.range back.length).countP fun n =>
        back[n]? = some '|' ∧ Balanced (front ++ back.take n) := by
  rw [ownBars, List.length_append, List.range_add, List.countP_append, List.countP_map, ownBars]
  congr 1
  · refine List.countP_congr fun n inside => ?_
    have before := List.mem_range.mp inside
    rw [List.getElem?_append_left before, List.take_append_of_le_length (Nat.le_of_lt before)]
  · refine List.countP_congr fun n _ => ?_
    have beyond := Nat.le_add_right front.length n
    simp only [Function.comp_apply, List.getElem?_append_right beyond, List.take_append,
      List.take_of_length_le beyond, Nat.add_sub_cancel_left]

theorem ownBars_append_of_forall {back : List Char}
    (inGroup : ∀ part rest, back = part ++ '|' :: rest → ¬ Balanced (front ++ part)) :
    ownBars (front ++ back) = ownBars front := by
  rw [ownBars_append, List.countP_eq_zero.mpr, Nat.add_zero]
  intro n _
  rw [decide_eq_true_iff]
  rintro ⟨there, balanced⟩
  exact inGroup _ _ (eq_take_append_of_getElem? there).1 balanced

/-- There are no own bars in a group, nor in a tail that has no bars. -/
theorem ownBars_append_opener_append (balanced : Balanced inner) (noBar : '|' ∉ tail) :
    ownBars (front ++ kind.opener :: (inner ++ tail)) = ownBars front := by
  refine ownBars_append_of_forall fun part rest written => ?_
  rcases List.cons_eq_append_iff.mp written with ⟨-, same⟩ | ⟨part, rfl, later⟩
  · have bar := (List.cons.inj same).1
    cases kind <;> simp [GroupKind.opener] at bar
  · rcases List.append_eq_append_iff.mp later with ⟨more, -, same⟩ | ⟨more, rfl, -⟩
    · exact absurd (same ▸ by simp) noBar
    · exact not_balanced_append_opener balanced (List.prefix_append part more) front

/-- Behind an unclosed opener there are no own bars of what is around it. -/
theorem ownBars_append_opener (balanced : Balanced inner) (front : List Char) :
    ownBars (front ++ kind.opener :: inner) = ownBars front := by
  have same : ownBars (front ++ kind.opener :: (inner ++ [])) = ownBars front :=
    ownBars_append_opener_append balanced List.not_mem_nil
  rwa [List.append_nil] at same

theorem ownBars_append_piece (front : List Char) (piece : Piece) :
    ownBars (front ++ piece.chars) = ownBars front := by
  cases piece with
  | char c ordinary =>
    refine ownBars_append_of_forall fun part rest written => ?_
    have member : '|' ∈ [c] := by
      rw [show [c] = part ++ '|' :: rest from written]
      simp
    obtain rfl := List.mem_singleton.mp member
    exact absurd ordinary (by decide)
  | group kind body =>
    have noBar : '|' ∉ [kind.closer] := by cases kind <;> decide
    exact ownBars_append_opener_append ⟨body, rfl⟩ noBar

theorem ownBars_append_bar (balanced : Balanced front) :
    ownBars (front ++ ['|']) = ownBars front + 1 := by
  rw [ownBars_append]
  simp [balanced]

end OwnBars

end NamePattern
