import NamePattern.Proofs.Grammar.Nesting

/-!
# The groups that are open

Which groups are open behind a row of characters is found from its brackets alone: an opener opens
a group, and a closer closes the innermost one, whatever its kind. A body leaves the open groups as
they are (`openBehind_body`), and a nesting leaves open what it is nested in
(`Nesting.openBehind_chars`). No character closes more than one group (`length_le_openBehind_add`),
and the closers of the open groups, the innermost first, make a nesting whole
(`Nesting.balanced_append_closers`).
-/

namespace NamePattern

/-! ## One character -/

/-- The groups that are open after a character, the innermost first. -/
def openAfter (opened : List GroupKind) (c : Char) : List GroupKind :=
  match Mark.ofChar? c with
  | some (.opens kind) => kind :: opened
  | some (.closes _) => opened.tail
  | some .bar => opened
  | none => opened

/-- The kind of the innermost open group; the top level is read like a symbol group. -/
def kindIn (opened : List GroupKind) : GroupKind := opened.head?.getD .symbol

section OneCharacter

variable (opened : List GroupKind) (kind : GroupKind)

@[simp] theorem openAfter_opener : openAfter opened kind.opener = kind :: opened := by
  simp [openAfter]

@[simp] theorem openAfter_closer : openAfter opened kind.closer = opened.tail := by
  simp [openAfter]

@[simp] theorem openAfter_bar : openAfter opened '|' = opened := rfl

theorem openAfter_of_ordinary {c : Char} (ordinary : isReserved c = false) :
    openAfter opened c = opened := by
  have plain : Mark.ofChar? c = none := ofChar?_eq_none_iff.mpr ordinary
  simp [openAfter, plain]

@[simp] theorem kindIn_nil : kindIn [] = .symbol := rfl

@[simp] theorem kindIn_cons : kindIn (kind :: opened) = kind := rfl

/-- A character closes one group at most. -/
theorem length_le_openAfter_add (c : Char) :
    opened.length ≤ (openAfter opened c).length + 1 := by
  unfold openAfter
  split
  · simp only [List.length_cons]
    omega
  · simp only [List.length_tail]
    omega
  · omega
  · omega

end OneCharacter

/-! ## Rows of characters -/

/-- The groups that are open behind a row of characters. -/
def openBehind (opened : List GroupKind) (chars : List Char) : List GroupKind :=
  chars.foldl openAfter opened

@[simp] theorem openBehind_nil (opened : List GroupKind) : openBehind opened [] = opened := rfl

@[simp] theorem openBehind_cons (opened : List GroupKind) (c : Char) (rest : List Char) :
    openBehind opened (c :: rest) = openBehind (openAfter opened c) rest := rfl

@[simp] theorem openBehind_append (opened : List GroupKind) (front back : List Char) :
    openBehind opened (front ++ back) = openBehind (openBehind opened front) back :=
  List.foldl_append

/-- To close groups takes at least as many characters. -/
theorem length_le_openBehind_add (opened : List GroupKind) (chars : List Char) :
    opened.length ≤ (openBehind opened chars).length + chars.length := by
  induction chars generalizing opened with
  | nil => exact Nat.le_refl _
  | cons c rest ih =>
    have first := length_le_openAfter_add opened c
    have later := ih (openAfter opened c)
    rw [openBehind_cons, List.length_cons]
    omega

mutual
theorem openBehind_piece (opened : List GroupKind) :
    ∀ piece : Piece, openBehind opened piece.chars = opened
  | .char c ordinary => by
    show openAfter opened c = opened
    exact openAfter_of_ordinary opened ordinary
  | .group kind body => by
    rw [Piece.chars, openBehind_cons, openAfter_opener, openBehind_append,
      openBehind_body (kind :: opened) body]
    show openAfter (kind :: opened) kind.closer = opened
    rw [openAfter_closer, List.tail_cons]
theorem openBehind_alternative (opened : List GroupKind) :
    ∀ alternative : Alternative, openBehind opened alternative.chars = opened
  | .nil => rfl
  | .cons piece rest => by
    rw [Alternative.chars, openBehind_append, openBehind_piece opened piece,
      openBehind_alternative opened rest]
/-- Behind a body the same groups are open as before it. -/
theorem openBehind_body (opened : List GroupKind) :
    ∀ body : Body, openBehind opened body.chars = opened
  | .last alternative => openBehind_alternative opened alternative
  | .bar alternative rest => by
    rw [Body.chars, openBehind_append, openBehind_alternative opened alternative, openBehind_cons,
      openAfter_bar, openBehind_body opened rest]
end

/-! ## Nestings -/

namespace Nesting

/-- The kinds of the groups that a nesting leaves open, the innermost first. -/
def openKinds : Nesting → List GroupKind
  | .root _ => []
  | .within around kind _ => kind :: around.openKinds

theorem openBehind_chars (nesting : Nesting) :
    openBehind [] nesting.chars = nesting.openKinds := by
  induction nesting with
  | root body => exact openBehind_body [] body
  | within around kind body ih =>
    rw [chars, openBehind_append, ih, openBehind_cons, openAfter_opener, openBehind_body]
    rfl

theorem openKinds_modifyTop (change : Body → Body) (nesting : Nesting) :
    (nesting.modifyTop change).openKinds = nesting.openKinds := by
  cases nesting with
  | root body => rfl
  | within around kind body => rfl

/-- With the closers of its open groups, the innermost first, a nesting becomes a body. -/
theorem balanced_append_closers (nesting : Nesting) :
    Balanced (nesting.chars ++ nesting.openKinds.map GroupKind.closer) := by
  -- the induction is on the open groups: closing one changes the body around it
  generalize open_groups : nesting.openKinds = opened
  induction opened generalizing nesting with
  | nil =>
    cases nesting with
    | root body => exact ⟨body, by simp [chars]⟩
    | within around kind body => simp [openKinds] at open_groups
  | cons kind rest ih =>
    cases nesting with
    | root body => simp [openKinds] at open_groups
    | within around inner body =>
      rw [openKinds, List.cons.injEq] at open_groups
      obtain ⟨rfl, others⟩ := open_groups
      have closed := ih (around.modifyTop (·.snoc (.group inner body)))
        ((openKinds_modifyTop _ around).trans others)
      rw [chars_modifyTop (Body.chars_snoc · (.group inner body))] at closed
      simpa [chars, Piece.chars] using closed

end Nesting

end NamePattern
