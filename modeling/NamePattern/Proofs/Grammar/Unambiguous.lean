import NamePattern.Pattern.Body

/-!
# Patterns are read in one way

Two bodies that are written alike are the same body (`Body.text_injective`). The statement is
proved with more text behind what was written: a piece shows its own end, an alternative ends at a
bar, at a closer or where the text ends, and a body ends at a closer or where the text ends.
-/

namespace NamePattern

/-! ## Where a row of pieces ends -/

/-- The text is at its end, or goes on with a bar or a closer. -/
def EndsAlternative (rest : List Char) : Prop :=
  ∀ c ∈ rest.head?, Mark.ofChar? c = some .bar ∨ ∃ kind, Mark.ofChar? c = some (.closes kind)

/-- The text is at its end, or goes on with a closer. -/
def EndsBody (rest : List Char) : Prop :=
  ∀ c ∈ rest.head?, ∃ kind, Mark.ofChar? c = some (.closes kind)

theorem EndsBody.endsAlternative {rest : List Char} (ends : EndsBody rest) :
    EndsAlternative rest := fun c first => .inr (ends c first)

theorem endsBody_nil : EndsBody [] := by
  intro c first
  simp at first

theorem endsBody_closer (kind : GroupKind) (rest : List Char) :
    EndsBody (kind.closer :: rest) := by
  intro c first
  simp only [List.head?_cons, Option.mem_some_iff] at first
  subst first
  exact ⟨kind, Mark.ofChar?_closer kind⟩

theorem endsAlternative_bar (rest : List Char) : EndsAlternative ('|' :: rest) := by
  intro c first
  simp only [List.head?_cons, Option.mem_some_iff] at first
  subst first
  exact .inl Mark.ofChar?_bar

theorem not_endsBody_bar (rest : List Char) : ¬ EndsBody ('|' :: rest) := by
  intro ends
  obtain ⟨kind, closes⟩ := ends '|' rfl
  rw [Mark.ofChar?_bar] at closes
  simp at closes

/-- A piece starts with an ordinary character or an opener, so no alternative ends there. -/
theorem Piece.not_endsAlternative (piece : Piece) (rest : List Char) :
    ¬ EndsAlternative (piece.chars ++ rest) := by
  intro ends
  cases piece with
  | char c ordinary =>
    have plain : Mark.ofChar? c = none := ofChar?_eq_none_iff.mpr ordinary
    have := ends c rfl
    simp [plain] at this
  | group kind body =>
    have := ends kind.opener rfl
    simp at this

/-! ## Reading back what was written -/

theorem GroupKind.opener_injective {kind other : GroupKind} (same : kind.opener = other.opener) :
    kind = other := by
  have marks := congrArg Mark.ofChar? same
  simpa using marks

theorem GroupKind.opener_ne {kind : GroupKind} {c : Char} (ordinary : isReserved c = false) :
    c ≠ kind.opener := by
  rintro rfl
  rw [← ofChar?_eq_none_iff, Mark.ofChar?_opener] at ordinary
  simp at ordinary

mutual
/-- A piece is known from any text that it starts, and so is what follows it. -/
theorem Piece.chars_append_inj (piece other : Piece) (rest rest' : List Char)
    (same : piece.chars ++ rest = other.chars ++ rest') : piece = other ∧ rest = rest' := by
  match piece, other with
  | .char c _, .char d _ =>
    simp only [Piece.chars, List.cons_append, List.nil_append, List.cons.injEq] at same
    obtain ⟨rfl, rfl⟩ := same
    exact ⟨rfl, rfl⟩
  | .char c ordinary, .group kind body =>
    simp only [Piece.chars, List.cons_append, List.cons.injEq] at same
    exact absurd same.1 (GroupKind.opener_ne ordinary)
  | .group kind body, .char d ordinary =>
    simp only [Piece.chars, List.cons_append, List.cons.injEq] at same
    exact absurd same.1.symm (GroupKind.opener_ne ordinary)
  | .group kind body, .group kind' body' =>
    simp only [Piece.chars, List.cons_append, List.append_assoc, List.nil_append,
      List.cons.injEq] at same
    obtain ⟨openers, inside⟩ := same
    have kinds := GroupKind.opener_injective openers
    subst kinds
    -- both bodies end at the same closer, so neither can be longer than the other
    obtain ⟨rfl, closers⟩ := Body.chars_append_inj body body' _ _ (endsBody_closer kind rest)
      (endsBody_closer kind rest') inside
    exact ⟨rfl, (List.cons.inj closers).2⟩
theorem Alternative.chars_append_inj (alternative other : Alternative) (rest rest' : List Char)
    (ends : EndsAlternative rest) (ends' : EndsAlternative rest')
    (same : alternative.chars ++ rest = other.chars ++ rest') :
    alternative = other ∧ rest = rest' := by
  match alternative, other with
  | .nil, .nil => exact ⟨rfl, same⟩
  | .nil, .cons piece more =>
    simp only [Alternative.chars, List.nil_append, List.append_assoc] at same
    -- the text behind the shorter one would have to start with a piece of the longer one
    rw [same] at ends
    exact absurd ends (Piece.not_endsAlternative piece _)
  | .cons piece more, .nil =>
    simp only [Alternative.chars, List.nil_append, List.append_assoc] at same
    rw [← same] at ends'
    exact absurd ends' (Piece.not_endsAlternative piece _)
  | .cons piece more, .cons piece' more' =>
    simp only [Alternative.chars, List.append_assoc] at same
    obtain ⟨rfl, later⟩ := Piece.chars_append_inj piece piece' _ _ same
    obtain ⟨rfl, behind⟩ := Alternative.chars_append_inj more more' rest rest' ends ends' later
    exact ⟨rfl, behind⟩
theorem Body.chars_append_inj (body other : Body) (rest rest' : List Char)
    (ends : EndsBody rest) (ends' : EndsBody rest')
    (same : body.chars ++ rest = other.chars ++ rest') : body = other ∧ rest = rest' := by
  match body, other with
  | .last alternative, .last alternative' =>
    obtain ⟨rfl, behind⟩ := Alternative.chars_append_inj alternative alternative' rest rest'
      ends.endsAlternative ends'.endsAlternative same
    exact ⟨rfl, behind⟩
  | .last alternative, .bar alternative' more' =>
    -- the first alternative ends in both, here at `rest` and there at a bar
    simp only [Body.chars, List.append_assoc, List.cons_append] at same
    obtain ⟨-, behind⟩ := Alternative.chars_append_inj alternative alternative' _ _
      ends.endsAlternative (endsAlternative_bar _) same
    rw [behind] at ends
    exact absurd ends (not_endsBody_bar _)
  | .bar alternative more, .last alternative' =>
    simp only [Body.chars, List.append_assoc, List.cons_append] at same
    obtain ⟨-, behind⟩ := Alternative.chars_append_inj alternative alternative' _ _
      (endsAlternative_bar _) ends'.endsAlternative same
    rw [← behind] at ends'
    exact absurd ends' (not_endsBody_bar _)
  | .bar alternative more, .bar alternative' more' =>
    simp only [Body.chars, List.append_assoc, List.cons_append] at same
    obtain ⟨rfl, bars⟩ := Alternative.chars_append_inj alternative alternative' _ _
      (endsAlternative_bar _) (endsAlternative_bar _) same
    obtain ⟨rfl, behind⟩ := Body.chars_append_inj more more' rest rest' ends ends'
      (List.cons.inj bars).2
    exact ⟨rfl, behind⟩
end

theorem Body.chars_injective {body other : Body} (same : body.chars = other.chars) :
    body = other := by
  refine (Body.chars_append_inj body other [] [] endsBody_nil endsBody_nil ?_).1
  rw [same]

/-- Bodies that are written alike are the same. -/
theorem Body.text_injective {body other : Body} (same : body.text = other.text) : body = other := by
  refine Body.chars_injective ?_
  simpa [Body.text] using congrArg String.toList same

end NamePattern
