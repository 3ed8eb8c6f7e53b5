import NamePattern.Pattern.Body

/-!
# Patterns up to a point

A *nesting* is what a pattern looks like up to some point of it: the body of the top level as far
as it goes and then, for each group that is open there, its opener and the body inside as far as
it goes. Every row of characters is the text of a nesting, or starts with one that is followed by a
closer that does not fit it (`Nesting.exists_or_stuck`). This is said without any reading.
-/

namespace NamePattern

/-! ## Writing on at the end of a body -/

def Alternative.snoc : Alternative → Piece → Alternative
  | .nil, final => .cons final .nil
  | .cons piece rest, final => .cons piece (rest.snoc final)

def Body.snoc : Body → Piece → Body
  | .last alternative, final => .last (alternative.snoc final)
  | .bar alternative rest, final => .bar alternative (rest.snoc final)

/-- The body with a bar at its end, and behind it an alternative without pieces. -/
def Body.endAlternative : Body → Body
  | .last alternative => .bar alternative (.last .nil)
  | .bar alternative rest => .bar alternative rest.endAlternative

def Body.blank : Body := .last .nil

@[simp] theorem Body.chars_blank : Body.blank.chars = [] := rfl

@[simp] theorem Alternative.chars_snoc (alternative : Alternative) (final : Piece) :
    (alternative.snoc final).chars = alternative.chars ++ final.chars := by
  cases alternative with
  | nil => simp [Alternative.snoc, Alternative.chars]
  | cons piece rest => simp [Alternative.snoc, Alternative.chars, Alternative.chars_snoc rest]

@[simp] theorem Body.chars_snoc (body : Body) (final : Piece) :
    (body.snoc final).chars = body.chars ++ final.chars := by
  cases body with
  | last alternative => simp [Body.snoc, Body.chars]
  | bar alternative rest => simp [Body.snoc, Body.chars, Body.chars_snoc rest]

@[simp] theorem Body.chars_endAlternative (body : Body) :
    body.endAlternative.chars = body.chars ++ ['|'] := by
  cases body with
  | last alternative => simp [Body.endAlternative, Body.chars, Alternative.chars]
  | bar alternative rest =>
    simp [Body.endAlternative, Body.chars, Body.chars_endAlternative rest]

/-- A row of characters is balanced if a body is written so. -/
def Balanced (chars : List Char) : Prop := ∃ body : Body, body.chars = chars

theorem Body.text_eq_iff {body : Body} {pattern : String} :
    body.text = pattern ↔ body.chars = pattern.toList := by
  rw [Body.text, ← String.toList_inj, String.toList_ofList]

/-! ## Nestings -/

/-- A pattern up to some point of it. -/
inductive Nesting where
  /-- No group is open: there is only the body of the top level. -/
  | root (body : Body)
  /-- A group of a kind was opened after all that is around it, and this body is inside. -/
  | within (around : Nesting) (kind : GroupKind) (body : Body)

namespace Nesting

def chars : Nesting → List Char
  | .root body => body.chars
  | .within around kind body => around.chars ++ kind.opener :: body.chars

def innermost? : Nesting → Option GroupKind
  | .root _ => none
  | .within _ kind _ => some kind

/-- Changes the body of the innermost open group, or of the top level if there is none. -/
def modifyTop (change : Body → Body) : Nesting → Nesting
  | .root body => .root (change body)
  | .within around kind body => .within around kind (change body)

theorem chars_modifyTop {change : Body → Body} {extra : List Char}
    (grows : ∀ body, (change body).chars = body.chars ++ extra) (nesting : Nesting) :
    (nesting.modifyTop change).chars = nesting.chars ++ extra := by
  cases nesting with
  | root body => exact grows body
  | within around kind body => simp [modifyTop, chars, grows]

/-- Any character may follow, but a closer only where the innermost open group is of its kind. -/
theorem exists_chars_append (nesting : Nesting) (c : Char)
    (fits : ∀ kind, Mark.ofChar? c = some (.closes kind) → nesting.innermost? = some kind) :
    ∃ next : Nesting, next.chars = nesting.chars ++ [c] := by
  cases found : Mark.ofChar? c with
  | none =>
    refine ⟨nesting.modifyTop (·.snoc (.char c (ofChar?_eq_none_iff.mp found))), ?_⟩
    exact chars_modifyTop (by simp [Piece.chars]) nesting
  | some mark =>
    have written := Mark.char_of_ofChar? found
    subst written
    cases mark with
    | opens kind => exact ⟨.within nesting kind .blank, by simp [chars, Mark.char]⟩
    | bar => exact ⟨nesting.modifyTop Body.endAlternative, chars_modifyTop (by simp [Mark.char]) _⟩
    | closes kind =>
      have opened := fits kind found
      cases nesting with
      | root body => simp [innermost?] at opened
      | within around inner body =>
        simp only [innermost?, Option.some.injEq] at opened
        subst opened
        -- the group is whole now, so it is one more piece of the body around it
        refine ⟨around.modifyTop (·.snoc (.group inner body)), ?_⟩
        have grown := chars_modifyTop (Body.chars_snoc · (.group inner body)) around
        rw [grown]
        simp [chars, Piece.chars, Mark.char]

theorem exists_append_or_stuck (nesting : Nesting) (rest : List Char) :
    (∃ whole : Nesting, whole.chars = nesting.chars ++ rest) ∨
      ∃ (front : Nesting) (kind : GroupKind) (behind : List Char),
        nesting.chars ++ rest = front.chars ++ kind.closer :: behind ∧
          front.innermost? ≠ some kind := by
  induction rest generalizing nesting with
  | nil => exact .inl ⟨nesting, by simp⟩
  | cons c rest ih =>
    by_cases fits :
        ∀ kind, Mark.ofChar? c = some (.closes kind) → nesting.innermost? = some kind
    · obtain ⟨next, longer⟩ := exists_chars_append nesting c fits
      simpa [longer] using ih next
    · obtain ⟨kind, misfit⟩ := Classical.not_forall.mp fits
      obtain ⟨closes, stuck⟩ := Classical.not_imp.mp misfit
      have written := Mark.char_of_ofChar? closes
      exact .inr ⟨nesting, kind, rest, by simp [← written, Mark.char], stuck⟩

/-- A row of characters is the text of a nesting, or starts with such a text that is followed by a
closer that does not fit. -/
theorem exists_or_stuck (chars : List Char) :
    (∃ whole : Nesting, whole.chars = chars) ∨
      ∃ (front : Nesting) (kind : GroupKind) (behind : List Char),
        chars = front.chars ++ kind.closer :: behind ∧ front.innermost? ≠ some kind :=
  exists_append_or_stuck (.root .blank) chars

end Nesting

end NamePattern
