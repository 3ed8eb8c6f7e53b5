import NamePattern.Proofs.Generator.Building

/-!
# Sampling in place and sampling by rule

A text is drawn by a rule for each kind of node (`Generator.DrawsByRule`), and the rule leaves no
choice: `Generator.sample` is the one function that follows it. The sampler that works in place, on
the bytes of a buffer that all nodes share, appends just what the rule gives and reads as many words
(`Generator.sampleInto_appends`), although a capitalisation reaches back into the buffer: the byte it
may change is the first one of what was drawn for it. Such a change keeps a buffer valid wherever it
is tried (`upperAt_eq_or`).
-/

namespace NamePattern

/-! ## Upper case -/

theorem toUpper_eq (c : Char) :
    c.toUpper = if 'a' ≤ c ∧ c ≤ 'z' then Char.ofNat (c.toNat - 32) else c := by
  unfold Char.toUpper
  by_cases lower : ('a' : Char).val ≤ c.val ∧ c.val ≤ ('z' : Char).val
  · rw [dif_pos lower, if_pos (show 'a' ≤ c ∧ c ≤ 'z' from lower)]
    have low : 97 ≤ c.val.toNat := UInt32.le_iff_toNat_le.mp lower.1
    have shift : (('A' : Char).val - ('a' : Char).val).toNat = 4294967264 := rfl
    have moved : (c.val + (('A' : Char).val - ('a' : Char).val)).toNat = c.toNat - 32 := by
      rw [UInt32.toNat_add, shift]
      show (c.val.toNat + 4294967264) % 4294967296 = c.val.toNat - 32
      have high : c.val.toNat ≤ 122 := UInt32.le_iff_toNat_le.mp lower.2
      omega
    rw [← moved]
    exact (Char.ofNat_toNat _).symm
  · rw [dif_neg lower, if_neg (show ¬ ('a' ≤ c ∧ c ≤ 'z') from lower)]

/-- Where a character of a text starts, and where the text ends, the text can be cut. -/
theorem exists_append_of_isCharBoundary {text : String} {index : Nat}
    (boundary : isCharBoundary text.toByteArray index = true) :
    ∃ front back : String, text = front ++ back ∧ front.toByteArray.size = index := by
  have valid : (⟨index⟩ : String.Pos.Raw).IsValid text := by
    rw [String.Pos.Raw.isValid_iff_isUTF8FirstByte]
    unfold isCharBoundary at boundary
    split at boundary
    · next inside => exact .inr ⟨inside, of_decide_eq_true boundary⟩
    · left
      rw [beq_iff_eq] at boundary
      exact String.Pos.Raw.ext boundary
  obtain ⟨front, back, cut, ends⟩ := String.Pos.Raw.isValid_iff_exists_append.mp valid
  exact ⟨front, back, cut, (congrArg String.Pos.Raw.byteIdx ends).symm⟩

/-- At any index of a valid buffer, upper case in place does nothing or gives the first character from
there on its upper case. -/
theorem upperAt_eq_or (text : String) (index : Nat) :
    upperAt text.toByteArray index = text.toByteArray ∨
      ∃ front back : String, text = front ++ back ∧ front.toByteArray.size = index ∧
        upperAt text.toByteArray index = (front ++ upperFirst back).toByteArray := by
  cases boundary : isCharBoundary text.toByteArray index with
  | false =>
    left
    simp [upperAt, boundary]
  | true =>
    obtain ⟨front, back, rfl, rfl⟩ := exists_append_of_isCharBoundary boundary
    refine .inr ⟨front, back, rfl, rfl, ?_⟩
    rw [String.toByteArray_append, upperAt_append, String.toByteArray_append]

theorem isValidUTF8_upperAt (text : String) (index : Nat) :
    (upperAt text.toByteArray index).IsValidUTF8 := by
  rcases upperAt_eq_or text index with same | ⟨front, back, -, -, changed⟩
  · rw [same]
    exact text.isValidUTF8
  · rw [changed]
    exact (front ++ upperFirst back).isValidUTF8

namespace Generator

/-! ## The rule -/

/-- How a text is drawn from each kind of node: a function that follows this rule gives the text and
the position after the words that it read. -/
structure DrawsByRule (words : Words) (draw : Generator → Nat → String × Nat) : Prop where
  literal : ∀ text position, draw (.literal text) position = (text, position)
  /-- Without options no word is read. -/
  noOption : ∀ position, draw (.choice []) position = ("", position)
  /-- The option is picked first, and then drawn from; a pick never leaves the options. -/
  choice : ∀ options position (filled : 0 < options.length),
    let picked := pick words options.length position
    draw (.choice options) position =
      draw (options.get ⟨picked.1, pick_fst_lt words filled position⟩) picked.2
  nil : ∀ position, draw (.concatenation []) position = ("", position)
  cons : ∀ part parts position, draw (.concatenation (part :: parts)) position =
    let first := draw part position
    let rest := draw (.concatenation parts) first.2
    (first.1 ++ rest.1, rest.2)
  capitalize : ∀ inner position, draw (.capitalize inner) position =
    let drawn := draw inner position
    (upperFirst drawn.1, drawn.2)

theorem drawsByRule_sample (words : Words) : DrawsByRule words (sample words) where
  literal text position := sample_literal words position text
  noOption position := sample_choice_nil words position
  choice options position filled := by
    intro picked
    have inside : picked.1 < options.length := pick_fst_lt words filled position
    have found : options[picked.1]? = some (options.get ⟨picked.1, inside⟩) :=
      List.getElem?_eq_getElem inside
    calc sample words (.choice options) position
        = sampleNth words options picked.1 picked.2 :=
          sample_choice words position (List.ne_nil_of_length_pos filled)
      _ = sample words (options.get ⟨picked.1, inside⟩) picked.2 := by
          simp only [sampleNth_eq, found]
  nil position := sample_concatenation_nil words position
  cons part parts position := sample_concatenation_cons words position part parts
  capitalize inner position := sample_capitalize words position inner

/-- Two functions that follow the rule draw the same. -/
theorem DrawsByRule.unique {words : Words} {draw other : Generator → Nat → String × Nat}
    (rule : DrawsByRule words draw) (otherRule : DrawsByRule words other) : draw = other := by
  funext g
  -- the rule takes a concatenation apart at its first part, and so does the induction
  induction g using inductParts with
  | literal text =>
    funext position
    rw [rule.literal, otherRule.literal]
  | choice options ih =>
    funext position
    cases options with
    | nil => rw [rule.noOption, otherRule.noOption]
    | cons option options =>
      -- both pick the same option with the same words
      have filled : 0 < (option :: options).length := Nat.succ_pos _
      rw [rule.choice _ position filled, otherRule.choice _ position filled,
        ih _ (List.get_mem _ _)]
  | nil =>
    funext position
    rw [rule.nil, otherRule.nil]
  | cons part parts first rest =>
    funext position
    rw [rule.cons, otherRule.cons, first, rest]
  | capitalize inner ih =>
    funext position
    rw [rule.capitalize, otherRule.capitalize, ih]

/-! ## The buffer -/

/-- After a capitalisation, what is drawn for the parts behind it is appended as it is. -/
theorem sampleInto_capitalize_cons (words : Words) (inner : Generator) (parts : List Generator)
    (out : String) (position : Nat) :
    let drawn := sample words inner position
    let rest := sample words (.concatenation parts) drawn.2
    sampleInto words (.concatenation (.capitalize inner :: parts)) out.toByteArray position =
      ((out ++ upperFirst drawn.1 ++ rest.1).toByteArray, rest.2) := by
  intro drawn rest
  rw [sampleInto_eq, sample_concatenation_cons, sample_capitalize, ← String.toByteArray_append,
    String.append_assoc]

/-- **Sampling in place follows the rule.** From any buffer that holds a text, on any words, the
sampler that works in place leaves the text followed by the one that the rule gives, and reads the
words that the rule reads; `sample` is the one function that follows the rule, and a text that is
drawn into a buffer of its own is the one it gives. So the bytes that were there before are still
there, the buffer still holds a text, and what is drawn behind a capitalisation is not touched by it,
even where the capitalised text is empty. Upper case means: the first character, if it is one of
`a`–`z`, becomes the capital letter, 32 codes before it, and anything else stays as it is; and at
whatever index a byte is changed so in a valid buffer, the buffer stays valid. -/
theorem sampleInto_appends (words : Words) (g : Generator) (out : String) (position : Nat) :
    (∀ draw, DrawsByRule words draw ↔ draw = sample words) ∧
    (sampleInto words g out.toByteArray position =
      ((out ++ (sample words g position).1).toByteArray, (sample words g position).2)) ∧
    generate words g position = sample words g position ∧
    (sampleInto words g out.toByteArray position).1.extract 0 out.toByteArray.size =
      out.toByteArray ∧
    (sampleInto words g out.toByteArray position).1.IsValidUTF8 ∧
    (∀ parts,
      let drawn := sample words g position
      let rest := sample words (.concatenation parts) drawn.2
      sampleInto words (.concatenation (.capitalize g :: parts)) out.toByteArray position =
        ((out ++ upperFirst drawn.1 ++ rest.1).toByteArray, rest.2)) ∧
    (upperFirst "" = "" ∧ ∀ first rest, upperFirst (String.ofList (first :: rest)) =
      String.ofList ((if 'a' ≤ first ∧ first ≤ 'z' then Char.ofNat (first.toNat - 32) else first) ::
        rest)) ∧
    ∀ text index, (upperAt (String.toByteArray text) index).IsValidUTF8 := by
  have appended : sampleInto words g out.toByteArray position =
      ((out ++ (sample words g position).1).toByteArray, (sample words g position).2) := by
    rw [sampleInto_eq, String.toByteArray_append]
  refine ⟨?_, appended, generate_eq_sample words g position, ?_, ?_, ?_, ⟨upperFirst_empty, ?_⟩,
    isValidUTF8_upperAt⟩
  · intro draw
    constructor
    · intro rule
      exact rule.unique (drawsByRule_sample words)
    · rintro rfl
      exact drawsByRule_sample words
  · rw [appended, String.toByteArray_append]
    exact ByteArray.extract_append_eq_left rfl
  · rw [appended]
    exact (out ++ (sample words g position).1).isValidUTF8
  · intro parts
    exact sampleInto_capitalize_cons words g parts out position
  · intro first rest
    rw [upperFirst_ofList_cons, toUpper_eq]

end Generator

end NamePattern
