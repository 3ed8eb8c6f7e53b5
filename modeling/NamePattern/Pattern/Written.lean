import NamePattern.Pattern.Body

/-!
# Reading what was written

Reading the characters of a piece, an alternative or a body, in whatever reading and with whatever
after them, changes the draft on top by what they mean. Hence a pattern that is written from a body
compiles to what the body means (`compileBody_text`).
-/

namespace NamePattern

open Generator (oneOf join)

/-! ## Drafts -/

/-- A draft after the pieces of an alternative have been added. -/
def Draft.pushAll (draft : Draft) (pieces : List Generator) : Draft :=
  { draft with pieces := pieces.reverse ++ draft.pieces }

/-- A draft after a body has been read into it. -/
def Draft.readBody (table : SymbolTable) (kind : GroupKind) (draft : Draft) : Body → Draft
  | .last alternative => draft.pushAll (alternative.pieces table kind)
  | .bar alternative rest =>
      (draft.pushAll (alternative.pieces table kind)).endAlternative.readBody table kind rest

theorem Draft.pushAll_cons (draft : Draft) (piece : Generator) (pieces : List Generator) :
    draft.pushAll (piece :: pieces) = (draft.push piece).pushAll pieces := by
  simp [Draft.pushAll, Draft.push]

/-- Reading a body into a draft that is at the start of an alternative adds its alternatives. -/
theorem Draft.endAlternative_readBody (table : SymbolTable) (kind : GroupKind)
    (finished : List Generator) (body : Body) :
    ((Draft.mk finished []).readBody table kind body).endAlternative.alternatives =
      (body.alternatives table kind).reverse ++ finished := by
  match body with
  | .last alternative =>
    simp [Draft.readBody, Draft.pushAll, Draft.endAlternative, Body.alternatives]
  | .bar alternative rest =>
    have later := Draft.endAlternative_readBody table kind
      (join (alternative.pieces table kind) :: finished) rest
    simpa [Draft.readBody, Draft.pushAll, Draft.endAlternative, Body.alternatives] using later

/-- A fresh draft into which a body was read stands for that body. -/
theorem Draft.generator_readBody (table : SymbolTable) (kind : GroupKind) (body : Body) :
    (Draft.readBody table kind {} body).generator = body.generator table kind := by
  simp [Draft.generator, Draft.endAlternative_readBody, Body.generator]

/-! ## Readings -/

namespace Reading

@[simp] theorem kind_modifyTop (change : Draft → Draft) (reading : Reading) :
    (reading.modifyTop change).kind = reading.kind := by
  obtain ⟨root, _ | ⟨innermost, around⟩⟩ := reading <;> rfl

theorem modifyTop_modifyTop (first second : Draft → Draft) (reading : Reading) :
    (reading.modifyTop first).modifyTop second =
      reading.modifyTop (fun draft => second (first draft)) := by
  obtain ⟨root, _ | ⟨innermost, around⟩⟩ := reading <;> rfl

/-- A group that was opened and into whose draft a change was made closes again: the reading is
as before, with the group's generator as one more piece. -/
theorem closeGroup_modifyTop_openGroup (reading : Reading) (kind : GroupKind)
    (change : Draft → Draft) (start finish : Nat) :
    ((reading.openGroup kind start).modifyTop change).closeGroup kind finish =
      .ok (reading.modifyTop (·.push (change {}).generator)) := by
  simp [openGroup, modifyTop, closeGroup]

mutual
/-- Reading a piece pushes what it gives. -/
theorem read_piece (table : SymbolTable) (reading : Reading) (position : Nat) (piece : Piece)
    (rest : List Char) :
    reading.read table position (piece.chars ++ rest) =
      (reading.modifyTop (·.push (piece.generator table reading.kind))).read table
        (position + piece.chars.length) rest := by
  match piece with
  | .char c ordinary =>
    simp [Piece.chars, Piece.generator, read_cons, step_ordinary table reading position ordinary]
  | .group kind body =>
    have inner := read_body table (reading.openGroup kind position) (position + 1) body
      (kind.closer :: rest)
    have inside : (reading.openGroup kind position).kind = kind := rfl
    rw [inside] at inner
    simp only [Piece.chars, List.cons_append, List.append_assoc, List.nil_append, read_cons,
      step_opener]
    rw [inner]
    simp only [read_cons, step_closer, closeGroup_modifyTop_openGroup, Draft.generator_readBody,
      Piece.generator, Body.generator]
    congr 1
    simp only [List.length_cons, List.length_append, List.length_nil]
    omega
/-- Reading an alternative pushes what its pieces give. -/
theorem read_alternative (table : SymbolTable) (reading : Reading) (position : Nat)
    (alternative : Alternative) (rest : List Char) :
    reading.read table position (alternative.chars ++ rest) =
      (reading.modifyTop (·.pushAll (alternative.pieces table reading.kind))).read table
        (position + alternative.chars.length) rest := by
  match alternative with
  | .nil =>
    have same : reading.modifyTop (·.pushAll []) = reading := by
      obtain ⟨root, _ | ⟨innermost, around⟩⟩ := reading <;> rfl
    simp [Alternative.chars, Alternative.pieces, same]
  | .cons piece more =>
    rw [Alternative.chars, List.append_assoc, read_piece, read_alternative]
    simp only [kind_modifyTop, modifyTop_modifyTop, Alternative.pieces, Draft.pushAll_cons,
      List.length_append, Nat.add_assoc]
/-- Reading a body reads it into the draft on top. -/
theorem read_body (table : SymbolTable) (reading : Reading) (position : Nat) (body : Body)
    (rest : List Char) :
    reading.read table position (body.chars ++ rest) =
      (reading.modifyTop (Draft.readBody table reading.kind · body)).read table
        (position + body.chars.length) rest := by
  match body with
  | .last alternative =>
    simpa [Body.chars, Draft.readBody] using
      read_alternative table reading position alternative rest
  | .bar alternative more =>
    rw [Body.chars, List.append_assoc, read_alternative]
    simp only [List.cons_append, read_cons, step_bar]
    rw [read_body]
    simp only [kind_modifyTop, modifyTop_modifyTop, Draft.readBody, List.length_append,
      List.length_cons]
    congr 1
    omega
end

end Reading

/-- A pattern that is written from a body compiles to what the body means. -/
theorem compileBody_text (table : SymbolTable) (body : Body) :
    compileBody table body.text = .ok (body.generator table .symbol) := by
  have read := Reading.read_body table .start 0 body []
  rw [List.append_nil] at read
  have root : Reading.start.kind = .symbol := rfl
  simp only [compileBody_eq, Body.text, String.toList_ofList, read, root, Reading.read_nil]
  exact congrArg Except.ok (Draft.generator_readBody table .symbol body)

end NamePattern
