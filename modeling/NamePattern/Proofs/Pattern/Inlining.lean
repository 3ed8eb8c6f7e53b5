import NamePattern.Proofs.Grammar.OpenGroups
import NamePattern.Proofs.Pattern.Spelling

/-!
# Symbols are abbreviations

A symbol of a pattern stands for the literal group that lists its candidates: `SymbolTable.inlined`
writes these groups in place of the symbols, and what comes out compiles under every symbol table to
the same generator (`compile_inlined`). A symbol becomes a choice among literals at once, and a group
is read character by character with its own alternatives, so the two are compared first
(`Piece.generator_listing`); a body then means the same as the body with the groups written in
(`Body.generator_inlined`). A mark cannot be written in a literal group, so the candidates must have
none.
-/

namespace NamePattern

open Generator (oneOf join)

/-! ## Writing the candidates in -/

/-- The literal group with these texts as its alternatives. -/
def listingChars (candidates : List String) : List Char :=
  '(' :: (['|'].intercalate (candidates.map String.toList) ++ [')'])

/-- What is written for a character: the listing of its candidates if it is a symbol, and else the
character itself. -/
def inlineChar (table : SymbolTable) (kind : GroupKind) (c : Char) : List Char :=
  match kind with
  | .symbol => if isReserved c then [c] else listingChars (table.lookup c)
  | .literal => [c]

def inlineChars (table : SymbolTable) (opened : List GroupKind) : List Char → List Char
  | [] => []
  | c :: rest =>
      inlineChar table (kindIn opened) c ++ inlineChars table (openAfter opened c) rest

namespace SymbolTable

/-- The pattern with each symbol replaced by the literal group that lists its candidates. -/
def inlined (table : SymbolTable) (pattern : String) : String :=
  String.ofList (inlineChars table [] pattern.toList)

/-- No candidate in the table contains a character that the grammar reserves. -/
def CandidatesOrdinary (table : SymbolTable) : Prop :=
  ∀ symbol candidates, table.candidates? symbol = some candidates →
    ∀ text ∈ candidates, ∀ c ∈ text.toList, isReserved c = false

/-- What a symbol stands for is free of reserved characters, registered or not. -/
theorem CandidatesOrdinary.lookup {table : SymbolTable} (plain : table.CandidatesOrdinary)
    {symbol : Char} (ordinary : isReserved symbol = false) :
    ∀ text ∈ table.lookup symbol, ∀ c ∈ text.toList, isReserved c = false := by
  intro text member
  unfold SymbolTable.lookup at member
  cases registered : table.candidates? symbol with
  | none =>
    rw [registered, Option.getD_none, List.mem_singleton] at member
    subst member
    simpa using ordinary
  | some candidates =>
    rw [registered, Option.getD_some] at member
    exact plain symbol candidates registered text member

end SymbolTable

/-! ## The listing as a group -/

theorem chars_spellChar {c : Char} (ordinary : isReserved c = false) :
    (spellChar c).chars = [c] := by
  unfold spellChar
  split
  · rfl
  · next mark found =>
    rw [← ofChar?_eq_none_iff, found] at ordinary
    cases ordinary

/-- The alternative of a literal group that spells a text. -/
def Alternative.spelling (text : String) : Alternative := .ofList (text.toList.map spellChar)

/-- The group that a listing is read as. -/
def Piece.listing (candidates : List String) : Piece :=
  .group .literal (.ofList (candidates.map .spelling))

theorem Alternative.chars_spelling {text : String}
    (ordinary : ∀ c ∈ text.toList, isReserved c = false) :
    (Alternative.spelling text).chars = text.toList := by
  unfold spelling
  generalize text.toList = chars at ordinary ⊢
  induction chars with
  | nil => rfl
  | cons c rest ih =>
    have later := ih fun other member => ordinary other (List.mem_cons_of_mem c member)
    rw [List.map_cons, ofList, Alternative.chars, later,
      chars_spellChar (ordinary c List.mem_cons_self), List.singleton_append]

theorem Alternative.join_pieces_spelling (table : SymbolTable) {text : String}
    (ordinary : ∀ c ∈ text.toList, isReserved c = false) :
    join ((Alternative.spelling text).pieces table .literal) = .literal text := by
  have can : ∀ other ∈ (Generator.literal text).literals, ∀ c ∈ other.toList,
      CanSpell table c := by
    intro other among c member
    rw [Generator.literals_literal, List.mem_singleton] at among
    subst among
    exact canSpell_of_not_isReserved table (ordinary c member)
  have spelled := Generator.generator_spell (Generator.normal_literal text) can .literal
  rw [Generator.generator_spell_literal] at spelled
  rw [spelling, Alternative.pieces_ofList, List.map_map]
  exact spelled

theorem Body.chars_ofList (alternatives : List Alternative) :
    (Body.ofList alternatives).chars = ['|'].intercalate (alternatives.map Alternative.chars) := by
  induction alternatives with
  | nil => rfl
  | cons alternative rest ih =>
    cases rest with
    | nil => simp [ofList, Body.chars]
    | cons next rest =>
      rw [ofList, Body.chars, ih]
      simp

section Listing

variable {candidates : List String}
  (ordinary : ∀ text ∈ candidates, ∀ c ∈ text.toList, isReserved c = false)
include ordinary

theorem Piece.chars_listing : (Piece.listing candidates).chars = listingChars candidates := by
  have each : candidates.map (Alternative.chars ∘ .spelling) = candidates.map String.toList :=
    List.map_congr_left fun text member => Alternative.chars_spelling (ordinary text member)
  rw [Piece.listing, Piece.chars, Body.chars_ofList, List.map_map, each]
  rfl

/-- A listing means a choice among its texts, as a symbol with these candidates does. -/
theorem Piece.generator_listing (table : SymbolTable) (kind : GroupKind) :
    (Piece.listing candidates).generator table kind = oneOf (candidates.map .literal) := by
  by_cases filled : candidates = []
  · -- an empty listing still has one alternative, which is empty
    subst filled
    rfl
  · have each : candidates.map ((fun alternative : Alternative =>
        join (alternative.pieces table .literal)) ∘ Alternative.spelling) =
          candidates.map .literal :=
      List.map_congr_left fun text member =>
        Alternative.join_pieces_spelling table (ordinary text member)
    have some_alternative : candidates.map Alternative.spelling ≠ [] := by simpa using filled
    rw [Piece.listing, Piece.generator, Body.alternatives_ofList table .literal some_alternative,
      List.map_map, each]

end Listing

/-! ## Bodies with the listings written in -/

mutual
def Piece.inlined (table : SymbolTable) (kind : GroupKind) : Piece → Piece
  | .char c ordinary =>
      match kind with
      | .symbol => .listing (table.lookup c)
      | .literal => .char c ordinary
  | .group inner body => .group inner (body.inlined table inner)
def Alternative.inlined (table : SymbolTable) (kind : GroupKind) : Alternative → Alternative
  | .nil => .nil
  | .cons piece rest => .cons (piece.inlined table kind) (rest.inlined table kind)
/-- The body of a group of a kind with each symbol in it replaced by its listing. -/
def Body.inlined (table : SymbolTable) (kind : GroupKind) : Body → Body
  | .last alternative => .last (alternative.inlined table kind)
  | .bar alternative rest => .bar (alternative.inlined table kind) (rest.inlined table kind)
end

/-! ### What it means -/

mutual
theorem Piece.generator_inlined {table : SymbolTable} (plain : table.CandidatesOrdinary)
    (other : SymbolTable) (kind : GroupKind) :
    ∀ piece : Piece, (piece.inlined table kind).generator other kind = piece.generator table kind
  | .char c ordinary => by
    cases kind with
    | symbol => exact Piece.generator_listing (plain.lookup ordinary) other .symbol
    | literal => rfl
  | .group inner body => by
    have inside := Body.alternatives_inlined plain other inner body
    show oneOf ((body.inlined table inner).alternatives other inner) = _
    rw [inside]
    rfl
theorem Alternative.pieces_inlined {table : SymbolTable} (plain : table.CandidatesOrdinary)
    (other : SymbolTable) (kind : GroupKind) :
    ∀ alternative : Alternative,
      (alternative.inlined table kind).pieces other kind = alternative.pieces table kind
  | .nil => rfl
  | .cons piece rest => by
    have first := Piece.generator_inlined plain other kind piece
    have later := Alternative.pieces_inlined plain other kind rest
    rw [Alternative.inlined, Alternative.pieces, Alternative.pieces, first, later]
theorem Body.alternatives_inlined {table : SymbolTable} (plain : table.CandidatesOrdinary)
    (other : SymbolTable) (kind : GroupKind) :
    ∀ body : Body,
      (body.inlined table kind).alternatives other kind = body.alternatives table kind
  | .last alternative => by
    have only := Alternative.pieces_inlined plain other kind alternative
    rw [Body.inlined, Body.alternatives, Body.alternatives, only]
  | .bar alternative rest => by
    have first := Alternative.pieces_inlined plain other kind alternative
    have later := Body.alternatives_inlined plain other kind rest
    rw [Body.inlined, Body.alternatives, Body.alternatives, first, later]
end

/-- With the listings written in, a body means under any symbol table what it meant under its own. -/
theorem Body.generator_inlined {table : SymbolTable} (plain : table.CandidatesOrdinary)
    (other : SymbolTable) (kind : GroupKind) (body : Body) :
    (body.inlined table kind).generator other kind = body.generator table kind :=
  congrArg oneOf (Body.alternatives_inlined plain other kind body)

/-! ### How it is written -/

theorem inlineChars_mark (table : SymbolTable) (opened : List GroupKind) (mark : Mark)
    (rest : List Char) :
    inlineChars table opened (mark.char :: rest) =
      mark.char :: inlineChars table (openAfter opened mark.char) rest := by
  have reserved := isReserved_char mark
  rw [inlineChars]
  cases kindIn opened with
  | symbol => simp [inlineChar, reserved]
  | literal => rfl

mutual
theorem inlineChars_piece {table : SymbolTable} (plain : table.CandidatesOrdinary)
    (opened : List GroupKind) (rest : List Char) :
    ∀ piece : Piece, inlineChars table opened (piece.chars ++ rest) =
      (piece.inlined table (kindIn opened)).chars ++ inlineChars table opened rest
  | .char c ordinary => by
    show inlineChar table (kindIn opened) c ++ inlineChars table (openAfter opened c) rest = _
    rw [openAfter_of_ordinary opened ordinary]
    congr 1
    cases kindIn opened with
    | symbol =>
      have written := Piece.chars_listing (plain.lookup ordinary)
      simp [inlineChar, ordinary, Piece.inlined, written]
    | literal => rfl
  | .group kind body => by
    have inside := inlineChars_body plain (kind :: opened) (kind.closer :: rest) body
    have opening := inlineChars_mark table opened (.opens kind) (body.chars ++ kind.closer :: rest)
    have closing := inlineChars_mark table (kind :: opened) (.closes kind) rest
    simp only [Mark.char, openAfter_opener, openAfter_closer, List.tail_cons] at opening closing
    rw [closing, kindIn_cons] at inside
    rw [Piece.chars, List.cons_append, List.append_assoc, List.singleton_append, opening, inside]
    simp [Piece.inlined, Piece.chars]
theorem inlineChars_alternative {table : SymbolTable} (plain : table.CandidatesOrdinary)
    (opened : List GroupKind) (rest : List Char) :
    ∀ alternative : Alternative, inlineChars table opened (alternative.chars ++ rest) =
      (alternative.inlined table (kindIn opened)).chars ++ inlineChars table opened rest
  | .nil => rfl
  | .cons piece more => by
    have first := inlineChars_piece plain opened (more.chars ++ rest) piece
    have later := inlineChars_alternative plain opened rest more
    rw [Alternative.chars, List.append_assoc, first, later, Alternative.inlined, Alternative.chars,
      List.append_assoc]
/-- A body that is read with these groups open is written back with its symbols replaced. -/
theorem inlineChars_body {table : SymbolTable} (plain : table.CandidatesOrdinary)
    (opened : List GroupKind) (rest : List Char) :
    ∀ body : Body, inlineChars table opened (body.chars ++ rest) =
      (body.inlined table (kindIn opened)).chars ++ inlineChars table opened rest
  | .last alternative => inlineChars_alternative plain opened rest alternative
  | .bar alternative more => by
    have first := inlineChars_alternative plain opened ('|' :: (more.chars ++ rest)) alternative
    have later := inlineChars_body plain opened rest more
    have bar := inlineChars_mark table opened .bar (more.chars ++ rest)
    simp only [Mark.char, openAfter_bar] at bar
    rw [Body.chars, List.append_assoc, List.cons_append, first, bar, later]
    simp [Body.inlined, Body.chars]
end

theorem Body.text_inlined {table : SymbolTable} (plain : table.CandidatesOrdinary) (body : Body) :
    (body.inlined table .symbol).text = table.inlined body.text := by
  have written := inlineChars_body plain [] [] body
  rw [List.append_nil, kindIn_nil, inlineChars, List.append_nil] at written
  rw [SymbolTable.inlined, Body.text, Body.text, String.toList_ofList, written]

/-- **Symbols are abbreviations.** If no candidate of a symbol table contains a reserved character,
then a pattern that compiles under the table compiles to the same generator, capitalised or not,
under every other table once its symbols are replaced by the listings of their candidates. -/
theorem compile_inlined {table : SymbolTable} (plain : table.CandidatesOrdinary) {pattern : String}
    (compiles : ∃ g, compile table pattern false = .ok g) (other : SymbolTable)
    (capitalize : Bool) :
    ∃ g, compile table pattern capitalize = .ok g ∧
      compile other (table.inlined pattern) capitalize = .ok g := by
  obtain ⟨g, compiled⟩ := compiles
  rw [compile_false] at compiled
  obtain ⟨body, rfl, rfl⟩ := compileBody_eq_ok_iff.mp compiled
  have same : compileBody other (table.inlined body.text) = .ok (body.generator table .symbol) := by
    rw [← Body.text_inlined plain, compileBody_text, Body.generator_inlined plain]
  exact ⟨_, compile_eq_ok_iff.mpr ⟨_, compiled, rfl⟩, compile_eq_ok_iff.mpr ⟨_, same, rfl⟩⟩

/-- The table that registers `v` with three candidates, one of them empty, and `n` with none. -/
def vowelTable : SymbolTable := .ofList [('v', ["a", "", "eu"]), ('n', [])]

theorem candidatesOrdinary_vowelTable : vowelTable.CandidatesOrdinary := by
  intro symbol candidates registered text member
  have listed := SymbolTable.mem_of_candidates?_ofList registered
  simp only [List.mem_cons, Prod.mk.injEq, List.not_mem_nil, or_false] at listed
  rcases listed with ⟨-, rfl⟩ | ⟨-, rfl⟩
  · simp only [List.mem_cons, List.not_mem_nil, or_false] at member
    rcases member with rfl | rfl | rfl <;> simp <;> decide
  · cases member

theorem compile_inlined_nested :
    vowelTable.CandidatesOrdinary ∧
    vowelTable.inlined "kv(v<vn>|)" = "(k)(a||eu)(v<(a||eu)()>|)" ∧
    (∃ g, compile vowelTable "kv(v<vn>|)" false = .ok g) ∧
    ∃ g, compile vowelTable "kv(v<vn>|)" true = .ok g ∧
      compile .empty (vowelTable.inlined "kv(v<vn>|)") true = .ok g := by
  have compiles : ∃ g, compile vowelTable "kv(v<vn>|)" false = .ok g := ⟨_, rfl⟩
  exact ⟨candidatesOrdinary_vowelTable, by decide, compiles,
    compile_inlined candidatesOrdinary_vowelTable compiles .empty true⟩

end NamePattern
