import NamePattern.Proofs.Pattern.Reading
import NamePattern.Proofs.SymbolTable.History

/-!
# What a compilation reads of the symbol table

A pattern is compiled alike, with the same log, under two symbol tables in which its symbols stand
for the same (`compile_depends_on_symbols`). The symbols of a pattern are its ordinary characters
that do not stand in a literal group (`symbolsOf`), and the pattern may be any text: the two
compilations keep in step character by character, and the one that is refused is refused as the
other is (`Reading.readLogged_congr`). Behind a closer that is refused nothing is read, so that no
character counts there.
-/

namespace NamePattern

/-! ## The symbols of a pattern -/

/-- Whether a character may come where these groups are open: a closer only may if it closes the
innermost one. -/
def fits (opened : List GroupKind) (c : Char) : Bool :=
  match Mark.ofChar? c with
  | some (.closes kind) => opened.head? == some kind
  | _ => true

/-- The ordinary characters of a text that are read as symbols, where these groups are open before
the text. -/
def symbolsIn (opened : List GroupKind) : List Char → List Char
  | [] => []
  | c :: rest =>
      if fits opened c = false then []
      else if kindIn opened = .symbol ∧ isReserved c = false then
        c :: symbolsIn (openAfter opened c) rest
      else symbolsIn (openAfter opened c) rest

/-- The symbols of a pattern: its ordinary characters at the top level and those for which the
innermost open group is a symbol group, up to a closer that does not fit. -/
def symbolsOf (pattern : String) : List Char := symbolsIn [] pattern.toList

section Symbols

variable {opened : List GroupKind} {c symbol : Char} {rest : List Char}

theorem fits_of_ordinary (ordinary : isReserved c = false) : fits opened c = true := by
  have plain : Mark.ofChar? c = none := ofChar?_eq_none_iff.mpr ordinary
  simp [fits, plain]

theorem mem_symbolsIn_cons_self (isSymbol : kindIn opened = .symbol)
    (ordinary : isReserved c = false) : c ∈ symbolsIn opened (c :: rest) := by
  rw [symbolsIn, if_neg (by simp [fits_of_ordinary ordinary]), if_pos ⟨isSymbol, ordinary⟩]
  exact List.mem_cons_self

theorem mem_symbolsIn_cons_of_mem (fitting : fits opened c = true)
    (member : symbol ∈ symbolsIn (openAfter opened c) rest) :
    symbol ∈ symbolsIn opened (c :: rest) := by
  rw [symbolsIn, if_neg (by simp [fitting])]
  split
  · exact List.mem_cons_of_mem c member
  · exact member

/-- A symbol stands at the top level or directly in a symbol group, and it is no reserved character,
whatever is registered for that. -/
theorem exists_of_mem_symbolsIn {chars : List Char} (member : symbol ∈ symbolsIn opened chars) :
    ∃ front behind, chars = front ++ symbol :: behind ∧
      kindIn (openBehind opened front) = .symbol ∧ isReserved symbol = false := by
  induction chars generalizing opened with
  | nil => cases member
  | cons c rest ih =>
    have later (member : symbol ∈ symbolsIn (openAfter opened c) rest) :
        ∃ front behind, c :: rest = front ++ symbol :: behind ∧
          kindIn (openBehind opened front) = .symbol ∧ isReserved symbol = false := by
      obtain ⟨front, behind, rfl, isSymbol, ordinary⟩ := ih member
      exact ⟨c :: front, behind, rfl, isSymbol, ordinary⟩
    rw [symbolsIn] at member
    split at member
    · cases member
    · split at member
      · next here =>
        rcases List.mem_cons.mp member with rfl | member
        · exact ⟨[], rest, rfl, here⟩
        · exact later member
      · exact later member

end Symbols

/-! ## Two readings in step -/

namespace Reading

variable {table other : SymbolTable}

theorem charPiece_congr {kind : GroupKind} {c : Char}
    (agree : kind = .symbol → table.lookup c = other.lookup c) :
    charPiece table kind c = charPiece other kind c := by
  cases kind with
  | symbol =>
    show Generator.oneOf ((table.lookup c).map .literal) =
      Generator.oneOf ((other.lookup c).map .literal)
    rw [agree rfl]
  | literal => rfl

/-- One character looks up itself at most, and only as a symbol. -/
theorem stepLogged_congr {reading : Reading} {c : Char} (position : Nat)
    (agree : reading.kind = .symbol → isReserved c = false → table.lookup c = other.lookup c) :
    reading.stepLogged table position c = reading.stepLogged other position c := by
  unfold stepLogged
  split
  · rfl
  · rfl
  · rfl
  · next plain =>
    have ordinary : isReserved c = false := ofChar?_eq_none_iff.mp plain
    rw [charPiece_congr fun isSymbol => agree isSymbol ordinary]

theorem fits_of_step {reading next : Reading} {position : Nat} {c : Char}
    (stepped : reading.step table position c = .ok next) : fits reading.kinds c = true := by
  rcases step_ok_cases stepped with ⟨kind, rfl, -⟩ | ⟨innermost, around, rfl, open_groups, -⟩ |
    ⟨rfl, -⟩ | ⟨ordinary, -⟩
  · simp [fits]
  · simp [fits, kinds, open_groups]
  · rfl
  · exact fits_of_ordinary ordinary

section Steps

variable {reading next : Reading} {position : Nat} {c symbol : Char} {rest : List Char}

theorem mem_symbolsIn_self (isSymbol : reading.kind = .symbol) (ordinary : isReserved c = false) :
    c ∈ symbolsIn reading.kinds (c :: rest) := by
  rw [kind_eq_kindIn] at isSymbol
  exact mem_symbolsIn_cons_self isSymbol ordinary

/-- The next reading has the groups open that the text leaves open, so its symbols are symbols. -/
theorem mem_symbolsIn_of_step (stepped : reading.step table position c = .ok next)
    (member : symbol ∈ symbolsIn next.kinds rest) : symbol ∈ symbolsIn reading.kinds (c :: rest) := by
  rw [kinds_step stepped] at member
  exact mem_symbolsIn_cons_of_mem (fits_of_step stepped) member

end Steps

/-- Two readings of the same characters keep in step, and so do their logs. -/
theorem readLogged_congr (reading : Reading) (position : Nat) {chars : List Char}
    (agree : ∀ c ∈ symbolsIn reading.kinds chars, table.lookup c = other.lookup c) :
    reading.readLogged table position chars = reading.readLogged other position chars := by
  induction chars generalizing reading position with
  | nil => rfl
  | cons c rest ih =>
    have same : reading.stepLogged table position c = reading.stepLogged other position c :=
      stepLogged_congr position fun isSymbol ordinary =>
        agree c (mem_symbolsIn_self isSymbol ordinary)
    rw [readLogged, readLogged, ← same]
    cases logged : reading.stepLogged table position c with
    | error error => rfl
    | ok outcome =>
      obtain ⟨next, event⟩ := outcome
      have stepped : reading.step table position c = .ok next :=
        (step_eq_ok_iff ..).mpr ⟨event, logged⟩
      have later := ih next (position + 1) fun symbol member =>
        agree symbol (mem_symbolsIn_of_step stepped member)
      simp only [later]

end Reading

/-! ## Compilations that come out alike -/

/-- A pattern has the same outcome and the same log under two symbol tables. -/
structure CompilesAlike (table other : SymbolTable) (pattern : String) (capitalize : Bool) :
    Prop where
  outcome : compile table pattern capitalize = compile other pattern capitalize
  log : transcript table pattern capitalize = transcript other pattern capitalize

/-- A pattern is compiled alike where its symbols stand for the same. -/
theorem compilesAlike_of_lookup {table other : SymbolTable} {pattern : String}
    (agree : ∀ symbol ∈ symbolsOf pattern, table.lookup symbol = other.lookup symbol)
    (capitalize : Bool) : CompilesAlike table other pattern capitalize := by
  have same : compileLogged table pattern capitalize = compileLogged other pattern capitalize := by
    rw [compileLogged, compileLogged, compileBodyLogged, compileBodyLogged,
      Reading.readLogged_congr .start 0 agree]
  exact ⟨congrArg Prod.snd same, congrArg Prod.fst same⟩

theorem SymbolTable.lookup_congr {table other : SymbolTable} {symbol : Char}
    (same : table.candidates? symbol = other.candidates? symbol) :
    table.lookup symbol = other.lookup symbol := by
  rw [lookup, lookup, same]

/-- A symbol that is registered for itself, or for which that is refused, leaves other symbols what
they are and is for itself what it is when it is not registered. -/
theorem SymbolTable.lookup_register_self_eq (table : SymbolTable) (symbol : Char) {other : Char}
    (ordinary : isReserved other = false) :
    (table.edit (.register symbol [String.singleton symbol])).2.lookup other =
      (table.edit (.unregister symbol)).2.lookup other := by
  cases reserved : isReserved symbol with
  | false => exact (lookup_register_self table reserved).1 other
  | true =>
    rw [edit_register_of_isReserved table reserved]
    apply lookup_congr
    have differ : symbol ≠ other := by
      intro same
      rw [same, ordinary] at reserved
      cases reserved
    rw [candidates?_edit]
    simp [Edit.changes, Edit.symbol, differ]

/-- **A compilation reads only what its symbols stand for.** Any text is compiled alike, outcome and
log, under two tables in which its symbols stand for the same. So entries for reserved characters,
which only a table that was read from a written form can have, are never looked up; to register a
symbol for itself is as good as not to register it; and no history of edits matters that is about
none of the symbols, but about characters which the pattern has in literal groups only, or not at
all. -/
theorem compile_depends_on_symbols (table : SymbolTable) (pattern : String) (capitalize : Bool) :
    (∀ other : SymbolTable,
      (∀ symbol ∈ symbolsOf pattern, table.lookup symbol = other.lookup symbol) →
        CompilesAlike table other pattern capitalize) ∧
    (∀ other : SymbolTable,
      (∀ symbol, isReserved symbol = false →
        table.candidates? symbol = other.candidates? symbol) →
          CompilesAlike table other pattern capitalize) ∧
    (∀ symbol, CompilesAlike (table.edit (.register symbol [String.singleton symbol])).2
      (table.edit (.unregister symbol)).2 pattern capitalize) ∧
    ∀ history : List Edit, (∀ edit ∈ history, edit.symbol ∉ symbolsOf pattern) →
      CompilesAlike table (table.editAll history).2 pattern capitalize := by
  refine ⟨?_, ?_, ?_, ?_⟩
  · intro other agree
    exact compilesAlike_of_lookup agree capitalize
  · intro other agree
    refine compilesAlike_of_lookup (fun symbol member => ?_) capitalize
    obtain ⟨-, -, -, -, ordinary⟩ := exists_of_mem_symbolsIn member
    exact SymbolTable.lookup_congr (agree symbol ordinary)
  · intro symbol
    refine compilesAlike_of_lookup (fun other member => ?_) capitalize
    obtain ⟨-, -, -, -, ordinary⟩ := exists_of_mem_symbolsIn member
    exact SymbolTable.lookup_register_self_eq table symbol ordinary
  · intro history elsewhere
    refine compilesAlike_of_lookup (fun symbol member => ?_) capitalize
    have untouched : ∀ edit ∈ history, edit.symbol ≠ symbol := by
      intro edit edits same
      subst same
      exact elsewhere edit edits member
    apply SymbolTable.lookup_congr
    rw [SymbolTable.candidates?_editAll, entryAfter_of_untouched untouched]

/-- A text that is no pattern, with a symbol that stands in a literal group and behind a closer that
does not fit, under a table with entries for that symbol and for a reserved character. -/
theorem compile_depends_on_symbols_hidden :
    let table := SymbolTable.ofList [('v', ["a", "e"]), ('k', ["q"]), ('<', ["x"])]
    let other := SymbolTable.ofList [('v', ["a", "e"])]
    let history := [Edit.unregister 'k', .register '<' ["y"]]
    let pattern := "v(k<v|z>>k"
    symbolsOf pattern = ['v', 'v', 'z'] ∧
      (∀ symbol ∈ symbolsOf pattern, table.lookup symbol = other.lookup symbol) ∧
      CompilesAlike table other pattern true ∧
      (∀ symbol, isReserved symbol = false →
        table.candidates? symbol = (table.edit (.unregister '<')).2.candidates? symbol) ∧
      CompilesAlike table (table.edit (.unregister '<')).2 pattern true ∧
      (∀ edit ∈ history, edit.symbol ∉ symbolsOf pattern) ∧
      CompilesAlike table (table.editAll history).2 pattern true := by
  intro table other history pattern
  have symbols : symbolsOf pattern = ['v', 'v', 'z'] := by decide
  have agree : ∀ symbol ∈ symbolsOf pattern, table.lookup symbol = other.lookup symbol := by
    rw [symbols]
    intro symbol member
    simp only [List.mem_cons, List.not_mem_nil, or_false] at member
    rcases member with rfl | rfl | rfl <;> rfl
  have reservedOnly : ∀ symbol, isReserved symbol = false →
      table.candidates? symbol = (table.edit (.unregister '<')).2.candidates? symbol := by
    intro symbol ordinary
    have differ : '<' ≠ symbol := by
      intro same
      rw [← same] at ordinary
      cases ordinary
    rw [SymbolTable.candidates?_edit]
    simp [Edit.changes, Edit.symbol, differ]
  have elsewhere : ∀ edit ∈ history, edit.symbol ∉ symbolsOf pattern := by
    rw [symbols]
    intro edit member
    simp only [history, List.mem_cons, List.not_mem_nil, or_false] at member
    rcases member with rfl | rfl <;> decide
  obtain ⟨byLookup, byEntries, -, byHistory⟩ := compile_depends_on_symbols table pattern true
  exact ⟨symbols, agree, byLookup other agree, reservedOnly, byEntries _ reservedOnly, elsewhere,
    byHistory _ elsewhere⟩

end NamePattern
