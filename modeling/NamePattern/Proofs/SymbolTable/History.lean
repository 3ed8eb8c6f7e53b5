import NamePattern.SymbolTable.Basic

/-!
# Histories of a symbol table

A symbol table is edited by registering symbols and by removing them. What it lists for a symbol
after a history of edits is a matter of the last edit that changes the entry of the symbol
(`entryAfter`); a refused edit changes nothing. All that a table tells about itself, it tells of
its entries (`SymbolTable.Shows`), so all of it can be told from the history
(`SymbolTable.last_edit_wins`).
-/

namespace NamePattern

/-! ## Edits -/

/-- A change of a symbol table. -/
inductive Edit where
  | register (symbol : Char) (candidates : List String)
  | unregister (symbol : Char)
  deriving DecidableEq, Repr

namespace Edit

def symbol : Edit → Char
  | .register symbol _ => symbol
  | .unregister symbol => symbol

/-- A reserved character cannot be registered, yet it can be removed. -/
def isRefused : Edit → Bool
  | .register symbol _ => isReserved symbol
  | .unregister _ => false

/-- The entry that an edit leaves for its symbol. -/
def entry : Edit → Option (List String)
  | .register _ candidates => some candidates
  | .unregister _ => none

def changes (edit : Edit) (symbol : Char) : Bool :=
  edit.symbol == symbol && !edit.isRefused

end Edit

/-- The entry of a symbol after a history of edits: what the last edit that changes it leaves. -/
def entryAfter (initial : Option (List String)) (symbol : Char) (history : List Edit) :
    Option (List String) :=
  match history.reverse.find? (·.changes symbol) with
  | some last => last.entry
  | none => initial

section EntryAfter

variable {initial : Option (List String)} {symbol : Char}

theorem entryAfter_cons (first : Edit) (rest : List Edit) :
    entryAfter initial symbol (first :: rest) =
      entryAfter (if first.changes symbol then first.entry else initial) symbol rest := by
  unfold entryAfter
  rw [List.reverse_cons, List.find?_append]
  cases found : rest.reverse.find? (·.changes symbol) with
  | some last => rfl
  | none => cases changed : first.changes symbol <;> simp [changed]

/-- A history that goes on from another one goes on from the entry that it left. -/
theorem entryAfter_append (before after : List Edit) :
    entryAfter initial symbol (before ++ after) =
      entryAfter (entryAfter initial symbol before) symbol after := by
  induction before generalizing initial with
  | nil => rfl
  | cons first before ih => rw [List.cons_append, entryAfter_cons, entryAfter_cons, ih]

theorem entryAfter_of_untouched {history : List Edit}
    (untouched : ∀ edit ∈ history, edit.symbol ≠ symbol) :
    entryAfter initial symbol history = initial := by
  have none_found : history.reverse.find? (·.changes symbol) = none := by
    rw [List.find?_eq_none]
    intro edit member
    have other := untouched edit (List.mem_reverse.mp member)
    simp [Edit.changes, other]
  rw [entryAfter, none_found]

/-- Where there is no entry, only a registration makes one. -/
theorem entryAfter_none {history : List Edit}
    (unregistered : ∀ candidates, Edit.register symbol candidates ∉ history) :
    entryAfter none symbol history = none := by
  unfold entryAfter
  cases found : history.reverse.find? (·.changes symbol) with
  | none => rfl
  | some last =>
    have member : last ∈ history := List.mem_reverse.mp (List.mem_of_find?_eq_some found)
    have changed := List.find?_some found
    cases last with
    | unregister other => rfl
    | register other candidates =>
      have same : other = symbol := by
        simp only [Edit.changes, Edit.symbol, Bool.and_eq_true, beq_iff_eq] at changed
        exact changed.1
      subst same
      exact absurd member (unregistered candidates)

end EntryAfter

namespace SymbolTable

/-- Makes an edit: the entry that its symbol had, or the refusal, and the table after it. -/
def edit (table : SymbolTable) :
    Edit → Except ReservedSymbol (Option (List String)) × SymbolTable
  | .register symbol candidates => table.register symbol candidates
  | .unregister symbol => (.ok (table.unregister symbol).1, (table.unregister symbol).2)

/-- Makes edits one after the other: the answer to each, and the table after them. -/
def editAll (table : SymbolTable) :
    List Edit → List (Except ReservedSymbol (Option (List String))) × SymbolTable
  | [] => ([], table)
  | first :: rest =>
      let later := (table.edit first).2.editAll rest
      ((table.edit first).1 :: later.1, later.2)

/-! ### One edit -/

section Edit

variable (table : SymbolTable)

theorem edit_register_of_isReserved {symbol : Char} (reserved : isReserved symbol = true)
    (candidates : List String) :
    table.edit (.register symbol candidates) = (.error ⟨symbol⟩, table) :=
  table.register_of_isReserved reserved candidates

theorem edit_register_of_not_isReserved {symbol : Char} (ordinary : isReserved symbol = false)
    (candidates : List String) :
    table.edit (.register symbol candidates) =
      (.ok (table.candidates? symbol), table.insert symbol candidates) :=
  table.register_of_not_isReserved ordinary candidates

/-- What an edit does to the entry of a symbol, be it its own symbol or another one. -/
theorem candidates?_edit (edit : Edit) (symbol : Char) :
    (table.edit edit).2.candidates? symbol =
      if edit.changes symbol then edit.entry else table.candidates? symbol := by
  cases edit with
  | register other candidates =>
    cases reserved : isReserved other with
    | true =>
      rw [edit_register_of_isReserved table reserved]
      simp [Edit.changes, Edit.isRefused, reserved]
    | false =>
      rw [edit_register_of_not_isReserved table reserved]
      simp [Edit.changes, Edit.isRefused, Edit.symbol, Edit.entry, reserved, candidates?_insert]
  | unregister other =>
    show (table.unregister other).2.candidates? symbol = _
    rw [candidates?_unregister]
    simp [Edit.changes, Edit.isRefused, Edit.symbol, Edit.entry]

/-- An edit answers with the entry that it replaces, if it is not refused. -/
theorem fst_edit (edit : Edit) :
    (table.edit edit).1 =
      if edit.isRefused then .error ⟨edit.symbol⟩ else .ok (table.candidates? edit.symbol) := by
  cases edit with
  | register symbol candidates =>
    cases reserved : isReserved symbol with
    | true =>
      rw [edit_register_of_isReserved table reserved]
      simp [Edit.isRefused, Edit.symbol, reserved]
    | false =>
      rw [edit_register_of_not_isReserved table reserved]
      simp [Edit.isRefused, Edit.symbol, reserved]
  | unregister symbol => rfl

end Edit

/-! ### Histories -/

/-- What a history does to the entry of a symbol. -/
theorem candidates?_editAll (table : SymbolTable) (history : List Edit) (symbol : Char) :
    (table.editAll history).2.candidates? symbol =
      entryAfter (table.candidates? symbol) symbol history := by
  induction history generalizing table with
  | nil => rfl
  | cons first rest ih =>
    show ((table.edit first).2.editAll rest).2.candidates? symbol = _
    rw [ih, candidates?_edit, entryAfter_cons]

theorem answer_editAll (table : SymbolTable) (before after : List Edit) (edit : Edit) :
    (table.editAll (before ++ edit :: after)).1[before.length]? =
      some ((table.editAll before).2.edit edit).1 := by
  induction before generalizing table with
  | nil => rfl
  | cons first before ih => exact ih (table.edit first).2

/-! ## What a table tells about itself -/

/-- All that a table tells about itself, it tells of the same entries. -/
structure Shows (table : SymbolTable) (entry : Char → Option (List String)) : Prop where
  lookup : ∀ symbol, table.lookup symbol = (entry symbol).getD [String.singleton symbol]
  contains : ∀ symbol, table.contains symbol = true ↔ ∃ candidates, entry symbol = some candidates
  symbols : ∀ symbol, symbol ∈ table.symbols ↔ table.contains symbol = true
  nodup_symbols : table.symbols.Nodup
  size : table.size = table.symbols.length
  isEmpty : table.isEmpty = true ↔ ∀ symbol, table.contains symbol = false

theorem isEmpty_iff {table : SymbolTable} :
    table.isEmpty = true ↔ ∀ symbol, table.contains symbol = false := by
  have blank : table.isEmpty = table.symbols.isEmpty := Std.ExtTreeMap.isEmpty_keys.symm
  rw [blank, List.isEmpty_iff, List.eq_nil_iff_forall_not_mem]
  refine forall_congr' fun symbol => ?_
  rw [mem_symbols_iff, Bool.not_eq_true]

theorem shows_candidates? (table : SymbolTable) : Shows table table.candidates? where
  lookup := fun _ => rfl
  contains := by
    intro symbol
    rw [contains_eq_isSome, Option.isSome_iff_exists]
  symbols := fun _ => mem_symbols_iff
  nodup_symbols := nodup_symbols table
  size := (length_symbols table).symm
  isEmpty := isEmpty_iff

/-! ## After a history -/

section History

variable (table : SymbolTable) {symbol : Char}

/-- After a history a table tells of the entries that the history says. -/
theorem shows_editAll (history : List Edit) :
    Shows (table.editAll history).2
      fun symbol => entryAfter (table.candidates? symbol) symbol history := by
  have entries : (table.editAll history).2.candidates? =
      fun symbol => entryAfter (table.candidates? symbol) symbol history :=
    funext fun symbol => candidates?_editAll table history symbol
  rw [← entries]
  exact shows_candidates? _

theorem lookup_of_registered (ordinary : isReserved symbol = false) {before after : List Edit}
    {candidates : List String} (last : ∀ edit ∈ after, edit.symbol ≠ symbol) :
    (table.editAll (before ++ .register symbol candidates :: after)).2.lookup symbol =
      candidates := by
  have changed : (Edit.register symbol candidates).changes symbol = true := by
    simp [Edit.changes, Edit.symbol, Edit.isRefused, ordinary]
  rw [(shows_editAll table _).lookup, entryAfter_append, entryAfter_cons, if_pos changed,
    entryAfter_of_untouched last]
  rfl

theorem lookup_of_unregistered {before after : List Edit}
    (last : ∀ candidates, Edit.register symbol candidates ∉ after) :
    (table.editAll (before ++ .unregister symbol :: after)).2.lookup symbol =
      [String.singleton symbol] := by
  have changed : (Edit.unregister symbol).changes symbol = true := by
    simp [Edit.changes, Edit.symbol, Edit.isRefused]
  rw [(shows_editAll table _).lookup, entryAfter_append, entryAfter_cons, if_pos changed]
  show (entryAfter none symbol after).getD _ = _
  rw [entryAfter_none last]
  rfl

theorem lookup_of_untouched {history : List Edit}
    (untouched : ∀ edit ∈ history, edit.symbol ≠ symbol) :
    (table.editAll history).2.lookup symbol =
      (table.candidates? symbol).getD [String.singleton symbol] := by
  rw [(shows_editAll table history).lookup, entryAfter_of_untouched untouched]

/-- Each edit of a history answers with the entry that the edits before it left. -/
theorem answer_editAll_eq (before after : List Edit) (edit : Edit) :
    (table.editAll (before ++ edit :: after)).1[before.length]? =
      some (if edit.isRefused then .error ⟨edit.symbol⟩
        else .ok (entryAfter (table.candidates? edit.symbol) edit.symbol before)) := by
  rw [answer_editAll, fst_edit, candidates?_editAll]

/-- A symbol that is registered for itself stands for what it stands for when it is not registered,
and yet the table contains it. -/
theorem lookup_register_self (ordinary : isReserved symbol = false) :
    (∀ other, (table.edit (.register symbol [String.singleton symbol])).2.lookup other =
      (table.edit (.unregister symbol)).2.lookup other) ∧
    (table.edit (.register symbol [String.singleton symbol])).2.contains symbol = true ∧
    (table.edit (.unregister symbol)).2.contains symbol = false := by
  have entry := candidates?_edit table (.register symbol [String.singleton symbol])
  have noEntry := candidates?_edit table (.unregister symbol)
  refine ⟨?_, ?_, ?_⟩
  · intro other
    unfold SymbolTable.lookup
    rw [entry, noEntry]
    by_cases same : symbol = other
    · subst same
      simp [Edit.changes, Edit.symbol, Edit.isRefused, Edit.entry, ordinary]
    · simp [Edit.changes, Edit.symbol, same]
  · rw [contains_eq_isSome, entry]
    simp [Edit.changes, Edit.symbol, Edit.isRefused, Edit.entry, ordinary]
  · rw [contains_eq_isSome, noEntry]
    simp [Edit.changes, Edit.symbol, Edit.isRefused, Edit.entry]

end History

/-- **The last edit wins.** After any history of edits a symbol that is not reserved stands for what
it was last registered with, if it has not been unregistered since; for itself, if it was
unregistered after that; and for what it stood for at first, if no edit was about it. All that the
table tells about itself agrees with the entries that the history leaves, reserved symbols
included. Each edit answers with the entry that was there just before it, save for a registration
of a reserved character: that is refused, and the table stays as it is, while an unregistration
removes any entry. Looking symbols up does not tell a symbol that is registered for itself from one
that is not registered; asking for the entry does. -/
theorem last_edit_wins (table : SymbolTable) (history : List Edit) :
    let last := (table.editAll history).2
    (∀ symbol, isReserved symbol = false →
      (∀ before candidates after, history = before ++ .register symbol candidates :: after →
        (∀ edit ∈ after, edit.symbol ≠ symbol) → last.lookup symbol = candidates) ∧
      (∀ before after, history = before ++ .unregister symbol :: after →
        (∀ candidates, Edit.register symbol candidates ∉ after) →
          last.lookup symbol = [String.singleton symbol]) ∧
      ((∀ edit ∈ history, edit.symbol ≠ symbol) →
        last.lookup symbol = (table.candidates? symbol).getD [String.singleton symbol])) ∧
    Shows last (fun symbol => entryAfter (table.candidates? symbol) symbol history) ∧
    (∀ before edit after, history = before ++ edit :: after →
      (table.editAll history).1[before.length]? =
        some (if edit.isRefused then .error ⟨edit.symbol⟩
          else .ok (entryAfter (table.candidates? edit.symbol) edit.symbol before))) ∧
    (∀ symbol candidates, isReserved symbol = true →
      last.edit (.register symbol candidates) = (.error ⟨symbol⟩, last)) ∧
    (∀ symbol, (last.edit (.unregister symbol)).2.candidates? symbol = none) ∧
    ∀ symbol, isReserved symbol = false →
      let passing := (last.edit (.unregister symbol)).2
      let registered := (last.edit (.register symbol [String.singleton symbol])).2
      (∀ other, registered.lookup other = passing.lookup other) ∧
        registered.contains symbol = true ∧ passing.contains symbol = false := by
  intro last
  refine ⟨?_, shows_editAll table history, ?_, ?_, ?_, ?_⟩
  · intro symbol ordinary
    refine ⟨?_, ?_, lookup_of_untouched table⟩
    · intro before candidates after whole others
      show (table.editAll history).2.lookup symbol = candidates
      rw [whole]
      exact lookup_of_registered table ordinary others
    · intro before after whole unregistered
      show (table.editAll history).2.lookup symbol = [String.singleton symbol]
      rw [whole]
      exact lookup_of_unregistered table unregistered
  · intro before edit after whole
    rw [whole]
    exact answer_editAll_eq table before after edit
  · intro symbol candidates reserved
    exact edit_register_of_isReserved last reserved candidates
  · intro symbol
    rw [candidates?_edit]
    simp [Edit.changes, Edit.symbol, Edit.isRefused, Edit.entry]
  · intro symbol ordinary
    exact lookup_register_self last ordinary

/-- A table with a reserved symbol: `v` is registered for itself in the end, `n` was registered for
nothing and is not registered any more, `z` is left alone, and the reserved symbol goes. -/
theorem last_edit_wins_reserved :
    let table := ofList [('v', ["a", "e"]), ('<', ["x"])]
    let history := [.register 'n' [], .register '<' ["y"], .unregister 'n', .unregister '<',
      .register 'v' ["v"], .unregister 'n']
    let last := (table.editAll history).2
    last.lookup 'v' = ["v"] ∧ last.lookup 'n' = ["n"] ∧ last.lookup 'z' = ["z"] ∧
      (table.editAll history).1[1]? = some (.error ⟨'<'⟩) ∧
      (table.editAll history).1[2]? = some (.ok (some [])) ∧
      (table.editAll history).1[3]? = some (.ok (some ["x"])) ∧
      last.contains 'v' = true ∧ last.contains '<' = false ∧
      last.edit (.register '<' []) = (.error ⟨'<'⟩, last) ∧
      (last.edit (.register 'v' ["v"])).2.lookup 'v' = (last.edit (.unregister 'v')).2.lookup 'v' ∧
      (last.edit (.unregister 'v')).2.contains 'v' = false := by
  intro table history last
  obtain ⟨lookups, shows, answers, refusal, -, passing⟩ := last_edit_wins table history
  obtain ⟨registered, -, -⟩ := lookups 'v' (by decide)
  obtain ⟨-, unregistered, -⟩ := lookups 'n' (by decide)
  obtain ⟨-, -, untouched⟩ := lookups 'z' (by decide)
  obtain ⟨alike, -, missing⟩ := passing 'v' (by decide)
  refine ⟨?_, ?_, ?_, ?_, ?_, ?_, ?_, ?_, ?_, alike 'v', missing⟩
  · exact registered (history.take 4) ["v"] [.unregister 'n'] rfl (by decide)
  · exact unregistered (history.take 5) [] rfl (by simp)
  · exact untouched (by decide)
  · exact answers [.register 'n' []] (.register '<' ["y"]) (history.drop 2) rfl
  · exact answers (history.take 2) (.unregister 'n') (history.drop 3) rfl
  · exact answers (history.take 3) (.unregister '<') (history.drop 4) rfl
  · exact (shows.contains 'v').mpr ⟨["v"], rfl⟩
  · rw [← Bool.not_eq_true, shows.contains]
    rintro ⟨candidates, present⟩
    cases present
  · exact refusal '<' [] rfl

end SymbolTable

end NamePattern
