import NamePattern.Grammar
import Std.Data.ExtTreeMap

/-!
# Symbol tables

A symbol table lists, for some characters, the candidates that the character stands for in a
symbol position of a pattern. Tables are equal when they list the same candidates for the same
characters (`SymbolTable.ext_iff`). Users register no reserved character, yet a table that was
read from a written form may hold one; nothing ever looks it up.
-/

namespace NamePattern

open Std (ExtTreeMap)

/-- The candidates of each registered symbol. -/
structure SymbolTable where
  entries : ExtTreeMap Char (List String)
  deriving DecidableEq

/-- The refusal to register a character that the grammar reserves. -/
structure ReservedSymbol where
  symbol : Char
  deriving DecidableEq, Repr

def ReservedSymbol.message (refusal : ReservedSymbol) : String :=
  "'" ++ String.singleton refusal.symbol ++ "' is reserved by the pattern grammar and cannot be a symbol"

namespace SymbolTable

def empty : SymbolTable := ⟨∅⟩

instance : Inhabited SymbolTable := ⟨empty⟩

/-- The candidates of a symbol, if it is registered. -/
def candidates? (table : SymbolTable) (symbol : Char) : Option (List String) :=
  table.entries[symbol]?

/-- What a symbol stands for: its candidates, or itself when it is not registered. -/
def lookup (table : SymbolTable) (symbol : Char) : List String :=
  (table.candidates? symbol).getD [String.singleton symbol]

def contains (table : SymbolTable) (symbol : Char) : Bool := table.entries.contains symbol

/-- The registered symbols, each once, in increasing order. -/
def symbols (table : SymbolTable) : List Char := table.entries.keys

def toList (table : SymbolTable) : List (Char × List String) := table.entries.toList

def size (table : SymbolTable) : Nat := table.entries.size

def isEmpty (table : SymbolTable) : Bool := table.entries.isEmpty

/-- The table with the candidates of a symbol set, whichever symbol it is. -/
def insert (table : SymbolTable) (symbol : Char) (candidates : List String) : SymbolTable :=
  ⟨table.entries.insert symbol candidates⟩

/-- The table that a list of entries describes: a later entry replaces one before it. -/
def ofList (entries : List (Char × List String)) : SymbolTable :=
  entries.foldl (fun table entry => table.insert entry.1 entry.2) empty

/-- Sets the candidates of a symbol and gives those that they replace; a reserved character is
refused. -/
def register (table : SymbolTable) (symbol : Char) (candidates : List String) :
    Except ReservedSymbol (Option (List String)) × SymbolTable :=
  if isReserved symbol then (.error ⟨symbol⟩, table)
  else (.ok (table.candidates? symbol), table.insert symbol candidates)

/-- Removes a symbol, which then stands for itself; gives the candidates that it had. -/
def unregister (table : SymbolTable) (symbol : Char) : Option (List String) × SymbolTable :=
  (table.candidates? symbol, ⟨table.entries.erase symbol⟩)

/-! ## The view by symbol -/

/-- Two tables are equal when they list the same candidates for every symbol. -/
@[ext] theorem ext {s t : SymbolTable}
    (same : ∀ symbol, s.candidates? symbol = t.candidates? symbol) : s = t := by
  obtain ⟨s⟩ := s
  obtain ⟨t⟩ := t
  exact congrArg SymbolTable.mk (ExtTreeMap.ext_getElem? fun symbol => same symbol)

@[simp] theorem candidates?_empty (symbol : Char) : empty.candidates? symbol = none := by
  simp [candidates?, empty]

theorem candidates?_insert (table : SymbolTable) (symbol : Char) (candidates : List String)
    (other : Char) :
    (table.insert symbol candidates).candidates? other =
      if symbol = other then some candidates else table.candidates? other := by
  simp [candidates?, insert, ExtTreeMap.getElem?_insert]

theorem candidates?_unregister (table : SymbolTable) (symbol other : Char) :
    (table.unregister symbol).2.candidates? other =
      if symbol = other then none else table.candidates? other := by
  simp [candidates?, unregister, ExtTreeMap.getElem?_erase]

theorem candidates?_foldl_insert (entries : List (Char × List String)) (table : SymbolTable)
    (symbol : Char) :
    (entries.foldl (fun table entry => table.insert entry.1 entry.2) table).candidates? symbol =
      (entries.reverse.lookup symbol).or (table.candidates? symbol) := by
  induction entries generalizing table with
  | nil => rfl
  | cons entry rest ih =>
    obtain ⟨other, candidates⟩ := entry
    rw [List.foldl_cons, ih, candidates?_insert, List.reverse_cons, List.lookup_append]
    by_cases same : other = symbol
    · subst same
      simp
    · have differ : (symbol == other) = false := beq_eq_false_iff_ne.mpr (Ne.symm same)
      simp [List.lookup_cons, differ, same]

/-- Of several entries for a symbol the last one stays. -/
theorem candidates?_ofList (entries : List (Char × List String)) (symbol : Char) :
    (ofList entries).candidates? symbol = entries.reverse.lookup symbol := by
  rw [ofList, candidates?_foldl_insert, candidates?_empty, Option.or_none]

/-- What a table that was made from entries lists for a symbol is one of the entries. -/
theorem mem_of_candidates?_ofList {entries : List (Char × List String)} {symbol : Char}
    {candidates : List String}
    (registered : (ofList entries).candidates? symbol = some candidates) :
    (symbol, candidates) ∈ entries := by
  rw [candidates?_ofList, List.lookup_eq_some_iff] at registered
  obtain ⟨later, before, entries_split, -⟩ := registered
  rw [← List.mem_reverse, entries_split]
  exact List.mem_append_right later List.mem_cons_self

theorem contains_eq_isSome (table : SymbolTable) (symbol : Char) :
    table.contains symbol = (table.candidates? symbol).isSome := by
  simp [contains, candidates?]

theorem mem_symbols_iff {table : SymbolTable} {symbol : Char} :
    symbol ∈ table.symbols ↔ table.contains symbol = true := by
  simp [symbols, contains, ExtTreeMap.mem_keys]

theorem length_symbols (table : SymbolTable) : table.symbols.length = table.size := by
  simp [symbols, size]

theorem nodup_symbols (table : SymbolTable) : table.symbols.Nodup := by
  apply ExtTreeMap.distinct_keys.imp
  intro symbol other differ same
  subst same
  exact differ Std.ReflCmp.compare_self

theorem mem_toList_iff {table : SymbolTable} {symbol : Char} {candidates : List String} :
    (symbol, candidates) ∈ table.toList ↔ table.candidates? symbol = some candidates := by
  simp [toList, candidates?, ExtTreeMap.mem_toList_iff_getElem?_eq_some]

theorem length_toList (table : SymbolTable) : table.toList.length = table.size :=
  ExtTreeMap.length_toList

theorem nodup_toList (table : SymbolTable) : table.toList.Nodup := by
  apply ExtTreeMap.distinct_keys_toList.imp
  intro entry other differ same
  subst same
  exact differ Std.ReflCmp.compare_self

theorem lookup_of_candidates? {table : SymbolTable} {symbol : Char} {candidates : List String}
    (registered : table.candidates? symbol = some candidates) :
    table.lookup symbol = candidates := by
  simp [lookup, registered]

/-! ## Registering -/

theorem register_of_isReserved (table : SymbolTable) {symbol : Char}
    (reserved : isReserved symbol = true) (candidates : List String) :
    table.register symbol candidates = (.error ⟨symbol⟩, table) := by
  rw [register, if_pos reserved]

theorem register_of_not_isReserved (table : SymbolTable) {symbol : Char}
    (ordinary : isReserved symbol = false) (candidates : List String) :
    table.register symbol candidates =
      (.ok (table.candidates? symbol), table.insert symbol candidates) := by
  rw [register, if_neg (Bool.eq_false_iff.mp ordinary)]

/-- A registration that is refused leaves the table as it is. -/
theorem register_of_error {table : SymbolTable} {symbol : Char} {candidates : List String}
    {refusal : ReservedSymbol} (refused : (table.register symbol candidates).1 = .error refusal) :
    (table.register symbol candidates).2 = table := by
  cases reserved : isReserved symbol with
  | true => rw [register_of_isReserved table reserved]
  | false =>
    rw [register_of_not_isReserved table reserved] at refused
    cases refused

end SymbolTable

end NamePattern
