import NamePattern.Json
import NamePattern.Proofs.Binary.Canonical

/-!
# A table that is written is loaded

A symbol table has no order of its own, and it may be written with its entries in any order: what
is loaded from it, be it JSON or bytes, is the same table (`SymbolTable.load_written`). Loading
takes the entries one by one into an empty table, so that of several entries for a symbol the last
one stays (`SymbolTable.candidates?_ofList`), and a table is what its own entries make in any order
(`SymbolTable.ofList_eq_of_perm`).
-/

namespace NamePattern

/-! ## Tables from entries -/

namespace SymbolTable

/-- The entries of a table make that table again, whatever their order. -/
theorem ofList_eq_of_perm {table : SymbolTable} {entries : List (Char × List String)}
    (order : entries.Perm table.toList) : ofList entries = table := by
  ext1 symbol
  cases made : (ofList entries).candidates? symbol with
  | some candidates =>
    have member := mem_of_candidates?_ofList made
    exact (mem_toList_iff.mp (order.mem_iff.mp member)).symm
  | none =>
    -- an entry for the symbol would be among those that were put in
    cases listed : table.candidates? symbol with
    | none => rfl
    | some candidates =>
      have member := order.mem_iff.mpr (mem_toList_iff.mpr listed)
      rw [candidates?_ofList, List.lookup_eq_none_iff] at made
      have differ := made _ (List.mem_reverse.mpr member)
      simp at differ

/-! ## JSON -/

/-- The JSON form of a table with these entries, in this order. -/
def jsonOfEntries (entries : List (Char × List String)) : Json :=
  .object [("symbols", .object (entries.map fun entry =>
    (String.singleton entry.1, Json.ofTexts entry.2)))]

theorem toJson_eq (table : SymbolTable) : table.toJson = jsonOfEntries table.toList := rfl

theorem mapM_entryOfJson? (entries : List (Char × List String)) :
    (entries.map fun entry => (String.singleton entry.1, Json.ofTexts entry.2)).mapM
      entryOfJson? = some entries := by
  induction entries with
  | nil => rfl
  | cons entry rest ih => simp [ih]

/-- What is loaded from a JSON form is the table that its entries make. -/
theorem ofJson?_jsonOfEntries (entries : List (Char × List String)) :
    ofJson? (jsonOfEntries entries) = some (ofList entries) := by
  show ((entries.map fun entry => (String.singleton entry.1, Json.ofTexts entry.2)).mapM
    entryOfJson?).map ofList = _
  rw [mapM_entryOfJson?]
  rfl

/-- Where a table is asked for, the form of a table stands for that table. -/
theorem ofSpec?_toJson (table : SymbolTable) : ofSpec? table.toJson = some table := by
  show ofJson? (jsonOfEntries table.toList) = some table
  rw [ofJson?_jsonOfEntries, ofList_eq_of_perm (.refl _)]

end SymbolTable

/-! ## Bytes -/

namespace Binary

theorem utf8ByteSize_singleton_le (c : Char) : (String.singleton c).utf8ByteSize ≤ 4 := by
  rw [String.utf8ByteSize_singleton]
  exact c.utf8Size_le_four

/-- A character is written as a text of one to four bytes, which is within the limit that is looked
at before the bytes. -/
theorem decodeChar_encodeText (c : Char) (rest : List UInt8) :
    decodeChar (encodeText (String.singleton c) ++ rest) = .ok (c, rest) := by
  have short := utf8ByteSize_singleton_le c
  have within : (String.singleton c).utf8ByteSize < Width.bits64.capacity :=
    Nat.lt_of_le_of_lt short (by decide)
  rw [← length_utf8] at short within
  rw [encodeText, List.append_assoc, decodeChar, Decoder.bind_of_ok (decodeNat_encodeNat within _),
    if_neg (Nat.not_lt.mpr short), Decoder.bind_of_ok (Decoder.take_append _ _), ofUtf8?_utf8]
  simp

end Binary

namespace SymbolTable

open Binary

/-- The candidates are no more, and none of them has more bytes, than a number of 64 bits can say. -/
def EncodableEntry (entry : Char × List String) : Prop :=
  entry.2.length < Width.bits64.capacity ∧
    ∀ text ∈ entry.2, text.utf8ByteSize < Width.bits64.capacity

theorem decodeEntry_encodeEntry {entry : Char × List String} (encodable : EncodableEntry entry)
    (rest : List UInt8) : decodeEntry (encodeEntry entry ++ rest) = .ok (entry, rest) := by
  have texts := decodeRow_encodeRow encodable.1
    (fun text member => decodeText_encodeText (encodable.2 text member)) rest
  rw [encodeEntry, List.append_assoc, decodeEntry,
    Decoder.bind_of_ok (decodeChar_encodeText entry.1 _), Decoder.bind_of_ok texts]
  rfl

/-- What is loaded from bytes is the table that their entries make, and nothing of what follows is
touched. -/
theorem decode_encodeEntries {entries : List (Char × List String)}
    (within : entries.length < Width.bits64.capacity)
    (encodable : ∀ entry ∈ entries, EncodableEntry entry) (rest : List UInt8) :
    decode (encodeEntries entries ++ rest) = .ok (ofList entries, rest) := by
  have read := decodeRow_encodeRow within
    (fun entry member => decodeEntry_encodeEntry (encodable entry member)) rest
  rw [decode_eq_bind]
  exact Decoder.bind_of_ok read

theorem code_lt (symbol : Char) : symbol.toNat < 0x110000 := by
  have valid := symbol.valid
  unfold UInt32.isValidChar Nat.isValidChar at valid
  show symbol.val.toNat < _
  omega

/-- There are fewer characters than a number of 64 bits can say, so there are fewer entries. -/
theorem size_lt_capacity (table : SymbolTable) : table.size < Width.bits64.capacity := by
  have codes_nodup : (table.symbols.map Char.toNat).Nodup := by
    rw [List.Nodup, List.pairwise_map]
    exact table.nodup_symbols.imp fun differ same => differ (Char.toNat_inj.mp same)
  have codes_subset : table.symbols.map Char.toNat ⊆ List.range 0x110000 := by
    intro code member
    obtain ⟨symbol, -, rfl⟩ := List.mem_map.mp member
    exact List.mem_range.mpr (code_lt symbol)
  have few := codes_nodup.length_le_of_subset codes_subset
  rw [List.length_map, length_symbols, List.length_range] at few
  exact Nat.lt_of_le_of_lt few (by decide)

/-- **A table that is written is loaded.** In JSON and in bytes the entries of a table may stand in
any order, and what is loaded is the table; bytes that follow it are left over. Any entries at all,
those with the same symbol included, are loaded as if they were put one after the other into an
empty table, so that the last one for a symbol counts. A table may list no candidates for a symbol,
and it may have entries for reserved characters. The bounds on the entries are what the counts in
the bytes can say. -/
theorem load_written (table : SymbolTable) :
    ofJson? table.toJson = some table ∧
    (∀ entries : List (Char × List String), entries.Perm table.toList →
      ofJson? (jsonOfEntries entries) = some table) ∧
    ((∀ entry ∈ table.toList, EncodableEntry entry) →
      ∀ entries : List (Char × List String), entries.Perm table.toList →
        ∀ rest, decode (encodeEntries entries ++ rest) = .ok (table, rest)) ∧
    ∀ entries : List (Char × List String), entries.length < Width.bits64.capacity →
      (∀ entry ∈ entries, EncodableEntry entry) →
        (∀ rest, decode (encodeEntries entries ++ rest) =
          .ok (entries.foldl (fun table entry => table.insert entry.1 entry.2) empty, rest)) ∧
        ∀ symbol, (entries.foldl (fun table entry => table.insert entry.1 entry.2)
          empty).candidates? symbol = entries.reverse.lookup symbol := by
  refine ⟨?_, ?_, ?_, ?_⟩
  · rw [toJson_eq, ofJson?_jsonOfEntries, ofList_eq_of_perm (.refl _)]
  · intro entries order
    rw [ofJson?_jsonOfEntries, ofList_eq_of_perm order]
  · intro encodable entries order rest
    have within : entries.length < Width.bits64.capacity := by
      rw [order.length_eq, length_toList]
      exact size_lt_capacity table
    have encodable' : ∀ entry ∈ entries, EncodableEntry entry := by
      intro entry member
      exact encodable entry (order.mem_iff.mp member)
    rw [decode_encodeEntries within encodable', ofList_eq_of_perm order]
  · intro entries within encodable
    refine ⟨?_, candidates?_ofList entries⟩
    intro rest
    exact decode_encodeEntries within encodable rest

/-- A table with a reserved symbol, a symbol of four bytes that stands for nothing, and a symbol that
is written twice. -/
theorem load_written_reserved :
    let table := ofList [('😀', []), ('<', ["x"]), ('é', ["ö", ""])]
    ofJson? table.toJson = some table ∧
      ofJson? (jsonOfEntries [('é', ["ö", ""]), ('😀', []), ('<', ["x"])]) = some table ∧
      decode (encodeEntries [('é', ["ö", ""]), ('😀', []), ('<', ["x"])] ++ [7]) =
        .ok (table, [7]) ∧
      (∃ loaded, decode (encodeEntries [('v', ["a"]), ('<', []), ('v', ["e", "i"])] ++ [7]) =
          .ok (loaded, [7]) ∧
        loaded.candidates? 'v' = some ["e", "i"] ∧ loaded.candidates? '<' = some []) := by
  intro table
  have listed : table.toList = [('<', ["x"]), ('é', ["ö", ""]), ('😀', [])] := by decide +kernel
  have order : [('é', ["ö", ""]), ('😀', []), ('<', ["x"])].Perm table.toList := by
    rw [listed]
    decide
  have encodable : ∀ entry ∈ table.toList, EncodableEntry entry := by
    rw [listed]
    simp only [EncodableEntry, List.forall_mem_cons, List.not_mem_nil, false_implies, implies_true,
      and_true]
    decide
  have encodable' : ∀ entry ∈ [('v', ["a"]), ('<', []), ('v', ["e", "i"])], EncodableEntry entry := by
    simp only [EncodableEntry, List.forall_mem_cons, List.not_mem_nil, false_implies, implies_true,
      and_true]
    decide
  obtain ⟨json, jsonInOrder, bytesInOrder, anyEntries⟩ := load_written table
  obtain ⟨loaded, counts⟩ := anyEntries _ (by decide) encodable'
  exact ⟨json, jsonInOrder _ order, bytesInOrder encodable _ order [7],
    _, loaded [7], counts 'v', counts '<'⟩

end SymbolTable

end NamePattern
