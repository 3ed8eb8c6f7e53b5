import NamePattern.Proofs.Generator.Building
import NamePattern.Proofs.Generator.Lengths
import NamePattern.Proofs.Pattern.Brackets
import NamePattern.Proofs.Pattern.Related
import NamePattern.Proofs.Pattern.Spelling

/-!
# More candidates, more texts

If the symbols of a pattern have all their candidates in another table too, and maybe more, then the
pattern gives no fewer texts under the other table (`compile_enlarged`). The two generators may
differ in shape, since a symbol with one candidate is merged into its neighbours and a symbol with
several is not; what building keeps is that each text of one is a text of the other
(`keptByBuilding_includedIn`). A symbol without candidates has to be left out: it gives the empty
text, which it no longer gives when it has a candidate.
-/

namespace NamePattern

namespace Generator

/-! ## Inclusion of languages -/

/-- Each text that the one generator can give the other one can give too. -/
def IncludedIn (g h : Generator) : Prop := ∀ text, Gives g text → Gives h text

section Building

variable {options others parts : List Generator} {text : String}

theorem gives_oneOf_iff : Gives (oneOf options) text ↔ Gives (choice options) text := by
  rw [← mem_texts_iff, ← mem_texts_iff, seesChosen_texts.oneOf]

theorem gives_join_iff : Gives (join parts) text ↔ Gives (concatenation parts) text := by
  rw [← mem_texts_iff, ← mem_texts_iff, seesJoined_texts.join]

theorem includedIn_choice (each : List.Forall₂ IncludedIn options others) :
    IncludedIn (choice options) (choice others) := by
  intro text given
  cases given with
  | none =>
    cases each
    exact .none
  | choice member given =>
    obtain ⟨place, within, rfl⟩ := List.getElem_of_mem member
    have within' : place < others.length := each.length_eq ▸ within
    have larger : IncludedIn options[place] others[place] := each.get within within'
    exact .choice (List.getElem_mem within') (larger text given)

theorem includedIn_concatenation (each : List.Forall₂ IncludedIn parts others) :
    IncludedIn (concatenation parts) (concatenation others) := by
  induction each with
  | nil => exact fun text given => given
  | cons larger _ ih =>
    intro text given
    cases given with
    | cons front back => exact .cons (larger _ front) (ih _ back)

theorem includedIn_capitalize {g h : Generator} (larger : IncludedIn g h) :
    IncludedIn (capitalize g) (capitalize h) := by
  intro text given
  cases given with
  | capitalize given => exact .capitalize (larger _ given)

theorem keptByBuilding_includedIn : KeptByBuilding IncludedIn where
  oneOf each text given := by
    rw [gives_oneOf_iff] at given ⊢
    exact includedIn_choice each text given
  join each text given := by
    rw [gives_join_iff] at given ⊢
    exact includedIn_concatenation each text given

end Building

/-! ## Lengths and samples -/

section Included

variable {g h : Generator} (larger : IncludedIn g h)
include larger

theorem IncludedIn.minLength_le : h.minLength ≤ g.minLength := by
  obtain ⟨text, given, shortest⟩ := exists_gives_length_eq selects_min? g
  rw [← minLength_eq_lengthBy] at shortest
  rw [← shortest]
  exact (larger text given).minLength_le

theorem IncludedIn.le_maxLength : g.maxLength ≤ h.maxLength := by
  obtain ⟨text, given, longest⟩ := exists_gives_length_eq selects_max? g
  rw [← maxLength_eq_lengthBy] at longest
  rw [← longest]
  exact (larger text given).le_maxLength

/-- What the one generator draws the other one draws too, if the words can reach all its options. -/
theorem IncludedIn.exists_generate_eq (small : h.choicesBelow 4294967296 = true) (words : Words)
    (position : Nat) :
    ∃ words', (generate words' h position).1 = (generate words g position).1 := by
  simp only [generate_eq_sample]
  exact exists_sample_eq (larger _ (gives_sample words g position)) small position

end Included

end Generator

open Generator (oneOf literal Gives IncludedIn mem_texts_iff)

/-! ## Symbols -/

/-- A symbol gives its candidates, and the empty text if it has none. -/
theorem gives_charPiece_symbol {table : SymbolTable} {symbol : Char} {text : String} :
    Gives (charPiece table .symbol symbol) text ↔
      text ∈ table.lookup symbol ∨ table.lookup symbol = [] ∧ text = "" := by
  show Gives (oneOf ((table.lookup symbol).map literal)) text ↔ _
  rw [Generator.gives_oneOf_iff, ← mem_texts_iff]
  by_cases none : table.lookup symbol = []
  · rw [none, List.map_nil, Generator.mem_texts_choice_nil]
    simp
  · have filled : (table.lookup symbol).map literal ≠ [] := by simpa using none
    rw [Generator.mem_texts_choice filled]
    simp [Generator.mem_texts_literal, none]

/-- Each symbol of a pattern has candidates, and it has all of them in the other table too. -/
structure EnlargedFor (pattern : String) (table larger : SymbolTable) : Prop where
  filled : ∀ symbol ∈ symbolsOf pattern, table.lookup symbol ≠ []
  listed : ∀ symbol ∈ symbolsOf pattern,
    ∀ text ∈ table.lookup symbol, text ∈ larger.lookup symbol

theorem EnlargedFor.includedIn_charPiece {pattern : String} {table larger : SymbolTable}
    (enlarged : EnlargedFor pattern table larger) {symbol : Char}
    (member : symbol ∈ symbolsOf pattern) :
    IncludedIn (charPiece table .symbol symbol) (charPiece larger .symbol symbol) := by
  intro text given
  rw [gives_charPiece_symbol] at given ⊢
  rcases given with candidate | ⟨none, -⟩
  · exact .inl (enlarged.listed symbol member text candidate)
  · exact absurd none (enlarged.filled symbol member)

/-! ## Patterns of one symbol -/

section OneSymbol

variable {table : SymbolTable} {symbol : Char}

/-- A pattern of one symbol compiles to what the symbol stands for. -/
theorem compile_singleton (table : SymbolTable) (ordinary : isReserved symbol = false) :
    compile table (String.singleton symbol) false = .ok (charPiece table .symbol symbol) := by
  let body := Body.last (.cons (.char symbol ordinary) .nil)
  have written : body.text = String.singleton symbol := rfl
  have meant : body.generator table .symbol = charPiece table .symbol symbol :=
    Generator.join_singleton _
  rw [compile_false, ← written, compileBody_text, meant]

theorem mem_symbolsOf_singleton {other : Char}
    (member : other ∈ symbolsOf (String.singleton symbol)) : other = symbol := by
  obtain ⟨front, behind, split, -, -⟩ := exists_of_mem_symbolsIn member
  have among : other ∈ (String.singleton symbol).toList := by
    rw [split]
    exact List.mem_append_right front List.mem_cons_self
  simpa using among

theorem lookup_insert_nil (table : SymbolTable) (symbol : Char) :
    (table.insert symbol []).lookup symbol = [] := by
  apply SymbolTable.lookup_of_candidates?
  rw [SymbolTable.candidates?_insert, if_pos rfl]

/-- A symbol without candidates gives the empty text. With candidates it does so only if one of them
is empty. -/
theorem gives_empty_of_none (filled : table.lookup symbol ≠ []) (texts : "" ∉ table.lookup symbol) :
    Gives (charPiece (table.insert symbol []) .symbol symbol) "" ∧
      ¬ Gives (charPiece table .symbol symbol) "" := by
  rw [gives_charPiece_symbol, gives_charPiece_symbol]
  exact ⟨.inr ⟨lookup_insert_nil table symbol, rfl⟩,
    fun given => given.elim texts fun blank => filled blank.1⟩

end OneSymbol

/-! ## Compiled patterns -/

theorem EnlargedFor.exists_compile {pattern : String} {table larger : SymbolTable}
    (enlarged : EnlargedFor pattern table larger) {capitalize : Bool} {g : Generator}
    (compiled : compile table pattern capitalize = .ok g) :
    ∃ h, compile larger pattern capitalize = .ok h ∧ IncludedIn g h := by
  have plain {g : Generator} (compiled : compile table pattern false = .ok g) :
      ∃ h, compile larger pattern false = .ok h ∧ IncludedIn g h := by
    rw [compile_false] at compiled ⊢
    exact compileBody_related Generator.keptByBuilding_includedIn (fun _ _ given => given)
      (fun _ member => enlarged.includedIn_charPiece member) compiled
  cases capitalize with
  | false => exact plain compiled
  | true =>
    rw [compile_true] at compiled ⊢
    cases body : compile table pattern false with
    | error error =>
      rw [body] at compiled
      cases compiled
    | ok inner =>
      rw [body] at compiled
      cases compiled
      obtain ⟨h, compiled', included⟩ := plain body
      refine ⟨.capitalize h, ?_, Generator.includedIn_capitalize included⟩
      rw [compiled']
      rfl

/-- **More candidates, more texts.** A pattern whose symbols have candidates, and have all of them in
a larger table too, compiles under both tables or under neither. Under the larger one it gives every
text that it gives under the other one, so that the shortest of its texts is no longer and the
longest no shorter, and each sample is drawn there too if the words can reach all options. For a
symbol without candidates that is not so: it gives the empty text, which it no longer gives under a
table in which it has candidates that are not empty. -/
theorem compile_enlarged (table larger : SymbolTable) (pattern : String) (capitalize : Bool) :
    (EnlargedFor pattern table larger →
      ((∃ g, compile table pattern capitalize = .ok g) ↔
        ∃ h, compile larger pattern capitalize = .ok h) ∧
      ∀ g h, compile table pattern capitalize = .ok g → compile larger pattern capitalize = .ok h →
        (∀ text, Gives g text → Gives h text) ∧
        h.minLength ≤ g.minLength ∧ g.maxLength ≤ h.maxLength ∧
        (h.choicesBelow 4294967296 = true → ∀ words position, ∃ words',
          (Generator.generate words' h position).1 = (Generator.generate words g position).1)) ∧
    ∀ symbol, isReserved symbol = false → larger.lookup symbol ≠ [] → "" ∉ larger.lookup symbol →
      (∀ other ∈ symbolsOf (String.singleton symbol),
        ∀ text ∈ (larger.insert symbol []).lookup other, text ∈ larger.lookup other) ∧
      ∃ g h, compile (larger.insert symbol []) (String.singleton symbol) false = .ok g ∧
        compile larger (String.singleton symbol) false = .ok h ∧ Gives g "" ∧ ¬ Gives h "" := by
  refine ⟨fun enlarged => ⟨?_, ?_⟩, ?_⟩
  · rw [exists_compile_eq_ok_iff, exists_compile_eq_ok_iff]
  · intro g h compiled compiled'
    obtain ⟨h', same, included⟩ := enlarged.exists_compile compiled
    rw [compiled', Except.ok.injEq] at same
    subst same
    exact ⟨included, included.minLength_le, included.le_maxLength,
      fun small words position => included.exists_generate_eq small words position⟩
  · intro symbol ordinary filled texts
    obtain ⟨given, missing⟩ := gives_empty_of_none filled texts
    refine ⟨?_, _, _, compile_singleton _ ordinary, compile_singleton _ ordinary, given, missing⟩
    intro other member text candidate
    rw [mem_symbolsOf_singleton member, lookup_insert_nil] at candidate
    cases candidate

/-- Under the larger table no two characters are merged, and the candidates are in another order. -/
theorem compile_enlarged_vowel :
    let table := SymbolTable.ofList [('v', ["a"])]
    let larger := SymbolTable.ofList [('v', ["e", "a"]), ('k', [])]
    let vowel := Generator.choice [.literal "e", .literal "a"]
    let g := Generator.capitalize (.choice [.literal "ka", .literal "ax"])
    let h := Generator.capitalize (.choice [.concatenation [.literal "k", vowel],
      .concatenation [vowel, .literal "x"]])
    EnlargedFor "(k)v|v(x)" table larger ∧
      compile table "(k)v|v(x)" true = .ok g ∧ compile larger "(k)v|v(x)" true = .ok h ∧
      (∀ text, Gives g text → Gives h text) ∧
      h.minLength ≤ g.minLength ∧ g.maxLength ≤ h.maxLength ∧
      (∀ words position, ∃ words',
        (Generator.generate words' h position).1 = (Generator.generate words g position).1) ∧
      isReserved 'v' = false ∧ larger.lookup 'v' ≠ [] ∧ "" ∉ larger.lookup 'v' ∧
      ∃ before after, compile (larger.insert 'v' []) "v" false = .ok before ∧
        compile larger "v" false = .ok after ∧ Gives before "" ∧ ¬ Gives after "" := by
  intro table larger vowel g h
  have symbols : symbolsOf "(k)v|v(x)" = ['v', 'v'] := by decide
  have enlarged : EnlargedFor "(k)v|v(x)" table larger := by
    constructor
    all_goals
      rw [symbols]
      intro symbol member
      simp only [List.mem_cons, List.not_mem_nil, or_false, or_self] at member
      subst member
      decide
  have compiled : compile table "(k)v|v(x)" true = .ok g := rfl
  have compiled' : compile larger "(k)v|v(x)" true = .ok h := rfl
  have filled : larger.lookup 'v' ≠ [] := by decide
  have texts : "" ∉ larger.lookup 'v' := by decide
  obtain ⟨more, fails⟩ := compile_enlarged table larger "(k)v|v(x)" true
  obtain ⟨included, shortest, longest, drawn⟩ := (more enlarged).2 g h compiled compiled'
  exact ⟨enlarged, compiled, compiled', included, shortest, longest, drawn (by decide), rfl, filled,
    texts, (fails 'v' rfl filled texts).2⟩

end NamePattern
