import NamePattern.Generator.Measure
import NamePattern.Proofs.Binary.Consistent

/-!
# What is read is no larger than its bytes

Bytes can declare any number of elements, yet a row of more elements than there are bytes is given
up when the bytes are used up (`replicate_eq_min`), and every value that is read takes at least as
many bytes as it weighs (`Decoder.Covers`): a generator weighs its nodes, a symbol table its
entries and their candidates. Together with the order in which the bytes are looked at this makes
decoding a matter of a front of the bytes (`Decoder.PrefixConsistent`).
-/

namespace NamePattern

theorem total_map_one_add {α : Type} (weight : α → Nat) (values : List α) :
    total (values.map fun value => 1 + weight value) =
      values.length + total (values.map weight) := by
  induction values with
  | nil => rfl
  | cons value values ih =>
    simp only [List.map_cons, total_cons, List.length_cons, ih]
    omega

/-- Values that are all different weigh no more than a list in which they all occur. -/
theorem total_map_le_of_subset {α : Type} (weight : α → Nat) {values others : List α}
    (distinct : values.Nodup) (occur : ∀ value ∈ values, value ∈ others) :
    total (values.map weight) ≤ total (others.map weight) := by
  induction values generalizing others with
  | nil => exact Nat.zero_le _
  | cons value values ih =>
    rw [List.nodup_cons] at distinct
    obtain ⟨front, back, rfl⟩ := List.append_of_mem (occur value List.mem_cons_self)
    have remaining : total (values.map weight) ≤ total ((front ++ back).map weight) := by
      apply ih distinct.2
      intro other member
      have differs : other ≠ value := fun same => distinct.1 (same ▸ member)
      have member' := occur other (List.mem_cons_of_mem value member)
      simp only [List.mem_append, List.mem_cons] at member' ⊢
      rcases member' with inFront | same | inBack
      · exact .inl inFront
      · exact absurd same differs
      · exact .inr inBack
    simp only [List.map_append, List.map_cons, total_append, total_cons] at remaining ⊢
    omega

namespace Binary

namespace Decoder

variable {α β : Type}

/-! ## Values and the bytes that they take -/

/-- Every value takes at least as many bytes as it weighs. -/
def Covers (decoder : Decoder α) (weight : α → Nat) : Prop :=
  ∀ ⦃bytes value rest⦄, decoder bytes = .ok (value, rest) →
    weight value + rest.length ≤ bytes.length

theorem Consistent.covers_one {decoder : Decoder α} (consistent : Consistent decoder)
    {error : DecodeError} (blank : decoder [] = .error error) : Covers decoder fun _ => 1 := by
  intro bytes value rest read
  show 1 + rest.length ≤ bytes.length
  have shorter := consistent.length_lt blank read
  omega

/-- What is read in two steps takes the bytes of both. -/
theorem Covers.bind {first : Decoder α} {next : α → Decoder β} {weight : α → Nat}
    {later : α → β → Nat} {whole : β → Nat} (covers : Covers first weight)
    (covers' : ∀ taken, Covers (next taken) (later taken))
    (shared : ∀ taken value, whole value ≤ weight taken + later taken value) :
    Covers (first >>= next) whole := by
  intro bytes value rest read
  obtain ⟨taken, middle, start, finish⟩ := bind_eq_ok_iff.mp read
  have start := covers start
  have finish := covers' taken finish
  have parts := shared taken value
  omega

theorem Covers.replicate {element : Decoder α} {weight : α → Nat} (covers : Covers element weight)
    (count : Nat) :
    Covers (Decoder.replicate element count) fun values => total (values.map weight) := by
  induction count with
  | zero =>
    intro bytes values rest read
    obtain ⟨rfl, rfl⟩ := pure_eq_ok_iff.mp read
    exact Nat.le_of_eq (Nat.zero_add _)
  | succ count ih =>
    intro bytes values rest read
    obtain ⟨value, middle, start, later⟩ := bind_eq_ok_iff.mp read
    obtain ⟨others, left, finish, whole⟩ := bind_eq_ok_iff.mp later
    obtain ⟨rfl, rfl⟩ := pure_eq_ok_iff.mp whole
    have start := covers start
    have finish : total (others.map weight) + left.length ≤ middle.length := ih finish
    simp only [List.map_cons, total_cons]
    omega

theorem Covers.map {decoder : Decoder α} {weight : α → Nat} {make : α → β} {whole : β → Nat}
    (covers : Covers decoder weight) (le : ∀ inner, whole (make inner) ≤ weight inner) :
    Covers (decoder >>= fun inner => pure (make inner)) whole := by
  intro bytes value rest read
  obtain ⟨inner, middle, taken, made⟩ := bind_eq_ok_iff.mp read
  obtain ⟨rfl, rfl⟩ := pure_eq_ok_iff.mp made
  exact Nat.le_trans (Nat.add_le_add_right (le inner) _) (covers taken)

/-! ## Fronts -/

/-- Reading is a matter of a front of the bytes. What follows a value changes nothing, a front
that is cut short lacks bytes and has no other error, and the value weighs no more than its front
has bytes; any other error stays whatever follows. -/
structure PrefixConsistent (decoder : Decoder α) (weight : α → Nat) : Prop where
  value : ∀ {bytes value rest}, decoder bytes = .ok (value, rest) →
    ∃ front, bytes = front ++ rest ∧ (∀ other, decoder (front ++ other) = .ok (value, other)) ∧
      (∀ part, part <+: front → part ≠ front → decoder part = .error .unexpectedEnd) ∧
      weight value ≤ front.length
  error : ∀ {bytes error}, decoder bytes = .error error → error ≠ .unexpectedEnd →
    ∀ more, decoder (bytes ++ more) = .error error

theorem Consistent.prefixConsistent {decoder : Decoder α} {weight : α → Nat}
    (consistent : Consistent decoder) (covers : Covers decoder weight) :
    PrefixConsistent decoder weight where
  value := by
    intro bytes value rest read
    obtain ⟨front, rfl, again⟩ := consistent.determined read
    refine ⟨front, rfl, again, fun part shorter proper => consistent.cut read shorter proper, ?_⟩
    have whole := covers read
    rw [List.length_append] at whole
    omega
  error := consistent.settled

/-! ## Rows that are too long -/

/-- However many elements are declared, no more are tried than there are bytes, and one. -/
theorem replicate_eq_min {element : Decoder α} (consistent : Consistent element)
    {error : DecodeError} (blank : element [] = .error error) (count : Nat) (bytes : List UInt8) :
    replicate element count bytes = replicate element (min count (bytes.length + 1)) bytes := by
  rcases Nat.lt_or_ge bytes.length count with many | few
  · obtain ⟨reason, refused⟩ := exists_error_replicate consistent blank bytes
    rw [Nat.min_eq_right many, refused count many, refused _ (Nat.lt_succ_self _)]
  · rw [Nat.min_eq_left (by omega)]

end Decoder

open Decoder (Covers)

/-! ## Texts and rows -/

theorem covers_decodeNat (width : Width) : Covers (decodeNat width) fun _ => 1 :=
  (consistent_decodeNat width).covers_one (decodeNat_nil width)

theorem decodeText_nil : decodeText [] = .error .unexpectedEnd := by
  rfl

theorem covers_decodeText : Covers decodeText fun _ => 1 :=
  consistent_decodeText.covers_one decodeText_nil

theorem covers_decodeChar : Covers decodeChar fun _ => 1 := by
  have blank : decodeChar [] = .error .unexpectedEnd := rfl
  exact consistent_decodeChar.covers_one blank

theorem covers_decodeRow {α : Type} {element : Decoder α} {weight : α → Nat}
    (covers : Covers element weight) :
    Covers (decodeRow element) fun values => 1 + total (values.map weight) :=
  (covers_decodeNat .bits64).bind (fun count => covers.replicate count) fun _ _ => Nat.le_refl _

end Binary

/-! ## Generators -/

namespace Generator

open Binary
open Decoder (Covers)

theorem covers_decodeNode {inner : Decoder Generator} (covers : Covers inner nodeCount)
    (kind : Nat) : Covers (decodeNode inner kind) fun g => g.nodeCount - 1 := by
  -- the node itself is paid for by its kind, which was taken before
  unfold decodeNode
  split
  · apply covers_decodeText.map
    intro text
    simp
  · apply (covers_decodeRow covers).map
    intro options
    rw [nodeCount_choice]
    omega
  · apply (covers_decodeRow covers).map
    intro parts
    rw [nodeCount_concatenation]
    omega
  · apply covers.map
    intro child
    rw [nodeCount_capitalize]
    omega
  · intro bytes g rest read
    cases read

/-- Each node takes the byte of its kind at least. -/
theorem covers_decodeWithin (depth : Nat) : Covers (decodeWithin depth) nodeCount := by
  induction depth with
  | zero =>
    intro bytes g rest read
    cases read
  | succ depth ih =>
    rw [decodeWithin_succ]
    apply (covers_decodeNat .bits32).bind (covers_decodeNode ih)
    intro kind g
    omega

theorem covers_decode : Covers decode nodeCount := by
  intro bytes g rest read
  exact covers_decodeWithin bytes.length read

theorem decode_nil : decode [] = .error .unexpectedEnd := by
  rfl

/-- The recursion of a node into its children ends on all bytes: only one decoder obeys it. -/
theorem recursive_iff {decoder : Decoder Generator} :
    decoder = decodeNat .bits32 >>= decodeNode decoder ↔ decoder = decode := by
  constructor
  · intro recursive
    funext bytes
    induction size : bytes.length using Nat.strongRecOn generalizing bytes with
    | ind size ih =>
      subst size
      rw [recursive, decode_eq]
      -- both take the same kind, and then only bytes are left on which they agree
      refine Decoder.bind_congr rfl fun kind middle read => ?_
      have shorter := (consistent_decodeNat .bits32).length_lt (decodeNat_nil _) read
      have agree : ∀ others : List UInt8, others.length ≤ middle.length →
          decode others = decoder others := by
        intro others within
        exact (ih others.length (by omega) others rfl).symm
      exact (decodeNode_congr consistent_decode agree kind (Nat.le_refl _)).symm
  · rintro rfl
    exact decode_eq

end Generator

/-! ## Symbol tables -/

namespace SymbolTable

open Binary
open Decoder (Covers)

/-- The entries and the candidates that they list. -/
def itemCount (table : SymbolTable) : Nat :=
  table.size + total (table.toList.map fun entry => entry.2.length)

/-- A table lists no more than the entries that it was made from. -/
theorem itemCount_ofList_le (entries : List (Char × List String)) :
    (ofList entries).itemCount ≤ total (entries.map fun entry => 1 + entry.2.length) := by
  rw [itemCount, ← length_toList, ← total_map_one_add]
  apply total_map_le_of_subset _ (nodup_toList _)
  intro entry listed
  exact mem_of_candidates?_ofList (mem_toList_iff.mp listed)

theorem decodeEntry_nil : decodeEntry [] = .error .unexpectedEnd := by
  rfl

theorem covers_decodeEntry : Covers decodeEntry fun entry => 1 + entry.2.length := by
  have behind : ∀ symbol : Char,
      Covers (decodeRow decodeText >>= fun candidates => pure (symbol, candidates))
        fun entry : Char × List String => entry.2.length := by
    intro symbol
    apply (covers_decodeRow covers_decodeText).map
    intro candidates
    rw [total_map_one]
    exact Nat.le_add_left _ 1
  exact covers_decodeChar.bind behind fun _ _ => Nat.le_refl _

theorem covers_decode : Covers decode itemCount := by
  rw [decode_eq_bind]
  apply (covers_decodeRow covers_decodeEntry).map
  intro entries
  have fewer := itemCount_ofList_le entries
  omega

end SymbolTable

section Decoding

open Binary

/-- Generators and symbol tables are decoded from a front of the bytes, and neither a generator's
nodes nor a table's entries and candidates are more than the bytes that they were read from. The
bytes may declare what they like: the recursion into the nodes ends on all bytes, so that it has
one outcome only, and of a row no more elements than there are bytes are taken before it ends. A
table is decoded as the row of its entries. -/
theorem decode_prefixConsistent :
    Decoder.PrefixConsistent Generator.decode Generator.nodeCount ∧
    Decoder.PrefixConsistent SymbolTable.decode SymbolTable.itemCount ∧
    (∀ decoder, decoder = decodeNat .bits32 >>= Generator.decodeNode decoder ↔
      decoder = Generator.decode) ∧
    (SymbolTable.decode =
      decodeRow SymbolTable.decodeEntry >>= fun entries => pure (.ofList entries)) ∧
    (∀ (count : Nat) (bytes : List UInt8),
      Decoder.replicate Generator.decode count bytes =
        Decoder.replicate Generator.decode (min count (bytes.length + 1)) bytes ∧
      Decoder.replicate SymbolTable.decodeEntry count bytes =
        Decoder.replicate SymbolTable.decodeEntry (min count (bytes.length + 1)) bytes ∧
      Decoder.replicate decodeText count bytes =
        Decoder.replicate decodeText (min count (bytes.length + 1)) bytes) := by
  refine ⟨Generator.consistent_decode.prefixConsistent Generator.covers_decode,
    SymbolTable.consistent_decode.prefixConsistent SymbolTable.covers_decode,
    fun decoder => Generator.recursive_iff, SymbolTable.decode_eq_bind,
    fun count bytes => ⟨?_, ?_, ?_⟩⟩
  · exact Decoder.replicate_eq_min Generator.consistent_decode Generator.decode_nil count bytes
  · exact Decoder.replicate_eq_min SymbolTable.consistent_decodeEntry SymbolTable.decodeEntry_nil
      count bytes
  · exact Decoder.replicate_eq_min consistent_decodeText decodeText_nil count bytes

/-- A generator and a table whose first entry is replaced by its second, each with a byte behind it,
and a text that is wrong for good. -/
theorem decode_prefixConsistent_front :
    Generator.decode [1, 2, 0, 0, 0, 1, 97, 255] =
      .ok (.choice [.literal "", .literal "a"], [255]) ∧
    (∃ front, [1, 2, 0, 0, 0, 1, 97, 255] = front ++ [255] ∧
      (∀ other, Generator.decode (front ++ other) =
        .ok (.choice [.literal "", .literal "a"], other)) ∧
      (∀ part, part <+: front → part ≠ front → Generator.decode part = .error .unexpectedEnd) ∧
      (Generator.choice [.literal "", .literal "a"]).nodeCount ≤ front.length) ∧
    SymbolTable.decode [2, 1, 97, 1, 1, 98, 1, 97, 0, 7] = .ok (.ofList [('a', [])], [7]) ∧
    (∃ front, [2, 1, 97, 1, 1, 98, 1, 97, 0, 7] = front ++ [7] ∧
      (∀ other, SymbolTable.decode (front ++ other) = .ok (.ofList [('a', [])], other)) ∧
      (∀ part, part <+: front → part ≠ front → SymbolTable.decode part = .error .unexpectedEnd) ∧
      (SymbolTable.ofList [('a', [])]).itemCount ≤ front.length) ∧
    (∀ more, Generator.decode ([0, 1, 255] ++ more) = .error .notUtf8) ∧
    ∀ more, SymbolTable.decode ([1, 5] ++ more) = .error .notChar := by
  have read : Generator.decode [1, 2, 0, 0, 0, 1, 97, 255] =
      .ok (.choice [.literal "", .literal "a"], [255]) := by rfl
  have read' : SymbolTable.decode [2, 1, 97, 1, 1, 98, 1, 97, 0, 7] =
      .ok (.ofList [('a', [])], [7]) := by rfl
  have refused : Generator.decode [0, 1, 255] = .error .notUtf8 := by rfl
  have refused' : SymbolTable.decode [1, 5] = .error .notChar := by rfl
  obtain ⟨generators, tables, -⟩ := decode_prefixConsistent
  exact ⟨read, generators.value read, read', tables.value read',
    generators.error refused (by decide), tables.error refused' (by decide)⟩

end Decoding

end NamePattern
