import NamePattern.Proofs.Binary.Consistent

/-!
# The written form of a generator is read back and is the shortest

`Generator.encode` writes a generator so that `Generator.decode` reads it back whatever follows
(`decode_encode`), and no bytes that are read as the same generator are shorter
(`shortestForm_decode`). Both are built up from numbers to texts, rows and nodes. What makes other
bytes longer are groups of a number that are zero and not needed; a text has one form in UTF-8.
-/

namespace NamePattern

namespace Binary

/-! ## Shortest forms -/

/-- A form that is no longer than the bytes, and as long only if it is the bytes. -/
structure Shortest (form bytes : List UInt8) : Prop where
  length_le : form.length ≤ bytes.length
  eq_of_length_eq : form.length = bytes.length → form = bytes

namespace Shortest

theorem refl (form : List UInt8) : Shortest form form := ⟨Nat.le_refl _, fun _ => rfl⟩

theorem of_length_lt {form bytes : List UInt8} (shorter : form.length < bytes.length) :
    Shortest form bytes :=
  ⟨Nat.le_of_lt shorter, fun same => absurd same (Nat.ne_of_lt shorter)⟩

theorem append {form form' bytes bytes' : List UInt8} (shortest : Shortest form bytes)
    (shortest' : Shortest form' bytes') : Shortest (form ++ form') (bytes ++ bytes') where
  length_le := by
    simp only [List.length_append]
    exact Nat.add_le_add shortest.length_le shortest'.length_le
  eq_of_length_eq := by
    intro same
    have bound := shortest.length_le
    have bound' := shortest'.length_le
    simp only [List.length_append] at same
    rw [shortest.eq_of_length_eq (by omega), shortest'.eq_of_length_eq (by omega)]

theorem length_eq_iff {form bytes : List UInt8} (shortest : Shortest form bytes) :
    form.length = bytes.length ↔ bytes = form := by
  constructor
  · exact fun same => (shortest.eq_of_length_eq same).symm
  · exact fun same => by rw [same]

end Shortest

namespace Decoder

section ShortestForm

variable {α β : Type}

/-- No bytes from which a value is read are a shorter form of it than what `encode` writes. -/
def ShortestForm (encode : α → List UInt8) (decoder : Decoder α) : Prop :=
  ∀ ⦃bytes value rest⦄, decoder bytes = .ok (value, rest) →
    ∃ front, bytes = front ++ rest ∧ Shortest (encode value) front

theorem byte_eq_ok_iff {bytes rest : List UInt8} {first : UInt8} :
    byte bytes = .ok (first, rest) ↔ bytes = first :: rest := by
  cases bytes <;> simp

theorem take_eq_ok_iff {count : Nat} {bytes front rest : List UInt8} :
    take count bytes = .ok (front, rest) ↔ bytes = front ++ rest ∧ front.length = count := by
  constructor
  · intro taken
    unfold take at taken
    split at taken
    · next enough =>
      cases taken
      exact ⟨(List.take_append_drop count bytes).symm, List.length_take_of_le enough⟩
    · cases taken
  · rintro ⟨rfl, rfl⟩
    exact take_append front rest

/-- A value that was made out of another one was read in the form of that one. -/
theorem ShortestForm.exists_of_bind_pure {decoder : Decoder α} {encode : α → List UInt8}
    (shortest : ShortestForm encode decoder) {make : α → β} {bytes rest : List UInt8} {value : β}
    (read : (decoder >>= fun inner => pure (make inner)) bytes = .ok (value, rest)) :
    ∃ inner front, value = make inner ∧ bytes = front ++ rest ∧ Shortest (encode inner) front := by
  obtain ⟨inner, middle, taken, whole⟩ := bind_eq_ok_iff.mp read
  obtain ⟨rfl, rfl⟩ := pure_eq_ok_iff.mp whole
  obtain ⟨front, rfl, form⟩ := shortest taken
  exact ⟨inner, front, rfl, rfl, form⟩

/-- Values that are written one after the other are taken one after the other. -/
theorem replicate_flatMap {element : Decoder α} {encode : α → List UInt8} {values : List α}
    (reads : ∀ value ∈ values, ∀ rest, element (encode value ++ rest) = .ok (value, rest))
    (rest : List UInt8) :
    replicate element values.length (values.flatMap encode ++ rest) = .ok (values, rest) := by
  induction values with
  | nil => rfl
  | cons value values ih =>
    rw [List.flatMap_cons, List.append_assoc, List.length_cons, replicate,
      bind_of_ok (reads value List.mem_cons_self _),
      bind_of_ok (ih fun other member => reads other (List.mem_cons_of_mem value member))]
    rfl

theorem exists_of_replicate {element : Decoder α} {encode : α → List UInt8}
    (shortest : ShortestForm encode element) {count : Nat} {bytes rest : List UInt8}
    {values : List α} (read : replicate element count bytes = .ok (values, rest)) :
    values.length = count ∧
      ∃ front, bytes = front ++ rest ∧ Shortest (values.flatMap encode) front := by
  induction count generalizing bytes values with
  | zero =>
    obtain ⟨rfl, rfl⟩ := pure_eq_ok_iff.mp read
    exact ⟨rfl, [], rfl, .refl []⟩
  | succ count ih =>
    obtain ⟨value, middle, start, later⟩ := bind_eq_ok_iff.mp read
    obtain ⟨others, left, finish, whole⟩ := bind_eq_ok_iff.mp later
    obtain ⟨rfl, rfl⟩ := pure_eq_ok_iff.mp whole
    obtain ⟨front, rfl, form⟩ := shortest start
    obtain ⟨size, front', rfl, form'⟩ := ih finish
    refine ⟨congrArg (· + 1) size, front ++ front', (List.append_assoc _ _ _).symm, ?_⟩
    exact form.append form'

end ShortestForm

end Decoder

open Decoder (ShortestForm)

/-! ## Numbers -/

/-- How many numbers of a width there are. -/
def Width.capacity (width : Width) : Nat := 1 <<< width.bits

/-- How many numbers can be written in so many groups before a last one of at most `top`. -/
def groupsCapacity (top : Nat) : Nat → Nat
  | 0 => top + 1
  | groups + 1 => 128 * groupsCapacity top groups

theorem Width.capacity_eq (width : Width) :
    width.capacity = groupsCapacity width.lastGroup width.groups := by
  cases width <;> rfl

theorem encodeNat_of_lt {n : Nat} (small : n < 128) : encodeNat n = [UInt8.ofNat n] := by
  rw [encodeNat, if_pos small]

theorem encodeNat_of_le {n : Nat} (large : 128 ≤ n) :
    encodeNat n = UInt8.ofNat (n % 128 + 128) :: encodeNat (n / 128) := by
  rw [encodeNat, if_neg (Nat.not_lt.mpr large)]

theorem length_encodeNat_pos (n : Nat) : 0 < (encodeNat n).length := by
  by_cases small : n < 128
  · simp [encodeNat_of_lt small]
  · simp [encodeNat_of_le (Nat.not_lt.mp small)]

theorem decodeGroups_of_lt {top groups : Nat} {byte : UInt8} (last : byte.toNat < 128)
    (within : groups = 0 → byte.toNat ≤ top) (rest : List UInt8) :
    decodeGroups top groups (byte :: rest) = .ok (byte.toNat, rest) := by
  cases groups with
  | zero =>
    rw [decodeGroups, Decoder.bind_of_ok (Decoder.byte_cons byte rest), if_pos (within rfl)]
    rfl
  | succ groups =>
    rw [decodeGroups, Decoder.bind_of_ok (Decoder.byte_cons byte rest), if_pos last]
    rfl

theorem decodeGroups_encodeNat {top groups n : Nat} (single : top < 128)
    (within : n < groupsCapacity top groups) (rest : List UInt8) :
    decodeGroups top groups (encodeNat n ++ rest) = .ok (n, rest) := by
  -- the induction is on the groups that may still come; each of them divides the number by 128
  induction groups generalizing n with
  | zero =>
    have small : n ≤ top := Nat.lt_succ_iff.mp within
    have byte : (UInt8.ofNat n).toNat = n := UInt8.toNat_ofNat_of_lt' (by omega : n < 256)
    rw [encodeNat_of_lt (by omega), List.singleton_append,
      decodeGroups_of_lt (by omega) (fun _ => by omega), byte]
  | succ groups ih =>
    by_cases small : n < 128
    · have byte : (UInt8.ofNat n).toNat = n := UInt8.toNat_ofNat_of_lt' (by omega : n < 256)
      rw [encodeNat_of_lt small, List.singleton_append,
        decodeGroups_of_lt (by omega) (fun none => by omega), byte]
    · have byte : (UInt8.ofNat (n % 128 + 128)).toNat = n % 128 + 128 :=
        UInt8.toNat_ofNat_of_lt' (by omega : n % 128 + 128 < 256)
      have others : n / 128 < groupsCapacity top groups := by
        rw [groupsCapacity] at within
        omega
      rw [encodeNat_of_le (Nat.not_lt.mp small), List.cons_append, decodeGroups,
        Decoder.bind_of_ok (Decoder.byte_cons _ _), byte, if_neg (by omega),
        Decoder.bind_of_ok (ih others)]
      show Except.ok (n % 128 + 128 - 128 + 128 * (n / 128), rest) = .ok (n, rest)
      rw [Nat.add_sub_cancel, Nat.mod_add_div]

theorem decodeNat_encodeNat {width : Width} {n : Nat} (within : n < width.capacity)
    (rest : List UInt8) : decodeNat width (encodeNat n ++ rest) = .ok (n, rest) := by
  rw [Width.capacity_eq] at within
  exact decodeGroups_encodeNat (by cases width <;> decide) within rest

theorem shortest_encodeNat_of_lt {byte : UInt8} (last : byte.toNat < 128) :
    Shortest (encodeNat byte.toNat) [byte] := by
  rw [encodeNat_of_lt last, UInt8.ofNat_toNat]
  exact .refl [byte]

/-- A group before the last is needed exactly if the groups after it are not all zero. -/
theorem shortest_encodeNat_cons {byte : UInt8} {others : Nat} {front : List UInt8}
    (more : 128 ≤ byte.toNat) (shortest : Shortest (encodeNat others) front) :
    Shortest (encodeNat (byte.toNat - 128 + 128 * others)) (byte :: front) := by
  have size := byte.toNat_lt
  by_cases zero : others = 0
  · -- one byte would do, and there are two or more
    subst zero
    rw [Nat.mul_zero, Nat.add_zero, encodeNat_of_lt (by omega)]
    apply Shortest.of_length_lt
    have filled := Nat.lt_of_lt_of_le (length_encodeNat_pos 0) shortest.length_le
    simp only [List.length_cons, List.length_nil]
    omega
  · -- the byte is the lowest group of the number
    have group : (byte.toNat - 128 + 128 * others) % 128 + 128 = byte.toNat := by omega
    have quotient : (byte.toNat - 128 + 128 * others) / 128 = others := by omega
    rw [encodeNat_of_le (by omega), group, quotient, UInt8.ofNat_toNat]
    exact (Shortest.refl [byte]).append shortest

theorem shortestForm_decodeGroups {top : Nat} (single : top < 128) (groups : Nat) :
    ShortestForm encodeNat (decodeGroups top groups) := by
  induction groups with
  | zero =>
    intro bytes n rest read
    obtain ⟨byte, middle, start, later⟩ := Decoder.bind_eq_ok_iff.mp read
    obtain rfl := Decoder.byte_eq_ok_iff.mp start
    split at later
    · obtain ⟨rfl, rfl⟩ := Decoder.pure_eq_ok_iff.mp later
      exact ⟨[byte], rfl, shortest_encodeNat_of_lt (by omega)⟩
    · cases later
  | succ groups ih =>
    intro bytes n rest read
    obtain ⟨byte, middle, start, later⟩ := Decoder.bind_eq_ok_iff.mp read
    obtain rfl := Decoder.byte_eq_ok_iff.mp start
    split at later
    · next last =>
      obtain ⟨rfl, rfl⟩ := Decoder.pure_eq_ok_iff.mp later
      exact ⟨[byte], rfl, shortest_encodeNat_of_lt last⟩
    · next more =>
      obtain ⟨others, left, finish, whole⟩ := Decoder.bind_eq_ok_iff.mp later
      obtain ⟨rfl, rfl⟩ := Decoder.pure_eq_ok_iff.mp whole
      obtain ⟨front, rfl, shortest⟩ := ih finish
      exact ⟨byte :: front, rfl, shortest_encodeNat_cons (Nat.not_lt.mp more) shortest⟩

theorem shortestForm_decodeNat (width : Width) : ShortestForm encodeNat (decodeNat width) :=
  shortestForm_decodeGroups (by cases width <;> decide) _

/-! ## Texts and rows -/

theorem length_utf8 (text : String) : (utf8 text).length = text.utf8ByteSize := by
  rw [← List.size_toByteArray, toByteArray_utf8]
  rfl

theorem decodeText_encodeText {text : String}
    (within : text.utf8ByteSize < Width.bits64.capacity) (rest : List UInt8) :
    decodeText (encodeText text ++ rest) = .ok (text, rest) := by
  rw [← length_utf8] at within
  rw [encodeText, List.append_assoc, decodeText, Decoder.bind_of_ok (decodeNat_encodeNat within _),
    Decoder.bind_of_ok (Decoder.take_append _ _), ofUtf8?_utf8]
  rfl

theorem shortestForm_decodeText : ShortestForm encodeText decodeText := by
  intro bytes text rest read
  obtain ⟨size, middle, start, later⟩ := Decoder.bind_eq_ok_iff.mp read
  obtain ⟨body, left, taken, whole⟩ := Decoder.bind_eq_ok_iff.mp later
  obtain ⟨rfl, rfl⟩ := Decoder.take_eq_ok_iff.mp taken
  obtain ⟨front, rfl, shortest⟩ := shortestForm_decodeNat .bits64 start
  cases found : ofUtf8? body with
  | none =>
    rw [found] at whole
    cases whole
  | some found' =>
    rw [found] at whole
    obtain ⟨rfl, rfl⟩ := Decoder.pure_eq_ok_iff.mp whole
    refine ⟨front ++ body, (List.append_assoc _ _ _).symm, ?_⟩
    rw [encodeText, ← eq_utf8_of_ofUtf8? found]
    exact shortest.append (.refl body)

section Rows

variable {α : Type} {element : Decoder α} {encode : α → List UInt8}

theorem decodeRow_encodeRow {values : List α} (within : values.length < Width.bits64.capacity)
    (reads : ∀ value ∈ values, ∀ rest, element (encode value ++ rest) = .ok (value, rest))
    (rest : List UInt8) :
    decodeRow element (encodeRow encode values ++ rest) = .ok (values, rest) := by
  rw [encodeRow, List.append_assoc, decodeRow, Decoder.bind_of_ok (decodeNat_encodeNat within _)]
  exact Decoder.replicate_flatMap reads rest

theorem shortestForm_decodeRow (shortest : ShortestForm encode element) :
    ShortestForm (encodeRow encode) (decodeRow element) := by
  intro bytes values rest read
  obtain ⟨count, middle, start, later⟩ := Decoder.bind_eq_ok_iff.mp read
  obtain ⟨front, rfl, form⟩ := shortestForm_decodeNat .bits64 start
  obtain ⟨rfl, front', rfl, form'⟩ := Decoder.exists_of_replicate shortest later
  exact ⟨front ++ front', (List.append_assoc _ _ _).symm, form.append form'⟩

end Rows

end Binary

/-! ## Generators -/

namespace Generator

open Binary
open Decoder (ShortestForm)

/-- The texts have no more bytes and the nodes no more children than a number of 64 bits can say. -/
def encodable : Generator → Bool := fold {
  literal := fun text => decide (text.utf8ByteSize < Width.bits64.capacity)
  choice := fun options => decide (options.length < Width.bits64.capacity) && options.all id
  concatenation := fun parts => decide (parts.length < Width.bits64.capacity) && parts.all id
  capitalize := id }

theorem encodable_literal_iff {text : String} :
    (literal text).encodable = true ↔ text.utf8ByteSize < Width.bits64.capacity := by
  simp [encodable]

theorem encodable_choice_iff {options : List Generator} :
    (choice options).encodable = true ↔
      options.length < Width.bits64.capacity ∧ ∀ option ∈ options, option.encodable = true := by
  simp [encodable]

theorem encodable_concatenation_iff {parts : List Generator} :
    (concatenation parts).encodable = true ↔
      parts.length < Width.bits64.capacity ∧ ∀ part ∈ parts, part.encodable = true := by
  simp [encodable]

theorem encodable_capitalize {inner : Generator} :
    (capitalize inner).encodable = inner.encodable := by
  simp [encodable]

theorem decode_encodeNat {kind : Nat} (known : kind < 4) (rest : List UInt8) :
    decode (encodeNat kind ++ rest) = decodeNode decode kind rest := by
  have within : kind < Width.bits32.capacity := Nat.lt_trans known (by decide)
  rw [decode_eq, Decoder.bind_of_ok (decodeNat_encodeNat within rest), ← decode_eq]

/-- What was written is read back, and nothing of what follows is touched. -/
theorem decode_encode {g : Generator} (encodable : g.encodable = true) (rest : List UInt8) :
    decode (g.encode ++ rest) = .ok (g, rest) := by
  -- the kind comes back first and says how to go on; what follows varies from child to child
  induction g generalizing rest with
  | literal text =>
    rw [encodable_literal_iff] at encodable
    rw [encode_literal, List.append_assoc, decode_encodeNat (by decide)]
    exact Decoder.bind_of_ok (decodeText_encodeText encodable rest)
  | choice options ih =>
    rw [encodable_choice_iff] at encodable
    rw [encode_choice, List.append_assoc, decode_encodeNat (by decide)]
    exact Decoder.bind_of_ok (decodeRow_encodeRow encodable.1
      (fun option member => ih option member (encodable.2 option member)) rest)
  | concatenation parts ih =>
    rw [encodable_concatenation_iff] at encodable
    rw [encode_concatenation, List.append_assoc, decode_encodeNat (by decide)]
    exact Decoder.bind_of_ok (decodeRow_encodeRow encodable.1
      (fun part member => ih part member (encodable.2 part member)) rest)
  | capitalize inner ih =>
    rw [encodable_capitalize] at encodable
    rw [encode_capitalize, List.append_assoc, decode_encodeNat (by decide)]
    exact Decoder.bind_of_ok (ih encodable rest)

/-- What a node of a kind holds is written behind the kind, in the shortest form. -/
theorem exists_of_decodeNode {inner : Decoder Generator} (shortest : ShortestForm encode inner)
    {kind : Nat} {bytes rest : List UInt8} {g : Generator}
    (read : decodeNode inner kind bytes = .ok (g, rest)) :
    ∃ body front, g.encode = encodeNat kind ++ body ∧ bytes = front ++ rest ∧
      Shortest body front := by
  unfold decodeNode at read
  split at read
  · obtain ⟨text, front, rfl, whole, form⟩ := shortestForm_decodeText.exists_of_bind_pure read
    exact ⟨_, front, encode_literal text, whole, form⟩
  · obtain ⟨options, front, rfl, whole, form⟩ :=
      (shortestForm_decodeRow shortest).exists_of_bind_pure read
    exact ⟨_, front, encode_choice options, whole, form⟩
  · obtain ⟨parts, front, rfl, whole, form⟩ :=
      (shortestForm_decodeRow shortest).exists_of_bind_pure read
    exact ⟨_, front, encode_concatenation parts, whole, form⟩
  · obtain ⟨child, front, rfl, whole, form⟩ := shortest.exists_of_bind_pure read
    exact ⟨_, front, encode_capitalize child, whole, form⟩
  · cases read

theorem shortestForm_decodeWithin (depth : Nat) : ShortestForm encode (decodeWithin depth) := by
  induction depth with
  | zero =>
    intro bytes g rest read
    cases read
  | succ depth ih =>
    intro bytes g rest read
    rw [decodeWithin_succ] at read
    obtain ⟨kind, middle, start, later⟩ := Decoder.bind_eq_ok_iff.mp read
    obtain ⟨front, rfl, form⟩ := shortestForm_decodeNat .bits32 start
    obtain ⟨body, front', written, rfl, form'⟩ := exists_of_decodeNode ih later
    rw [written]
    exact ⟨front ++ front', (List.append_assoc _ _ _).symm, form.append form'⟩

/-- No bytes that are read as a generator are shorter than what is written for it. -/
theorem shortestForm_decode : ShortestForm encode decode := by
  intro bytes g rest read
  exact shortestForm_decodeWithin bytes.length read

/-- Nothing is written that begins with what is written for another generator. -/
theorem eq_of_prefix_encode {g h : Generator} (encodable : g.encodable = true)
    (encodable' : h.encodable = true) (begins : g.encode <+: h.encode) : g = h := by
  obtain ⟨more, whole⟩ := begins
  have read := decode_encode encodable more
  have read' := decode_encode encodable' []
  rw [List.append_nil, ← whole, read, Except.ok.injEq, Prod.mk.injEq] at read'
  exact read'.1

/-- The written form is lossless and ends itself: it is read back whatever follows, so no written
form begins with another one, and different generators are written differently. It is canonical:
of all bytes that are read as a generator, it is the shortest, and the only shortest. -/
theorem encode_canonical :
    (∀ g : Generator, g.encodable = true →
      ∀ rest, decode (g.encode ++ rest) = .ok (g, rest)) ∧
    (∀ g h : Generator, g.encodable = true → h.encodable = true →
      (g.encode <+: h.encode → g.encode = h.encode) ∧ (g = h ↔ g.encode = h.encode)) ∧
    (∀ (bytes : List UInt8) (g : Generator) (rest : List UInt8),
      decode bytes = .ok (g, rest) → ∃ front, bytes = front ++ rest ∧
        g.encode.length ≤ front.length ∧
        (g.encode.length = front.length ↔ front = g.encode)) := by
  refine ⟨fun g encodable => decode_encode encodable, ?_, ?_⟩
  · intro g h encodable encodable'
    constructor
    · intro begins
      rw [eq_of_prefix_encode encodable encodable' begins]
    · constructor
      · exact congrArg encode
      · intro same
        apply eq_of_prefix_encode encodable encodable'
        exact ⟨[], by rw [List.append_nil, same]⟩
  · intro bytes g rest read
    obtain ⟨front, rfl, shortest⟩ := shortestForm_decode read
    exact ⟨front, rfl, shortest.length_le, shortest.length_eq_iff⟩

/-- A tree with all kinds of nodes, and a text in bytes that say its kind and its size in two groups
each where one would do. -/
theorem encode_canonical_groups :
    let g : Generator := choice [literal "é", capitalize (concatenation [])]
    g.encodable = true ∧ g.encode = [1, 2, 0, 2, 195, 169, 3, 2, 0] ∧
      decode ([1, 2, 0, 2, 195, 169, 3, 2, 0] ++ [255]) = .ok (g, [255]) ∧
      (g.encode <+: (literal "a").encode → g.encode = (literal "a").encode) ∧
      decode [128, 0, 129, 0, 97, 255] = .ok (literal "a", [255]) ∧
      ∃ front, [128, 0, 129, 0, 97, 255] = front ++ [255] ∧
        (literal "a").encode.length ≤ front.length ∧
        ((literal "a").encode.length = front.length ↔ front = (literal "a").encode) := by
  intro g
  have encodable : g.encodable = true := by decide +kernel
  have written : g.encode = [1, 2, 0, 2, 195, 169, 3, 2, 0] := by decide +kernel
  have read : decode [128, 0, 129, 0, 97, 255] = .ok (literal "a", [255]) := by rfl
  refine ⟨encodable, written, ?_, ?_, read, encode_canonical.2.2 _ _ _ read⟩
  · rw [← written]
    exact encode_canonical.1 g encodable [255]
  · exact (encode_canonical.2.1 g (literal "a") encodable (by decide +kernel)).1

end Generator

end NamePattern
