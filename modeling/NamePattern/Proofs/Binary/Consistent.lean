import NamePattern.Binary.Layout

/-!
# Decoders read from left to right

A decoder is *consistent* if it looks at no byte before it needs it: a value is read from a front
of the bytes whatever follows, and an error other than a missing byte stays whatever follows
(`Decoder.Consistent`). So a front that is cut short lacks bytes, and nothing else is found to be
wrong with it (`Consistent.cut`).

Taking a byte or a number of bytes is consistent, and so is taking one thing after another
(`Consistent.bind`, `Consistent.replicate`); hence all decoders here are. The nesting that
`Generator.decodeWithin` allows is never felt once it reaches the number of bytes
(`decodeWithin_eq_decode`), so `Generator.decode` obeys its plain recursion (`decode_eq`).
-/

namespace NamePattern

namespace Binary

/-! ## Steps of a decoder -/

namespace Decoder

section Steps

variable {α β : Type} {bytes rest : List UInt8} {error : DecodeError}

theorem bind_of_ok {first : Decoder α} {next : α → Decoder β} {value : α}
    (read : first bytes = .ok (value, rest)) : (first >>= next) bytes = next value rest := by
  show (first bytes >>= fun taken => next taken.1 taken.2) = next value rest
  rw [read]
  rfl

theorem bind_of_error {first : Decoder α} {next : α → Decoder β}
    (refused : first bytes = .error error) : (first >>= next) bytes = .error error := by
  show (first bytes >>= fun taken => next taken.1 taken.2) = .error error
  rw [refused]
  rfl

/-- Two steps give a value if the first gives one and the second goes on from there. -/
theorem bind_eq_ok_iff {first : Decoder α} {next : α → Decoder β} {value : β} :
    (first >>= next) bytes = .ok (value, rest) ↔
      ∃ taken middle, first bytes = .ok (taken, middle) ∧
        next taken middle = .ok (value, rest) := by
  cases read : first bytes with
  | error error => simp [bind_of_error read]
  | ok taken =>
    obtain ⟨taken, middle⟩ := taken
    rw [bind_of_ok read]
    constructor
    · exact fun later => ⟨taken, middle, rfl, later⟩
    · rintro ⟨_, _, same, later⟩
      cases same
      exact later

theorem bind_eq_error_iff {first : Decoder α} {next : α → Decoder β} :
    (first >>= next) bytes = .error error ↔
      first bytes = .error error ∨
      ∃ taken middle, first bytes = .ok (taken, middle) ∧ next taken middle = .error error := by
  cases read : first bytes with
  | error other => simp [bind_of_error read]
  | ok taken =>
    obtain ⟨taken, middle⟩ := taken
    rw [bind_of_ok read]
    constructor
    · exact fun later => .inr ⟨taken, middle, rfl, later⟩
    · rintro (same | ⟨_, _, same, later⟩)
      · cases same
      · cases same
        exact later

theorem bind_congr {first first' : Decoder α} {next next' : α → Decoder β}
    (start : first bytes = first' bytes)
    (later : ∀ taken middle, first bytes = .ok (taken, middle) →
      next taken middle = next' taken middle) :
    (first >>= next) bytes = (first' >>= next') bytes := by
  cases read : first bytes with
  | error error =>
    rw [read] at start
    rw [bind_of_error read, bind_of_error start.symm]
  | ok taken =>
    rw [read] at start
    rw [bind_of_ok read, bind_of_ok start.symm, later taken.1 taken.2 read]

@[simp] theorem pure_eq_ok_iff {value other : α} :
    (pure value : Decoder α) bytes = .ok (other, rest) ↔ value = other ∧ bytes = rest := by
  show Except.ok (value, bytes) = Except.ok (other, rest) ↔ _
  simp

@[simp] theorem fail_eq_error_iff {other : DecodeError} :
    (fail error : Decoder α) bytes = .error other ↔ error = other := by
  simp [fail]

end Steps

/-! ## Consistent decoders -/

/-- A decoder that looks at no byte before it needs it. -/
structure Consistent {α : Type} (decoder : Decoder α) : Prop where
  /-- A value is read from a front of the bytes, whatever follows. -/
  determined : ∀ {bytes value rest}, decoder bytes = .ok (value, rest) →
    ∃ front, bytes = front ++ rest ∧ ∀ other, decoder (front ++ other) = .ok (value, other)
  /-- Bytes that are wrong stay wrong in the same way, whatever follows. -/
  settled : ∀ {bytes error}, decoder bytes = .error error → error ≠ .unexpectedEnd →
    ∀ more, decoder (bytes ++ more) = .error error

namespace Consistent

variable {α β : Type}

/-- A front that is cut short lacks bytes. -/
theorem cut {decoder : Decoder α} (consistent : Consistent decoder) {value : α}
    {front rest part : List UInt8} (read : decoder (front ++ rest) = .ok (value, rest))
    (shorter : part <+: front) (proper : part ≠ front) :
    decoder part = .error .unexpectedEnd := by
  obtain ⟨behind, rfl⟩ := shorter
  cases outcome : decoder part with
  | error error =>
    by_cases missing : error = .unexpectedEnd
    · rw [missing]
    · -- any other error would stay when the rest of the front follows
      have stays := consistent.settled outcome missing (behind ++ rest)
      rw [← List.append_assoc, read] at stays
      cases stays
  | ok taken =>
    -- a value would be read from the longer bytes as well, and leave more of them
    obtain ⟨taken, left⟩ := taken
    obtain ⟨whole, rfl, again⟩ := consistent.determined outcome
    have longer := again (left ++ (behind ++ rest))
    rw [← List.append_assoc, ← List.append_assoc, read, Except.ok.injEq, Prod.mk.injEq] at longer
    have lengths := congrArg List.length longer.2
    have nothing : left = [] ∧ behind = [] := by
      simp only [List.length_append] at lengths
      constructor <;> exact List.eq_nil_of_length_eq_zero (by omega)
    simp [nothing] at proper

theorem length_le {decoder : Decoder α} (consistent : Consistent decoder) {value : α}
    {bytes rest : List UInt8} (read : decoder bytes = .ok (value, rest)) :
    rest.length ≤ bytes.length := by
  obtain ⟨front, rfl, -⟩ := consistent.determined read
  simp

/-- A decoder that refuses no bytes at all takes a byte at least. -/
theorem length_lt {decoder : Decoder α} (consistent : Consistent decoder) {error : DecodeError}
    (blank : decoder [] = .error error) {value : α} {bytes rest : List UInt8}
    (read : decoder bytes = .ok (value, rest)) : rest.length < bytes.length := by
  obtain ⟨front, rfl, again⟩ := consistent.determined read
  cases front with
  | nil =>
    have nothing := again []
    rw [List.nil_append, blank] at nothing
    cases nothing
  | cons first front =>
    simp only [List.length_append, List.length_cons]
    omega

/-! ### Single steps -/

theorem pure (value : α) : Consistent (Pure.pure value : Decoder α) where
  determined := by
    intro bytes other rest read
    rw [pure_eq_ok_iff] at read
    obtain ⟨rfl, rfl⟩ := read
    exact ⟨[], rfl, fun _ => rfl⟩
  settled := by
    intro bytes error refused
    cases refused

theorem fail (error : DecodeError) : Consistent (Decoder.fail error : Decoder α) where
  determined := by
    intro bytes value rest read
    cases read
  settled := by
    intro bytes other refused _ more
    rw [fail_eq_error_iff] at refused ⊢
    exact refused

theorem byte : Consistent Decoder.byte where
  determined := by
    intro bytes value rest read
    cases bytes with
    | nil => cases read
    | cons first behind =>
      cases read
      exact ⟨[value], rfl, fun _ => rfl⟩
  settled := by
    intro bytes error refused missing
    cases bytes with
    | nil =>
      cases refused
      exact absurd rfl missing
    | cons first behind => cases refused

theorem take (count : Nat) : Consistent (Decoder.take count) where
  determined := by
    intro bytes value rest read
    unfold Decoder.take at read
    split at read
    · next enough =>
      cases read
      refine ⟨bytes.take count, (List.take_append_drop count bytes).symm, fun other => ?_⟩
      have whole := take_append (bytes.take count) other
      rwa [List.length_take_of_le enough] at whole
    · cases read
  settled := by
    intro bytes error refused missing
    unfold Decoder.take at refused
    split at refused
    · cases refused
    · cases refused
      exact absurd rfl missing

/-! ### One step after another -/

theorem bind {first : Decoder α} {next : α → Decoder β} (consistent : Consistent first)
    (later : ∀ taken, Consistent (next taken)) : Consistent (first >>= next) where
  determined := by
    intro bytes value rest read
    obtain ⟨taken, middle, start, finish⟩ := bind_eq_ok_iff.mp read
    obtain ⟨front, rfl, again⟩ := consistent.determined start
    obtain ⟨front', rfl, again'⟩ := (later taken).determined finish
    refine ⟨front ++ front', (List.append_assoc _ _ _).symm, fun other => ?_⟩
    rw [List.append_assoc, bind_of_ok (again (front' ++ other)), again' other]
  settled := by
    intro bytes error refused missing more
    rcases bind_eq_error_iff.mp refused with start | ⟨taken, middle, start, finish⟩
    · exact bind_of_error (consistent.settled start missing more)
    · obtain ⟨front, rfl, again⟩ := consistent.determined start
      rw [List.append_assoc, bind_of_ok (again (middle ++ more))]
      exact (later taken).settled finish missing more

theorem ite {condition : Prop} [Decidable condition] {yes no : Decoder α}
    (consistent : Consistent yes) (consistent' : Consistent no) :
    Consistent (if condition then yes else no) := by
  split
  · exact consistent
  · exact consistent'

theorem replicate {element : Decoder α} (consistent : Consistent element) (count : Nat) :
    Consistent (Decoder.replicate element count) := by
  induction count with
  | zero => exact .pure []
  | succ count ih => exact consistent.bind fun first => ih.bind fun rest => .pure (first :: rest)

end Consistent

end Decoder

/-! ## Numbers, texts, characters and rows -/

open Decoder (Consistent)

theorem consistent_decodeGroups (top groups : Nat) : Consistent (decodeGroups top groups) := by
  induction groups with
  | zero => exact Consistent.byte.bind fun byte => .ite (.pure _) (.fail _)
  | succ groups ih =>
    exact Consistent.byte.bind fun byte => .ite (.pure _) (ih.bind fun rest => .pure _)

theorem consistent_decodeNat (width : Width) : Consistent (decodeNat width) :=
  consistent_decodeGroups _ _

theorem decodeNat_nil (width : Width) : decodeNat width [] = .error .unexpectedEnd := by
  cases width <;> rfl

theorem consistent_decodeText : Consistent decodeText := by
  refine (consistent_decodeNat .bits64).bind fun size => (Consistent.take size).bind fun bytes => ?_
  split
  · exact .pure _
  · exact .fail _

theorem consistent_decodeChar : Consistent decodeChar := by
  refine (consistent_decodeNat .bits64).bind fun size => .ite (.fail _) ?_
  refine (Consistent.take size).bind fun bytes => ?_
  split
  · exact .pure _
  · exact .fail _
  · exact .fail _

theorem consistent_decodeRow {α : Type} {element : Decoder α} (consistent : Consistent element) :
    Consistent (decodeRow element) :=
  (consistent_decodeNat .bits64).bind fun count => consistent.replicate count

/-! ## Decoders that read alike -/

section Congruence

variable {α : Type} {element other : Decoder α} {limit : Nat} {bytes : List UInt8}

theorem replicate_congr (consistent : Consistent element)
    (agree : ∀ bytes, bytes.length ≤ limit → element bytes = other bytes) (count : Nat)
    (within : bytes.length ≤ limit) :
    Decoder.replicate element count bytes = Decoder.replicate other count bytes := by
  induction count generalizing bytes with
  | zero => rfl
  | succ count ih =>
    refine Decoder.bind_congr (agree bytes within) fun first middle read => ?_
    have shorter := consistent.length_le read
    exact Decoder.bind_congr (ih (Nat.le_trans shorter within)) fun _ _ _ => rfl

/-- Rows are read alike by two decoders that read alike as many bytes as there are. -/
theorem decodeRow_congr (consistent : Consistent element)
    (agree : ∀ bytes, bytes.length ≤ limit → element bytes = other bytes)
    (within : bytes.length ≤ limit) : decodeRow element bytes = decodeRow other bytes := by
  refine Decoder.bind_congr rfl fun count middle read => ?_
  have shorter := (consistent_decodeNat .bits64).length_le read
  exact replicate_congr consistent agree count (Nat.le_trans shorter within)

end Congruence

/-! ## Rows that are too long -/

/-- Elements that take a byte each run out with the bytes: a row of more elements than there are
bytes is refused, and for the same reason however many more they are. -/
theorem exists_error_replicate {α : Type} {element : Decoder α} (consistent : Consistent element)
    {error : DecodeError} (blank : element [] = .error error) (bytes : List UInt8) :
    ∃ reason, ∀ count, bytes.length < count →
      Decoder.replicate element count bytes = .error reason := by
  induction size : bytes.length using Nat.strongRecOn generalizing bytes with
  | ind size ih =>
    subst size
    cases read : element bytes with
    | error reason =>
      refine ⟨reason, fun count many => ?_⟩
      cases count with
      | zero => omega
      | succ count => exact Decoder.bind_of_error read
    | ok taken =>
      obtain ⟨value, rest⟩ := taken
      have shorter := consistent.length_lt blank read
      obtain ⟨reason, refused⟩ := ih rest.length shorter rest rfl
      refine ⟨reason, fun count many => ?_⟩
      cases count with
      | zero => omega
      | succ count =>
        rw [Decoder.replicate, Decoder.bind_of_ok read]
        exact Decoder.bind_of_error (refused count (by omega))

end Binary

/-! ## Generators -/

namespace Generator

open Binary
open Decoder (Consistent)

/-- Takes what a node of a kind holds; `inner` takes the generators in it. -/
def decodeNode (inner : Decoder Generator) : Nat → Decoder Generator
  | 0 => do return .literal (← decodeText)
  | 1 => do return .choice (← decodeRow inner)
  | 2 => do return .concatenation (← decodeRow inner)
  | 3 => do return .capitalize (← inner)
  | _ => Decoder.fail .unknownTag

theorem decodeWithin_succ (depth : Nat) :
    decodeWithin (depth + 1) = decodeNat .bits32 >>= decodeNode (decodeWithin depth) := by
  rfl

theorem consistent_decodeNode {inner : Decoder Generator} (consistent : Consistent inner)
    (kind : Nat) : Consistent (decodeNode inner kind) := by
  unfold decodeNode
  split
  · exact consistent_decodeText.bind fun text => .pure _
  · exact (consistent_decodeRow consistent).bind fun options => .pure _
  · exact (consistent_decodeRow consistent).bind fun parts => .pure _
  · exact consistent.bind fun inner => .pure _
  · exact .fail _

theorem consistent_decodeWithin (depth : Nat) : Consistent (decodeWithin depth) := by
  induction depth with
  | zero => exact .fail _
  | succ depth ih =>
    rw [decodeWithin_succ]
    exact (consistent_decodeNat .bits32).bind fun kind => consistent_decodeNode ih kind

theorem decodeNode_congr {inner other : Decoder Generator} {limit : Nat}
    (consistent : Consistent inner)
    (agree : ∀ bytes, bytes.length ≤ limit → inner bytes = other bytes) (kind : Nat)
    {bytes : List UInt8} (within : bytes.length ≤ limit) :
    decodeNode inner kind bytes = decodeNode other kind bytes := by
  match kind with
  | 0 => rfl
  | 1 => exact Decoder.bind_congr (decodeRow_congr consistent agree within) fun _ _ _ => rfl
  | 2 => exact Decoder.bind_congr (decodeRow_congr consistent agree within) fun _ _ _ => rfl
  | 3 => exact Decoder.bind_congr (agree bytes within) fun _ _ _ => rfl
  | kind + 4 => rfl

/-- Two depths that reach the number of bytes make no difference: each node takes a byte. -/
theorem decodeWithin_congr {depth depth' : Nat} {bytes : List UInt8}
    (enough : bytes.length ≤ depth) (enough' : bytes.length ≤ depth') :
    decodeWithin depth bytes = decodeWithin depth' bytes := by
  induction depth generalizing depth' bytes with
  | zero =>
    have none : bytes = [] := List.eq_nil_of_length_eq_zero (by omega)
    subst none
    cases depth' with
    | zero => rfl
    | succ depth' => rfl
  | succ depth ih =>
    cases depth' with
    | zero =>
      have none : bytes = [] := List.eq_nil_of_length_eq_zero (by omega)
      subst none
      rfl
    | succ depth' =>
      rw [decodeWithin_succ, decodeWithin_succ]
      refine Decoder.bind_congr rfl fun kind middle read => ?_
      have shorter := (consistent_decodeNat .bits32).length_lt (decodeNat_nil _) read
      have agree : ∀ others : List UInt8, others.length ≤ min depth depth' →
          decodeWithin depth others = decodeWithin depth' others := by
        intro others within
        exact ih (by omega) (by omega)
      exact decodeNode_congr (consistent_decodeWithin depth) agree kind (by omega)

/-- A depth that reaches the number of bytes is never felt. -/
theorem decodeWithin_eq_decode {depth : Nat} {bytes : List UInt8}
    (enough : bytes.length ≤ depth) : decodeWithin depth bytes = decode bytes :=
  decodeWithin_congr enough (Nat.le_refl _)

/-- A generator is the number of its kind of node and then what the node holds, to any depth. -/
theorem decode_eq : decode = decodeNat .bits32 >>= decodeNode decode := by
  funext bytes
  rw [← decodeWithin_eq_decode (Nat.le_succ bytes.length), decodeWithin_succ]
  refine Decoder.bind_congr rfl fun kind middle read => ?_
  have shorter := (consistent_decodeNat .bits32).length_le read
  exact decodeNode_congr (consistent_decodeWithin _) (fun _ => decodeWithin_eq_decode) kind shorter

theorem consistent_decode : Consistent decode where
  determined := by
    intro bytes g rest read
    obtain ⟨front, rfl, -⟩ := (consistent_decodeWithin _).determined read
    refine ⟨front, rfl, fun other => ?_⟩
    -- one depth that is enough for the bytes that were read and for those that are to be read
    have enough : (front ++ rest).length ≤ (front ++ rest ++ other).length := by simp
    have enough' : (front ++ other).length ≤ (front ++ rest ++ other).length := by simp
    rw [← decodeWithin_eq_decode enough] at read
    obtain ⟨front', same, again⟩ := (consistent_decodeWithin _).determined read
    rw [← List.append_cancel_right same] at again
    rw [← decodeWithin_eq_decode enough']
    exact again other
  settled := by
    intro bytes error refused missing more
    have enough : bytes.length ≤ (bytes ++ more).length := by simp
    rw [← decodeWithin_eq_decode enough] at refused
    exact (consistent_decodeWithin _).settled refused missing more

end Generator

/-! ## Symbol tables -/

namespace SymbolTable

open Binary
open Decoder (Consistent)

theorem consistent_decodeEntry : Consistent decodeEntry :=
  consistent_decodeChar.bind fun _ => (consistent_decodeRow consistent_decodeText).bind fun _ =>
    .pure _

theorem decode_eq_bind :
    decode = decodeRow decodeEntry >>= fun entries => pure (ofList entries) := by
  rfl

theorem consistent_decode : Consistent decode := by
  rw [decode_eq_bind]
  exact (consistent_decodeRow consistent_decodeEntry).bind fun entries => .pure _

end SymbolTable

end NamePattern
