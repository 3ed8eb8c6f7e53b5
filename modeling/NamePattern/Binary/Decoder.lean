/-!
# Values as bytes

A decoder takes a value off the front of a byte list and leaves the rest. It reads from left to
right and stops at the first thing that is wrong.

A number is written in groups of seven bits, the lowest first, one group a byte; every byte but
the last has its high bit set. A reader knows the width of the number: it bounds the number of
bytes and the value of the last one that they can hold. Groups that are zero are read even where
they are not needed. A text is the number of its UTF-8 bytes followed by these bytes, a character
is a text of at most four bytes, and a row of values is their number followed by the values.
-/

namespace NamePattern.Binary

/-! ## Decoders -/

/-- Why bytes are refused. -/
inductive DecodeError where
  | unexpectedEnd
  /-- A number takes more bytes or bits than its width allows. -/
  | numberTooLarge
  | notUtf8
  /-- The bytes of a character are too many, none, or not UTF-8. -/
  | notChar
  | unknownTag
  deriving DecidableEq, Repr

/-- Takes a value off the front of a byte list. -/
abbrev Decoder := StateT (List UInt8) (Except DecodeError)

namespace Decoder

def byte : Decoder UInt8
  | [] => .error .unexpectedEnd
  | first :: rest => .ok (first, rest)

def take (count : Nat) : Decoder (List UInt8) := fun bytes =>
  if count ≤ bytes.length then .ok (bytes.take count, bytes.drop count)
  else .error .unexpectedEnd

def fail {α : Type} (error : DecodeError) : Decoder α := fun _ => .error error

/-- Takes a number of values, one after the other. -/
def replicate {α : Type} (value : Decoder α) : Nat → Decoder (List α)
  | 0 => pure []
  | count + 1 => do
      let first ← value
      let rest ← replicate value count
      pure (first :: rest)

/-- The value at the front of a byte list; what follows it is ignored. -/
def value {α : Type} (decoder : Decoder α) (bytes : List UInt8) : Except DecodeError α :=
  (decoder bytes).map Prod.fst

@[simp] theorem byte_nil : byte [] = .error .unexpectedEnd := rfl

@[simp] theorem byte_cons (first : UInt8) (rest : List UInt8) :
    byte (first :: rest) = .ok (first, rest) := rfl

/-- As many bytes as a list has are taken off in front of any others. -/
theorem take_append (front rest : List UInt8) :
    take front.length (front ++ rest) = .ok (front, rest) := by
  simp [take]

end Decoder

/-! ## Numbers -/

inductive Width where
  | bits32
  | bits64
  deriving DecidableEq, Repr

namespace Width

def bits : Width → Nat
  | .bits32 => 32
  | .bits64 => 64

/-- How many groups come before the last one that a number of this width can have. -/
def groups : Width → Nat
  | .bits32 => 4
  | .bits64 => 9

/-- The largest value of that last group. -/
def lastGroup : Width → Nat
  | .bits32 => 15
  | .bits64 => 1

end Width

/-- A number in as few groups as it takes. -/
def encodeNat (n : Nat) : List UInt8 :=
  if n < 128 then [UInt8.ofNat n]
  else UInt8.ofNat (n % 128 + 128) :: encodeNat (n / 128)

/-- Takes a number that has at most so many groups before a last one of at most `top`. -/
def decodeGroups (top : Nat) : Nat → Decoder Nat
  | 0 => do
      let byte ← Decoder.byte
      if byte.toNat ≤ top then pure byte.toNat else Decoder.fail .numberTooLarge
  | groups + 1 => do
      let byte ← Decoder.byte
      if byte.toNat < 128 then pure byte.toNat
      else
        let rest ← decodeGroups top groups
        pure (byte.toNat - 128 + 128 * rest)

/-- Takes a number of a width. -/
def decodeNat (width : Width) : Decoder Nat := decodeGroups width.lastGroup width.groups

/-! ## Texts, characters and rows -/

def utf8 (text : String) : List UInt8 := text.toList.flatMap String.utf8EncodeChar

/-- The text that bytes are the UTF-8 form of, if there is one. -/
def ofUtf8? (bytes : List UInt8) : Option String := String.fromUTF8? bytes.toByteArray

/-- A text: the number of its bytes, then the bytes. -/
def encodeText (text : String) : List UInt8 := encodeNat (utf8 text).length ++ utf8 text

/-- A row of values: their number, then the values. -/
def encodeRow {α : Type} (encode : α → List UInt8) (values : List α) : List UInt8 :=
  encodeNat values.length ++ values.flatMap encode

def decodeText : Decoder String := do
  let size ← decodeNat .bits64
  let bytes ← Decoder.take size
  match ofUtf8? bytes with
  | some text => pure text
  | none => Decoder.fail .notUtf8

/-- Takes a character. Its size is looked at before its bytes; of several characters in four bytes
the first is taken. -/
def decodeChar : Decoder Char := do
  let size ← decodeNat .bits64
  if 4 < size then Decoder.fail .notChar
  else
    let bytes ← Decoder.take size
    match (ofUtf8? bytes).map String.toList with
    | some (first :: _) => pure first
    | some [] => Decoder.fail .notChar
    | none => Decoder.fail .notChar

def decodeRow {α : Type} (value : Decoder α) : Decoder (List α) := do
  let count ← decodeNat .bits64
  Decoder.replicate value count

theorem toByteArray_utf8 (text : String) : (utf8 text).toByteArray = text.toByteArray := by
  have bytes : text.toList.utf8Encode = text.toByteArray := by
    rw [← String.toByteArray_ofList, String.ofList_toList]
  rw [← bytes]
  rfl

@[simp] theorem ofUtf8?_utf8 (text : String) : ofUtf8? (utf8 text) = some text := by
  simp [ofUtf8?, toByteArray_utf8, String.fromUTF8?, String.isValidUTF8, String.fromUTF8]

/-- Bytes are the UTF-8 form of at most one text. -/
theorem eq_utf8_of_ofUtf8? {bytes : List UInt8} {text : String} (read : ofUtf8? bytes = some text) :
    bytes = utf8 text := by
  unfold ofUtf8? String.fromUTF8? at read
  split at read
  · apply List.toByteArray_inj.mp
    rw [toByteArray_utf8]
    cases read
    rfl
  · cases read

end NamePattern.Binary
