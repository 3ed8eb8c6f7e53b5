import NamePattern.Generator.Sample

/-!
# Sampling into a byte buffer

A text is drawn by appending bytes to one shared buffer, and a capitalisation changes one byte of
it in place. `sampleInto_eq` says that this appends the UTF-8 bytes of the text that
`Generator.sample` gives and touches nothing before them, so the buffer stays valid and
`Generator.generate`, which starts from an empty one, gives that text (`generate_eq_sample`).
-/

namespace NamePattern

/-! ## Upper case in place -/

/-- Whether a character of the text with these UTF-8 bytes starts at an index, or the text ends
there. -/
def isCharBoundary (bytes : ByteArray) (index : Nat) : Bool :=
  if inside : index < bytes.size then decide (bytes[index].IsUTF8FirstByte)
  else index == bytes.size

/-- The byte of an upper-case letter for one of `a`–`z`, and any other byte itself. -/
def upperByte (byte : UInt8) : UInt8 :=
  if 97 ≤ byte ∧ byte ≤ 122 then byte - 32 else byte

/-- Turns the byte at an index into upper case if it is a whole character. -/
def upperAt (bytes : ByteArray) (index : Nat) : ByteArray :=
  if inside : index < bytes.size then
    if isCharBoundary bytes index && isCharBoundary bytes (index + 1) then
      bytes.set index (upperByte bytes[index])
    else bytes
  else bytes

theorem upperFirst_empty : upperFirst "" = "" := rfl

theorem upperFirst_ofList_cons (first : Char) (rest : List Char) :
    upperFirst (String.ofList (first :: rest)) = String.ofList (first.toUpper :: rest) := by
  simp [upperFirst]

theorem toByteArray_ofList_cons (first : Char) (rest : List Char) :
    (String.ofList (first :: rest)).toByteArray =
      (String.utf8EncodeChar first).toByteArray ++ rest.utf8Encode := by
  rw [String.toByteArray_ofList, List.utf8Encode_cons]
  simp [List.utf8Encode]

/-- A character of several bytes has no other upper case. -/
theorem toUpper_of_one_lt_utf8Size {c : Char} (wide : 1 < c.utf8Size) : c.toUpper = c := by
  unfold Char.toUpper
  split
  · rename_i lower
    exfalso
    have small : c.val ≤ 0x7F := by
      have := lower.2
      simp only [UInt32.le_iff_toNat_le] at this ⊢
      have limit : ('z' : Char).val.toNat = 122 := rfl
      have bound : (0x7F : UInt32).toNat = 127 := rfl
      omega
    simp [Char.utf8Size, small] at wide
  · rfl

/-- Inside the bytes of a character only the first index is a boundary. -/
theorem isCharBoundary_append_char (before after : ByteArray) (c : Char) {index : Nat}
    (inside : index < c.utf8Size) :
    isCharBoundary (before ++ ((String.utf8EncodeChar c).toByteArray ++ after))
      (before.size + index) = decide (index = 0) := by
  have within : index < (String.utf8EncodeChar c).length := by simpa using inside
  have total : before.size + index <
      (before ++ ((String.utf8EncodeChar c).toByteArray ++ after)).size := by
    simp only [ByteArray.size_append, List.size_toByteArray]
    omega
  have byte : (before ++ ((String.utf8EncodeChar c).toByteArray ++ after))[before.size + index] =
      (String.utf8EncodeChar c)[index] := by
    rw [ByteArray.getElem_append_right (Nat.le_add_right _ _)]
    simp only [Nat.add_sub_cancel_left]
    rw [ByteArray.getElem_append_left (by simpa using within), List.getElem_toByteArray]
  simp only [isCharBoundary, total, dite_true, byte,
    UInt8.isUTF8FirstByte_getElem_utf8EncodeChar]

/-- The place where a text was appended is a boundary. -/
theorem isCharBoundary_append_utf8Encode (before : ByteArray) (chars : List Char) :
    isCharBoundary (before ++ chars.utf8Encode) before.size = true := by
  cases chars with
  | nil => simp [isCharBoundary, List.utf8Encode]
  | cons first rest =>
    rw [← String.toByteArray_ofList, toByteArray_ofList_cons]
    simpa using isCharBoundary_append_char before rest.utf8Encode first first.utf8Size_pos

/-- The upper case of a one-byte character is made by changing its byte. -/
theorem utf8EncodeChar_toUpper {c : Char} (narrow : c.utf8Size = 1) :
    String.utf8EncodeChar c.toUpper = [upperByte c.val.toUInt8] := by
  have small : c.val.toNat ≤ 127 := by
    simpa [UInt32.le_iff_toNat_le] using Char.utf8Size_eq_one_iff.mp narrow
  have byte : c.val.toUInt8.toNat = c.val.toNat := by
    rw [UInt32.toNat_toUInt8]
    omega
  have low : ('a' : Char).val.toNat = 97 := rfl
  have high : ('z' : Char).val.toNat = 122 := rfl
  have shift : (('A' : Char).val - ('a' : Char).val : UInt32).toNat = 4294967264 := rfl
  have same : (97 ≤ c.val.toUInt8 ∧ c.val.toUInt8 ≤ 122) ↔
      (('a' : Char).val ≤ c.val ∧ c.val ≤ ('z' : Char).val) := by
    simp only [UInt8.le_iff_toNat_le, UInt32.le_iff_toNat_le, byte, low, high]
    exact Iff.rfl
  unfold Char.toUpper upperByte
  by_cases lower : ('a' : Char).val ≤ c.val ∧ c.val ≤ ('z' : Char).val
  · rw [dif_pos lower, if_pos (same.mpr lower)]
    simp only [UInt32.le_iff_toNat_le, low, high] at lower
    have moved : (c.val + (('A' : Char).val - ('a' : Char).val)).toNat = c.val.toNat - 32 := by
      rw [UInt32.toNat_add, shift]
      omega
    rw [String.utf8EncodeChar_eq_singleton]
    · refine congrArg (fun byte => [byte]) (UInt8.toNat_inj.mp ?_)
      rw [UInt32.toNat_toUInt8, moved, UInt8.toNat_sub, byte]
      have : (32 : UInt8).toNat = 32 := rfl
      omega
    · rw [Char.utf8Size_eq_one_iff, UInt32.le_iff_toNat_le, moved]
      have : (127 : UInt32).toNat = 127 := rfl
      omega
  · rw [dif_neg lower, if_neg (fun claim => lower (same.mp claim))]
    exact String.utf8EncodeChar_eq_singleton narrow

/-- Right after a buffer to which a text was appended, changing the byte there into upper case is
appending the text with its first character in upper case. -/
theorem upperAt_append (before : ByteArray) (text : String) :
    upperAt (before ++ text.toByteArray) before.size =
      before ++ (upperFirst text).toByteArray := by
  obtain ⟨chars, rfl⟩ : ∃ chars, text = String.ofList chars := ⟨text.toList, by simp⟩
  cases chars with
  | nil => simp [upperAt, upperFirst]
  | cons first rest =>
    rw [upperFirst_ofList_cons, toByteArray_ofList_cons, toByteArray_ofList_cons]
    have start := isCharBoundary_append_char before rest.utf8Encode first first.utf8Size_pos
    have pos := first.utf8Size_pos
    have inside : before.size <
        (before ++ ((String.utf8EncodeChar first).toByteArray ++ rest.utf8Encode)).size := by
      simp only [ByteArray.size_append, List.size_toByteArray, String.length_utf8EncodeChar]
      omega
    by_cases wide : 1 < first.utf8Size
    · have next := isCharBoundary_append_char before rest.utf8Encode first wide
      rw [toUpper_of_one_lt_utf8Size wide]
      simp [upperAt, next]
    · have narrow : first.utf8Size = 1 := by omega
      have next : isCharBoundary
          (before ++ ((String.utf8EncodeChar first).toByteArray ++ rest.utf8Encode))
          (before.size + 1) = true := by
        have := isCharBoundary_append_utf8Encode
          (before ++ (String.utf8EncodeChar first).toByteArray) rest
        simpa [ByteArray.append_assoc, narrow] using this
      have both : (isCharBoundary
            (before ++ ((String.utf8EncodeChar first).toByteArray ++ rest.utf8Encode))
            before.size &&
          isCharBoundary
            (before ++ ((String.utf8EncodeChar first).toByteArray ++ rest.utf8Encode))
            (before.size + 1)) = true := by
        simpa [next] using start
      simp only [upperAt, inside, dite_true, both, if_true]
      apply ByteArray.ext
      apply Array.ext'
      simp [ByteArray.getElem_eq_getElem_data, ByteArray.data_set, utf8EncodeChar_toUpper narrow,
        String.utf8EncodeChar_eq_singleton narrow]
      exact congrArg upperByte Array.getElem_push_eq

/-! ## The buffer sampler -/

namespace Generator

mutual
/-- Draws a text and appends its bytes to a buffer; gives the buffer and the next position. -/
def sampleInto (words : Words) : Generator → ByteArray → Nat → ByteArray × Nat
  | .literal text, buffer, position => (buffer ++ text.toByteArray, position)
  | .choice options, buffer, position =>
      if options.isEmpty then (buffer, position)
      else
        let picked := pick words options.length position
        sampleNthInto words options picked.1 buffer picked.2
  | .concatenation parts, buffer, position => sampleAllInto words parts buffer position
  | .capitalize inner, buffer, position =>
      let drawn := sampleInto words inner buffer position
      (upperAt drawn.1 buffer.size, drawn.2)
/-- Draws from the option at an index into a buffer; past the last option nothing is appended. -/
def sampleNthInto (words : Words) : List Generator → Nat → ByteArray → Nat → ByteArray × Nat
  | [], _, buffer, position => (buffer, position)
  | option :: _, 0, buffer, position => sampleInto words option buffer position
  | _ :: options, index + 1, buffer, position => sampleNthInto words options index buffer position
/-- Draws from each part in turn into a buffer. -/
def sampleAllInto (words : Words) : List Generator → ByteArray → Nat → ByteArray × Nat
  | [], buffer, position => (buffer, position)
  | part :: parts, buffer, position =>
      let first := sampleInto words part buffer position
      sampleAllInto words parts first.1 first.2
end

theorem sampleNthInto_eq (words : Words) (options : List Generator)
    (each : ∀ option ∈ options, ∀ buffer position, sampleInto words option buffer position =
      (buffer ++ (sample words option position).1.toByteArray, (sample words option position).2))
    (index : Nat) (buffer : ByteArray) (position : Nat) :
    sampleNthInto words options index buffer position =
      (buffer ++ (sampleNth words options index position).1.toByteArray,
        (sampleNth words options index position).2) := by
  induction options generalizing index with
  | nil => simp [sampleNthInto, sampleNth]
  | cons option options ih =>
    cases index with
    | zero => simpa [sampleNthInto, sampleNth] using each option (by simp) buffer position
    | succ index =>
      simpa [sampleNthInto, sampleNth] using
        ih (fun later member => each later (by simp [member])) index

theorem sampleAllInto_eq (words : Words) (parts : List Generator)
    (each : ∀ part ∈ parts, ∀ buffer position, sampleInto words part buffer position =
      (buffer ++ (sample words part position).1.toByteArray, (sample words part position).2))
    (buffer : ByteArray) (position : Nat) :
    sampleAllInto words parts buffer position =
      (buffer ++ (sampleAll words parts position).1.toByteArray,
        (sampleAll words parts position).2) := by
  induction parts generalizing buffer position with
  | nil => simp [sampleAllInto, sampleAll]
  | cons part parts ih =>
    simp only [sampleAllInto, sampleAll, each part (by simp),
      ih (fun later member => each later (by simp [member])), String.toByteArray_append,
      ByteArray.append_assoc]

/-- Sampling into a buffer appends the bytes of the sample, reads the same words, and leaves what
the buffer held before as it is. -/
theorem sampleInto_eq (words : Words) (g : Generator) (buffer : ByteArray) (position : Nat) :
    sampleInto words g buffer position =
      (buffer ++ (sample words g position).1.toByteArray, (sample words g position).2) := by
  induction g generalizing buffer position with
  | literal text => simp [sampleInto, sample]
  | choice options ih =>
    simp only [sampleInto, sample]
    split
    · simp
    · exact sampleNthInto_eq words options ih _ buffer _
  | concatenation parts ih =>
    simpa [sampleInto, sample] using sampleAllInto_eq words parts ih buffer position
  | capitalize inner ih =>
    simp [sampleInto, sample, ih, upperAt_append]

/-- The bytes drawn into an empty buffer are those of a text. -/
theorem isValidUTF8_sampleInto (words : Words) (g : Generator) (position : Nat) :
    (sampleInto words g ByteArray.empty position).1.IsValidUTF8 := by
  simpa [sampleInto_eq] using (sample words g position).1.isValidUTF8

/-- Draws one text, by way of a buffer of its own; gives the text and the next position. -/
def generate (words : Words) (g : Generator) (position : Nat) : String × Nat :=
  let drawn := sampleInto words g ByteArray.empty position
  (String.fromUTF8 drawn.1 (isValidUTF8_sampleInto words g position), drawn.2)

/-- What is drawn by way of a buffer is the sample. -/
theorem generate_eq_sample (words : Words) (g : Generator) (position : Nat) :
    generate words g position = sample words g position := by
  apply Prod.ext
  · apply String.toByteArray_inj.mp
    simp [generate, sampleInto_eq, String.fromUTF8]
  · simp [generate, sampleInto_eq]

/-- Draws a number of texts one after the other; gives them and the next position. -/
def generateMany (words : Words) (g : Generator) : Nat → Nat → List String × Nat
  | 0, position => ([], position)
  | count + 1, position =>
      let first := generate words g position
      let rest := generateMany words g count first.2
      (first.1 :: rest.1, rest.2)

end Generator

end NamePattern
