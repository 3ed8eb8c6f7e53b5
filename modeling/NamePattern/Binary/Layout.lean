import NamePattern.Binary.Decoder
import NamePattern.Generator.Basic
import NamePattern.SymbolTable.Basic

/-!
# Generators and symbol tables as bytes

A generator is the number of its kind of node followed by what the node holds. A table is a row of
entries, each a symbol followed by the row of its candidates. The entries may come in any order; a
later entry for a symbol replaces one before it.
-/

namespace NamePattern

open Binary

namespace Generator

def encode : Generator → List UInt8 := fold {
  literal := fun text => encodeNat 0 ++ encodeText text
  choice := fun options => encodeNat 1 ++ encodeRow id options
  concatenation := fun parts => encodeNat 2 ++ encodeRow id parts
  capitalize := fun inner => encodeNat 3 ++ inner }

/-- Takes a generator whose nodes are nested at most so deep. -/
def decodeWithin : Nat → Decoder Generator
  | 0 => Decoder.fail .unexpectedEnd
  | depth + 1 => do
      match ← decodeNat .bits32 with
      | 0 => return .literal (← decodeText)
      | 1 => return .choice (← decodeRow (decodeWithin depth))
      | 2 => return .concatenation (← decodeRow (decodeWithin depth))
      | 3 => return .capitalize (← decodeWithin depth)
      | _ => Decoder.fail .unknownTag

/-- Takes a generator. Each node takes a byte at least, so its nodes are nested no deeper than
there are bytes, and where the allowed depth runs out so have the bytes. -/
def decode : Decoder Generator := fun bytes => decodeWithin bytes.length bytes

section Equations

variable (text : String) (options parts : List Generator) (inner : Generator)

@[simp] theorem encode_literal :
    (literal text).encode = encodeNat 0 ++ encodeText text := by
  simp [encode]

@[simp] theorem encode_choice :
    (choice options).encode = encodeNat 1 ++ encodeRow encode options := by
  simp [encode, encodeRow, List.flatMap_def]

@[simp] theorem encode_concatenation :
    (concatenation parts).encode = encodeNat 2 ++ encodeRow encode parts := by
  simp [encode, encodeRow, List.flatMap_def]

@[simp] theorem encode_capitalize :
    (capitalize inner).encode = encodeNat 3 ++ inner.encode := by
  simp [encode]

end Equations

end Generator

namespace SymbolTable

/-- The bytes of an entry: the symbol, then its candidates. -/
def encodeEntry (entry : Char × List String) : List UInt8 :=
  encodeText (String.singleton entry.1) ++ encodeRow encodeText entry.2

/-- The bytes of the table with these entries, in this order. -/
def encodeEntries (entries : List (Char × List String)) : List UInt8 :=
  encodeRow encodeEntry entries

def decodeEntry : Decoder (Char × List String) := do
  let symbol ← decodeChar
  let candidates ← decodeRow decodeText
  pure (symbol, candidates)

def decode : Decoder SymbolTable := ofList <$> decodeRow decodeEntry

end SymbolTable

end NamePattern
