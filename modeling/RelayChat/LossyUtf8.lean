/-!
# Reading bytes as text without failing

Bytes that are not well-formed UTF-8 are read as replacement characters, one
for each maximal part that could have begun a character. `Decoder` reads one
byte at a time: between characters it holds nothing, and inside one it knows
how many bytes are still owed and which range the next one must lie in. The
first continuation byte has a range of its own after some lead bytes, which
excludes overlong forms, surrogates and values above the last code point.
-/

namespace RelayChat.LossyUtf8

/-- A character whose bytes have not all been seen. -/
structure Partial where
  /-- The least byte that may come next. -/
  low : UInt8
  /-- The greatest byte that may come next. -/
  high : UInt8
  /-- How many bytes are owed after the next one. -/
  owed : Nat
  /-- The bits gathered so far. -/
  bits : Nat
deriving DecidableEq, Repr

/-- The reader between two bytes. -/
structure Decoder where
  /-- The character that has been begun, if any. -/
  pending : Option Partial
  /-- The characters read so far, the last one first. -/
  done : List Char
deriving DecidableEq, Repr

/-- What stands for bytes that belong to no character. -/
def replacement : Char := '\uFFFD'

/-- The character that a lead byte begins; `none` for a byte that begins none. -/
def begins? (b : UInt8) : Option Partial :=
  if 0xC2 ≤ b && b ≤ 0xDF then some ⟨0x80, 0xBF, 0, b.toNat - 0xC0⟩
  else if b == 0xE0 then some ⟨0xA0, 0xBF, 1, 0⟩
  else if b == 0xED then some ⟨0x80, 0x9F, 1, 0x0D⟩
  else if 0xE1 ≤ b && b ≤ 0xEF then some ⟨0x80, 0xBF, 1, b.toNat - 0xE0⟩
  else if b == 0xF0 then some ⟨0x90, 0xBF, 2, 0⟩
  else if b == 0xF4 then some ⟨0x80, 0x8F, 2, 4⟩
  else if 0xF1 ≤ b && b ≤ 0xF3 then some ⟨0x80, 0xBF, 2, b.toNat - 0xF0⟩
  else none

namespace Decoder

/-- Before the first byte. -/
def start : Decoder := ⟨none, []⟩

/-- Reads a byte where a character may begin. -/
def first (done : List Char) (b : UInt8) : Decoder :=
  if b < 0x80 then ⟨none, Char.ofNat b.toNat :: done⟩
  else match begins? b with
    | some character => ⟨some character, done⟩
    | none => ⟨none, replacement :: done⟩

/-- Reads one byte. -/
def step (decoder : Decoder) (b : UInt8) : Decoder :=
  match decoder.pending with
  | none => first decoder.done b
  | some ⟨low, high, owed, bits⟩ =>
    if low ≤ b && b ≤ high then
      let bits := bits * 64 + (b.toNat - 0x80)
      match owed with
      | 0 => ⟨none, Char.ofNat bits :: decoder.done⟩
      | owed + 1 => ⟨some ⟨0x80, 0xBF, owed, bits⟩, decoder.done⟩
    else first (replacement :: decoder.done) b

/-- The characters read, a character that was broken off counted as one
replacement. -/
def finish (decoder : Decoder) : List Char :=
  match decoder.pending with
  | none => decoder.done.reverse
  | some _ => (replacement :: decoder.done).reverse

end Decoder

/-- The text of any bytes. -/
def decode (bytes : List UInt8) : String :=
  String.ofList (bytes.foldl Decoder.step Decoder.start).finish

/-- The bytes of a text. -/
def encode (s : String) : List UInt8 :=
  s.toUTF8.toList

/-- The text of well-formed bytes, and `none` for all others. -/
def decode? (bytes : List UInt8) : Option String :=
  let text := decode bytes
  if encode text = bytes then some text else none

end RelayChat.LossyUtf8
