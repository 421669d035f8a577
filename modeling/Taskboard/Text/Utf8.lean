/-
Text as UTF-8 bytes. Encoding is total. Decoding is lossy: each longest start of a sequence that
no continuation can complete becomes one replacement character, and reading goes on with the first
byte that does not belong to it.
-/

namespace Taskboard.Text

/-! ## Encoding -/

/-- The bytes of one character, one to four of them. -/
def utf8OfChar (c : Char) : List UInt8 :=
  let n := c.toNat
  let continuation (shift : Nat) : UInt8 := UInt8.ofNat (0x80 + n / Nat.pow 2 shift % 64)
  if n < 0x80 then [UInt8.ofNat n]
  else if n < 0x800 then [UInt8.ofNat (0xc0 + n / 64), continuation 0]
  else if n < 0x10000 then [UInt8.ofNat (0xe0 + n / 4096), continuation 6, continuation 0]
  else [UInt8.ofNat (0xf0 + n / 262144), continuation 12, continuation 6, continuation 0]

/-- The bytes of a text. -/
def utf8 (s : String) : List UInt8 :=
  s.toList.flatMap utf8OfChar

/-! ## Lossy decoding -/

/-- The character that stands for bytes that are no character. -/
def replacement : Char := Char.ofNat 0xfffd

/-- A sequence that is not complete: the bits read so far, how many bytes are to follow, and the range
of the next of them. The ranges leave out overlong forms, surrogates and values past the last code
point. -/
structure Partial where
  value : Nat
  following : Nat
  low : Nat
  high : Nat

/-- What a byte at the start of a sequence announces; none for a byte that can start no sequence. -/
def lead? (b : UInt8) : Option Partial :=
  let n := b.toNat
  if n < 0x80 then some ⟨n, 0, 0x80, 0xbf⟩
  else if n < 0xc2 then none
  else if n < 0xe0 then some ⟨n - 0xc0, 1, 0x80, 0xbf⟩
  else if n < 0xf0 then
    some ⟨n - 0xe0, 2, if n = 0xe0 then 0xa0 else 0x80, if n = 0xed then 0x9f else 0xbf⟩
  else if n < 0xf5 then
    some ⟨n - 0xf0, 3, if n = 0xf0 then 0x90 else 0x80, if n = 0xf4 then 0x8f else 0xbf⟩
  else none

/-- The characters that a byte settles, and the sequence that it leaves open, if it starts one. -/
def openSequence (b : UInt8) : List Char × Option Partial :=
  match lead? b with
  | none => ([replacement], none)
  | some lead => if lead.following = 0 then ([Char.ofNat lead.value], none) else ([], some lead)

/-- The characters that the next byte settles, and the sequence that is open after it. A byte that
cannot go on with the open sequence ends it and is read as a start. -/
def readByte : Option Partial → UInt8 → List Char × Option Partial
  | none, b => openSequence b
  | some seq, b =>
    if seq.low ≤ b.toNat ∧ b.toNat ≤ seq.high then
      let value := 64 * seq.value + (b.toNat - 0x80)
      if seq.following = 1 then ([Char.ofNat value], none)
      else ([], some ⟨value, seq.following - 1, 0x80, 0xbf⟩)
    else
      let (settled, next) := openSequence b
      (replacement :: settled, next)

/-- Reads bytes behind an open sequence; one that the end cuts off is no character. -/
def readUtf8 : Option Partial → List UInt8 → List Char
  | none, [] => []
  | some _, [] => [replacement]
  | seq, b :: rest =>
    let (settled, next) := readByte seq b
    settled ++ readUtf8 next rest

/-- Reads bytes as text, with a replacement character for what is no character. -/
def ofUtf8Lossy (bytes : List UInt8) : List Char :=
  readUtf8 none bytes

end Taskboard.Text
