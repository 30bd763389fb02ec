/-
  Namebook.PublicId.Machine
  ─────────────────────────
  **Public ids, word by word.**

  A public id is written through a 32-bit buffer: each byte is shifted in, and a symbol is taken off the
  top while there are five bits or more.  What is left at the end is padded with zero bits.  A text is
  recognised byte by byte in its UTF-8 form.

  Shifts by 32 or more, an index beyond the alphabet and a difference below zero have no result here;
  `write?` passes such a failure on.
-/
import Namebook.PublicId

namespace Namebook.PublicId

/-! ## §1. Checked operations. -/

/-- A word shifted to the left, by less than 32 bits. -/
def shiftLeft? (word : UInt32) (distance : Nat) : Option UInt32 :=
  if distance < 32 then some (word <<< UInt32.ofNat distance) else none

/-- A word shifted to the right, by less than 32 bits. -/
def shiftRight? (word : UInt32) (distance : Nat) : Option UInt32 :=
  if distance < 32 then some (word >>> UInt32.ofNat distance) else none

/-- A difference of words that is not below zero. -/
def sub? (a b : UInt32) : Option UInt32 :=
  if b ≤ a then some (a - b) else none

/-- The symbol at an index of the alphabet. -/
def symbol? (index : UInt32) : Option Char := alphabet[index.toNat]?

/-! ## §2. Writing. -/

/-- The low five bits of a word. -/
def lowFive (word : UInt32) : UInt32 := word &&& 0x1f

/-- A public id under way. -/
structure Writer where
  /-- The bits that no symbol was taken for, in the low part of the word. -/
  buffer : UInt32
  /-- How many they are. -/
  bits : Nat
  text : String

/-- Takes symbols off the top of the buffer while there are five bits or more; gives the number of bits
that are left, and the text. -/
def emit? (buffer : UInt32) : (bits : Nat) → String → Option (Nat × String)
  | bits + 5, text => do
    let word ← shiftRight? buffer bits
    let c ← symbol? (lowFive word)
    emit? buffer bits (text.push c)
  | bits, text => some (bits, text)

namespace Writer

/-- Before the first byte. -/
def start : Writer := { buffer := 0, bits := 0, text := "" }

/-- Shifts a byte in and takes symbols off. -/
def push? (w : Writer) (byte : UInt8) : Option Writer := do
  let shifted ← shiftLeft? w.buffer 8
  let buffer := shifted ||| byte.toUInt32
  let (bits, text) ← emit? buffer (w.bits + 8) w.text
  let one ← shiftLeft? 1 bits
  let mask ← sub? one 1
  return { buffer := buffer &&& mask, bits, text }

/-- Pads what is left to one more symbol. -/
def finish? (w : Writer) : Option String :=
  if w.bits = 0 then some w.text
  else if w.bits ≤ 5 then do
    let word ← shiftLeft? w.buffer (5 - w.bits)
    let c ← symbol? (lowFive word)
    return w.text.push c
  else none

end Writer

/-- **The public id of some bytes**, written through the buffer. -/
def writeBytes? (bytes : List UInt8) : Option String := do
  let w ← bytes.foldlM Writer.push? Writer.start
  w.finish?

def write? (b : Block) : Option String := writeBytes? b.toList

/-! ## §3. Recognising. -/

/-- The value of a byte that is a symbol. -/
def byteValue? (byte : UInt8) : Option Nat :=
  (alphabet.map Char.toUInt8).idxOf? byte

/-- The value of the last of some bytes, which must all be symbols; `last` is the value so far. -/
def lastValue? : (last : Option Nat) → List UInt8 → Option (Option Nat)
  | last, [] => some last
  | _, byte :: bytes =>
    match byteValue? byte with
    | some value => lastValue? (some value) bytes
    | none => none

/-- The two bits that pad 128 bits to 26 symbols. -/
def paddingMask : Nat := (1 <<< (length * 5 - 16 * 8)) - 1

/-- The UTF-8 bytes of a text. -/
def utf8Bytes (s : String) : List UInt8 := s.toByteArray.data.toList

/-- **Whether the bytes of a text are those of a public id.** -/
def isShapedInBytes (s : String) : Bool :=
  if (utf8Bytes s).length ≠ length then false
  else
    match lastValue? none (utf8Bytes s) with
    | some (some value) => value &&& paddingMask == 0
    | _ => false

/-- The last symbol of 128 set bits has two clear bits; `é` takes two bytes. -/
example : write? (Vector.replicate 16 0xff) = some "zzzzzzzzzzzzzzzzzzzzzzzzzw" ∧
    isShapedInBytes "zzzzzzzzzzzzzzzzzzzzzzzzzw" = true ∧
    isShapedInBytes "zzzzzzzzzzzzzzzzzzzzzzzzé" = false := by decide

end Namebook.PublicId
