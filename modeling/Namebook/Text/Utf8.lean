/-
  Namebook.Text.Utf8
  ──────────────────
  **Reading bytes as UTF-8.**

  `decodeLossy` reads characters as long as they are well formed and puts U+FFFD for each maximal
  ill-formed part: the longest run of bytes that begins a well-formed character, or else one byte.
  `decode?` accepts exactly the well-formed texts.
-/

namespace Namebook.Text.Utf8

/-! ## §1. The shape of one character. -/

/-- What the first byte of a character announces: the bits that it carries itself, the number of
bytes that follow, and the range of the first of these. -/
structure Lead where
  bits : Nat
  following : Nat
  low : Nat
  high : Nat

/-- The announcement of a first byte; continuation bytes and unused values announce nothing.  The
narrowed ranges exclude overlong forms, surrogates and values above U+10FFFF. -/
def lead? (b : Nat) : Option Lead :=
  if b < 0x80 then some ⟨b, 0, 0x80, 0xBF⟩
  else if b < 0xC2 then none
  else if b < 0xE0 then some ⟨b - 0xC0, 1, 0x80, 0xBF⟩
  else if b = 0xE0 then some ⟨0, 2, 0xA0, 0xBF⟩
  else if b = 0xED then some ⟨0xD, 2, 0x80, 0x9F⟩
  else if b < 0xF0 then some ⟨b - 0xE0, 2, 0x80, 0xBF⟩
  else if b = 0xF0 then some ⟨0, 3, 0x90, 0xBF⟩
  else if b < 0xF4 then some ⟨b - 0xF0, 3, 0x80, 0xBF⟩
  else if b = 0xF4 then some ⟨4, 3, 0x80, 0x8F⟩
  else none

/-- What stands where bytes form no character. -/
def replacement : Char := '\ufffd'

/-! ## §2. Decoding. -/

/-- A character under way: the value so far, how many bytes are missing and the range of the next. -/
structure Pending where
  value : Nat
  missing : Nat
  low : Nat
  high : Nat

/-- Starts a character with the byte `b`; the second part is what is already decided. -/
def start (b : Nat) : Option Pending × List (Option Char) :=
  match lead? b with
  | none => (none, [none])
  | some l =>
    if l.following = 0 then (none, [some (Char.ofNat l.bits)])
    else (some ⟨l.bits, l.following, l.low, l.high⟩, [])

/-- Decodes the rest of the bytes; `none` in the answer marks a maximal ill-formed part. -/
def decodeFrom : Option Pending → List Nat → List (Option Char)
  | none, [] => []
  | some _, [] => [none]
  | none, b :: bs =>
    let (next, out) := start b
    out ++ decodeFrom next bs
  | some p, b :: bs =>
    if p.low ≤ b ∧ b ≤ p.high then
      let value := p.value * 64 + b % 64
      if p.missing = 1 then some (Char.ofNat value) :: decodeFrom none bs
      else decodeFrom (some ⟨value, p.missing - 1, 0x80, 0xBF⟩) bs
    else
      let (next, out) := start b
      none :: out ++ decodeFrom next bs

/-- The text of bytes, with U+FFFD for each maximal ill-formed part. -/
def decodeLossy (bytes : List Nat) : String :=
  String.ofList ((decodeFrom none bytes).map (·.getD replacement))

/-- The text of bytes that are well formed. -/
def decode? (bytes : List Nat) : Option String :=
  ((decodeFrom none bytes).mapM id).map String.ofList

/-- A cut character is one ill-formed part, a surrogate is three. -/
example : decodeLossy [47, 240, 159, 152, 65] = "/\ufffdA" ∧
    decodeLossy [237, 160, 128] = "\ufffd\ufffd\ufffd" ∧
    decode? [0xC3, 0xA9] = some "é" := by decide

end Namebook.Text.Utf8
