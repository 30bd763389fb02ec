/-
  Namebook.PublicId
  ─────────────────
  **Public ids: 16 random bytes written with 26 symbols.**

  The alphabet is the lowercase Crockford base 32: digits and letters without `i`, `l`, `o` and `u`.
  A block of 128 bits is padded at its low end with two zero bits and cut into 26 groups of five,
  the most significant first; each group picks one symbol.  `isShaped` recognises the texts that
  arise so: 26 symbols of the alphabet whose last one has its two low bits clear.
-/
import Namebook.Digits

namespace Namebook

/-- Sixteen bytes of entropy, the source of one public id. -/
abbrev Block := Vector UInt8 16

namespace Block

/-- The block as a number, its first byte the most significant. -/
def toNat (b : Block) : Nat :=
  Digits.ofDigits 256 (b.toList.map UInt8.toNat)

end Block

namespace PublicId

/-! ## §1. The alphabet. -/

/-- The 32 symbols in the order of their values. -/
def alphabet : List Char :=
  ['0', '1', '2', '3', '4', '5', '6', '7', '8', '9', 'a', 'b', 'c', 'd', 'e', 'f',
   'g', 'h', 'j', 'k', 'm', 'n', 'p', 'q', 'r', 's', 't', 'v', 'w', 'x', 'y', 'z']

/-- The symbol of a five-bit value. -/
def symbol (d : Nat) : Char := alphabet.getD d '0'

/-- The value of a symbol, if it is one. -/
def symbolValue? (c : Char) : Option Nat := alphabet.idxOf? c

theorem alphabet_length : alphabet.length = 32 := rfl

theorem symbolValue?_symbol {d : Nat} (h : d < 32) : symbolValue? (symbol d) = some d := by
  have : ∀ d : Fin 32, symbolValue? (symbol d) = some d.val := by decide
  exact this ⟨d, h⟩

/-! ## §2. Writing. -/

/-- The number of symbols of a public id. -/
def length : Nat := 26

/-- The values of the 26 symbols of a block: its 128 bits and two zero bits in groups of five. -/
def digits (b : Block) : List Nat :=
  Digits.toDigits 32 length (b.toNat * 4)

/-- The public id of a block. -/
def encode (b : Block) : String :=
  String.ofList ((digits b).map symbol)

/-! ## §3. Recognising. -/

/-- Whether a text is the public id of some block. -/
def isShaped (s : String) : Bool :=
  s.toList.length == length &&
  s.toList.all (fun c => alphabet.contains c) &&
  (match s.toList.getLast? >>= symbolValue? with
   | some d => d % 4 == 0
   | none => false)

/-- A block of zero bytes gives 26 zeros, and the low bits of the last symbol must be clear. -/
example : encode (Vector.replicate 16 0) = "00000000000000000000000000" ∧
    isShaped "00000000000000000000000004" = true ∧
    isShaped "00000000000000000000000001" = false := by decide

end PublicId

end Namebook
