/-
  Namebook.Uuid
  ─────────────
  **Unique ids of 128 bits and their four written forms.**

  An id is written as 32 lowercase hex digits in groups of 8, 4, 4, 4 and 12, joined by hyphens.
  Four spellings are read: that one, the 32 digits without hyphens, the hyphenated form in braces,
  and the hyphenated form after `urn:uuid:`; hex digits count in either case.
-/
import Namebook.Digits

namespace Namebook

/-- A unique id of 128 bits. -/
structure Uuid where
  bits : BitVec 128
  deriving DecidableEq

namespace Uuid

/-! ## §1. Hex digits. -/

/-- The lowercase hex digits. -/
def hexAlphabet : List Char :=
  ['0', '1', '2', '3', '4', '5', '6', '7', '8', '9', 'a', 'b', 'c', 'd', 'e', 'f']

/-- The lowercase hex digit of a value below 16. -/
def hexChar (d : Nat) : Char := hexAlphabet.getD d '0'

/-- The value of a hex digit in either case. -/
def hexValue? (c : Char) : Option Nat := hexAlphabet.idxOf? c.toLower

theorem hexValue?_hexChar {d : Nat} (h : d < 16) : hexValue? (hexChar d) = some d := by
  have : ∀ d : Fin 16, hexValue? (hexChar d) = some d.val := by decide
  exact this ⟨d, h⟩

/-- The value of a text of hex digits; nothing if one character is none. -/
def readHex? (cs : List Char) : Option Nat :=
  (cs.mapM hexValue?).map (Digits.ofDigits 16)

/-! ## §2. Writing. -/

/-- The 32 hex digits of an id. -/
def hexChars (u : Uuid) : List Char :=
  (Digits.toDigits 16 32 u.bits.toNat).map hexChar

/-- Joins 32 characters to the groups 8-4-4-4-12. -/
def hyphenate (cs : List Char) : List Char :=
  cs.take 8 ++ '-' :: (cs.drop 8).take 4 ++ '-' :: (cs.drop 12).take 4 ++
    '-' :: (cs.drop 16).take 4 ++ '-' :: cs.drop 20

/-- The canonical text of an id: hyphenated and lowercase. -/
def render (u : Uuid) : String :=
  String.ofList (hyphenate u.hexChars)

/-! ## §3. Reading. -/

/-- The 32 characters of a hyphenated text of 36. -/
def unhyphenate? (cs : List Char) : Option (List Char) :=
  if cs.length = 36 ∧ cs[8]? = some '-' ∧ cs[13]? = some '-' ∧ cs[18]? = some '-' ∧
      cs[23]? = some '-' then
    some (cs.take 8 ++ (cs.drop 9).take 4 ++ (cs.drop 14).take 4 ++ (cs.drop 19).take 4 ++
      cs.drop 24)
  else none

/-- The 32 digit characters of any of the four spellings. -/
def digitChars? (cs : List Char) : Option (List Char) :=
  if cs.length = 32 then some cs
  else if cs.length = 36 then unhyphenate? cs
  else if cs.length = 38 then
    if cs.head? = some '{' ∧ cs.getLast? = some '}' then unhyphenate? (cs.drop 1).dropLast
    else none
  else if cs.length = 45 then
    if cs.take 9 = "urn:uuid:".toList ∨ cs.take 9 = "URN:UUID:".toList then
      unhyphenate? (cs.drop 9)
    else none
  else none

/-- The id that a text spells. -/
def parse? (s : String) : Option Uuid :=
  (digitChars? s.toList >>= readHex?).map fun n => ⟨BitVec.ofNat 128 n⟩

end Uuid

end Namebook
