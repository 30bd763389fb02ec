/-
  Namebook.Json.Reader
  ────────────────────
  **Reading JSON.**

  A number is an integer if it is written with digits only, a minus sign apart, and is not a
  negative zero; any other number keeps its text.  Of members with one key the last counts.
-/
import Namebook.Json
import Namebook.Uuid

namespace Namebook.Json

/-! ## §1. Strings. -/

/-- The character of a short escape. -/
def unescape? (c : Char) : Option Char :=
  if c = '"' ∨ c = '\\' ∨ c = '/' then some c
  else if c = 'n' then some '\n'
  else if c = 'r' then some '\r'
  else if c = 't' then some '\t'
  else if c = 'b' then some '\x08'
  else if c = 'f' then some '\x0c'
  else none

/-- Whether a code unit is the first half of a surrogate pair. -/
def isHighSurrogate (n : Nat) : Bool := decide (0xD800 ≤ n ∧ n < 0xDC00)

/-- Whether a code unit is the second half of a surrogate pair. -/
def isLowSurrogate (n : Nat) : Bool := decide (0xDC00 ≤ n ∧ n < 0xE000)

/-- Reads the rest of a string up to its closing quote; `high` is the first half of a surrogate pair
whose second half must follow. -/
def readString (high : Option Nat) : List Char → Option (List Char × List Char)
  | '\\' :: 'u' :: a :: b :: c :: d :: rest => do
    let n ← Uuid.readHex? [a, b, c, d]
    match high with
    | some h =>
      if isLowSurrogate n then
        let (cs, rest) ← readString none rest
        return (Char.ofNat (0x10000 + (h - 0xD800) * 0x400 + (n - 0xDC00)) :: cs, rest)
      else none
    | none =>
      -- half a pair is no character: the other half has to come next
      if isHighSurrogate n then readString (some n) rest
      else if isLowSurrogate n then none
      else
        let (cs, rest) ← readString none rest
        return (Char.ofNat n :: cs, rest)
  | '\\' :: e :: rest => do
    if high.isSome then none
    let c ← unescape? e
    let (cs, rest) ← readString none rest
    return (c :: cs, rest)
  | c :: rest => do
    -- control characters have to be escaped
    if high.isSome ∨ c.toNat < 0x20 then none
    if c = '"' then return ([], rest)
    let (cs, rest) ← readString none rest
    return (c :: cs, rest)
  | [] => none

/-! ## §2. Numbers. -/

/-- The characters that numbers are written with. -/
def isNumberChar (c : Char) : Bool :=
  c.isDigit || c == '-' || c == '+' || c == '.' || c == 'e' || c == 'E'

/-- The value of a text of decimal digits. -/
def digitsValue (cs : List Char) : Nat :=
  cs.foldl (fun n c => n * 10 + (c.toNat - '0'.toNat)) 0

/-- The value that a text writes as a number. -/
def ofNumberChars (cs : List Char) : Json :=
  match cs with
  | '-' :: ds =>
    if ds.all Char.isDigit && digitsValue ds != 0 then int (-(digitsValue ds : Int))
    else number (String.ofList cs)
  | ds => if ds.all Char.isDigit then int (digitsValue ds) else number (String.ofList cs)

/-! ## §3. Values. -/

/-- What follows the blanks at the front. -/
def skipBlanks (cs : List Char) : List Char :=
  cs.dropWhile fun c => c == ' ' || c == '\n' || c == '\r' || c == '\t'

/-- What follows a given text. -/
def afterText? (text : String) (cs : List Char) : Option (List Char) :=
  if text.toList.isPrefixOf cs then some (cs.drop text.length) else none

/-- Sets the value of a key. -/
def setMember (key : String) (j : Json) : List (String × Json) → List (String × Json)
  | [] => [(key, j)]
  | (k, v) :: rest => if k = key then (k, j) :: rest else (k, v) :: setMember key j rest

mutual

/-- Reads one value; `fuel` bounds the depth of the calls. -/
def readValue : (fuel : Nat) → List Char → Option (Json × List Char)
  | 0, _ => none
  | fuel + 1, cs =>
    match skipBlanks cs with
    | '"' :: rest => do
      let (s, rest) ← readString none rest
      return (str (String.ofList s), rest)
    | '[' :: rest =>
      match skipBlanks rest with
      | ']' :: rest => some (arr [], rest)
      | rest => readItems fuel [] rest
    | '{' :: rest =>
      match skipBlanks rest with
      | '}' :: rest => some (obj [], rest)
      | rest => readMembers fuel [] rest
    | 'n' :: rest => (afterText? "ull" rest).map (null, ·)
    | 't' :: rest => (afterText? "rue" rest).map (bool true, ·)
    | 'f' :: rest => (afterText? "alse" rest).map (bool false, ·)
    | cs =>
      let digits := cs.takeWhile isNumberChar
      if digits.any Char.isDigit then some (ofNumberChars digits, cs.drop digits.length) else none

/-- Reads the items of an array up to its bracket; `done` are those read before. -/
def readItems : (fuel : Nat) → (done : List Json) → List Char → Option (Json × List Char)
  | 0, _, _ => none
  | fuel + 1, done, cs => do
    let (j, rest) ← readValue fuel cs
    match skipBlanks rest with
    | ',' :: rest => readItems fuel (j :: done) rest
    | ']' :: rest => some (arr (j :: done).reverse, rest)
    | _ => none

/-- Reads the members of an object up to its brace; `done` are those read before. -/
def readMembers : (fuel : Nat) → (done : List (String × Json)) → List Char →
    Option (Json × List Char)
  | 0, _, _ => none
  | fuel + 1, done, cs => do
    match skipBlanks cs with
    | '"' :: rest =>
      let (key, rest) ← readString none rest
      match skipBlanks rest with
      | ':' :: rest =>
        let (j, rest) ← readValue fuel rest
        let done := setMember (String.ofList key) j done
        match skipBlanks rest with
        | ',' :: rest => readMembers fuel done rest
        | '}' :: rest => some (obj done, rest)
        | _ => none
      | _ => none
    | _ => none

end

/-- **The value that a text holds**, and nothing else but blanks. -/
def read? (text : String) : Option Json := do
  let cs := text.toList
  let (j, rest) ← readValue (2 * cs.length + 2) cs
  if (skipBlanks rest).isEmpty then some j else none

end Namebook.Json
