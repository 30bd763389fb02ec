/-
  Namebook.Json.Printer
  ─────────────────────
  **Writing JSON.**

  The compact form has no blanks.  The pretty form puts every item and member on a line of its own,
  two spaces deeper than what encloses it.  In strings the quote, the backslash and control
  characters are escaped; all other characters stand for themselves.
-/
import Namebook.Json
import Namebook.Uuid

namespace Namebook.Json

/-! ## §1. Strings. -/

/-- A character within a string. -/
def escapeChar (c : Char) : List Char :=
  if c = '"' then ['\\', '"']
  else if c = '\\' then ['\\', '\\']
  else if c = '\n' then ['\\', 'n']
  else if c = '\r' then ['\\', 'r']
  else if c = '\t' then ['\\', 't']
  else if c = '\x08' then ['\\', 'b']
  else if c = '\x0c' then ['\\', 'f']
  else if c.toNat < 0x20 then
    ['\\', 'u', '0', '0', Uuid.hexChar (c.toNat / 16), Uuid.hexChar (c.toNat % 16)]
  else [c]

/-- A string between quotes. -/
def quote (s : String) : String :=
  String.ofList ('"' :: s.toList.flatMap escapeChar ++ ['"'])

/-! ## §2. The compact form. -/

mutual

/-- A value without blanks. -/
def compact : Json → String
  | null => "null"
  | bool true => "true"
  | bool false => "false"
  | int n => toString n
  | number text => text
  | str s => quote s
  | arr items => "[" ++ String.intercalate "," (compactItems items) ++ "]"
  | obj members => "\x7b" ++ String.intercalate "," (compactMembers members) ++ "\x7d"

/-- The items of an array. -/
def compactItems : List Json → List String
  | [] => []
  | j :: js => compact j :: compactItems js

/-- The members of an object. -/
def compactMembers : List (String × Json) → List String
  | [] => []
  | (k, j) :: rest => (quote k ++ ":" ++ compact j) :: compactMembers rest

end

/-! ## §3. The pretty form. -/

/-- A new line at a depth. -/
def newline (depth : Nat) : String :=
  String.ofList ('\n' :: List.replicate (2 * depth) ' ')

/-- Lines between brackets, one level deeper than the brackets. -/
def block (depth : Nat) (opening closing : String) (lines : List String) : String :=
  if lines.isEmpty then opening ++ closing
  else opening ++ newline (depth + 1) ++ String.intercalate ("," ++ newline (depth + 1)) lines ++
    newline depth ++ closing

mutual

/-- A value whose brackets stand at a depth. -/
def prettyAt (depth : Nat) : Json → String
  | arr items => block depth "[" "]" (prettyItems (depth + 1) items)
  | obj members => block depth "\x7b" "\x7d" (prettyMembers (depth + 1) members)
  | j => compact j

/-- The items of an array at a depth. -/
def prettyItems (depth : Nat) : List Json → List String
  | [] => []
  | j :: js => prettyAt depth j :: prettyItems depth js

/-- The members of an object at a depth. -/
def prettyMembers (depth : Nat) : List (String × Json) → List String
  | [] => []
  | (k, j) :: rest => (quote k ++ ": " ++ prettyAt depth j) :: prettyMembers depth rest

end

/-- A value over several lines. -/
def pretty (j : Json) : String := prettyAt 0 j

end Namebook.Json
