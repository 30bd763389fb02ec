/-
  Namebook.Text.Quoted
  ────────────────────
  **Text between quotes, for diagnostics.**

  Quotes, backslashes and the usual controls are escaped with a backslash, hidden characters by
  their number in hexadecimal; all else stands for itself.
-/
import Namebook.Text.Hidden

namespace Namebook.Text

/-- A character by its number. -/
def escapeNumber (c : Char) : List Char :=
  ['\\', 'u', '{'] ++ Nat.toDigits 16 c.toNat ++ ['}']

/-- A character between quotes. -/
def escapeQuoted (c : Char) : List Char :=
  if c = '"' then ['\\', '"']
  else if c = '\\' then ['\\', '\\']
  else if c = '\n' then ['\\', 'n']
  else if c = '\r' then ['\\', 'r']
  else if c = '\t' then ['\\', 't']
  else if c = '\x00' then ['\\', '0']
  else if isHidden c then escapeNumber c
  else [c]

/-- A text between quotes. -/
def quoted (s : String) : String :=
  String.ofList ('"' :: s.toList.flatMap escapeQuoted ++ ['"'])

/-- A letter with an accent shows; an accent of its own and a zero width space do not. -/
example : ['é', '\u0301', '\u200b', '\'', '\\'].map escapeQuoted =
    [['é'], "\\u\x7b301\x7d".toList, "\\u\x7b200b\x7d".toList, ['\''], ['\\', '\\']] := by
  decide +kernel

end Namebook.Text
