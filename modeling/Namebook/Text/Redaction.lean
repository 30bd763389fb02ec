/-
  Namebook.Text.Redaction
  ───────────────────────
  **Keeping names out of the log.**

  Messages quote names between backticks.  Redaction pairs the backticks from left to right and
  replaces what stands between the two of a pair by its number of characters; an unpaired last
  backtick and all that follows it stay.  A payload for the log is redacted first, then put on one
  line, and cut last, so cutting never uncovers a quoted name.
-/

namespace Namebook.Text

/-! ## §1. Quoted spans. -/

/-- The backtick. -/
def quoteMark : Char := '\x60'

/-- What stands for a quoted span of `n` characters. -/
def spanMark (n : Nat) : List Char :=
  quoteMark :: '<' :: (toString n).toList ++ " chars>".toList ++ [quoteMark]

/-- Redacts the rest of a message; the first argument is the span under way, if one is open. -/
def redactFrom : Option (List Char) → List Char → List Char
  | none, [] => []
  -- an open span at the end was none: it is put back as it was
  | some span, [] => quoteMark :: span
  | none, c :: cs =>
    if c = quoteMark then redactFrom (some []) cs else c :: redactFrom none cs
  | some span, c :: cs =>
    if c = quoteMark then spanMark span.length ++ redactFrom none cs
    else redactFrom (some (span ++ [c])) cs

/-- Replaces every quoted span by its number of characters. -/
def redactNames (message : String) : String :=
  String.ofList (redactFrom none message.toList)

/-- Spans are paired from the left and may be empty; the last backtick here is unpaired. -/
example : redactNames "a`bc```d`e" = "a`<2 chars>``<0 chars>`d`e" := by decide

/-! ## §2. Bounded payloads. -/

/-- The greatest number of characters of a payload before it is cut. -/
def payloadLimit : Nat := 160

/-- Line breaks become spaces, one for each. -/
def onOneLine (cs : List Char) : List Char :=
  cs.map fun c => if c = '\n' ∨ c = '\r' then ' ' else c

/-- The first `limit` characters, with three dots if there are more. -/
def cut (limit : Nat) (cs : List Char) : List Char :=
  if cs.length ≤ limit then cs else cs.take limit ++ "...".toList

/-- A message as it may stand in the log: redacted, on one line and of bounded length. -/
def loggablePayload (message : String) : String :=
  String.ofList (cut payloadLimit (onOneLine (redactFrom none message.toList)))

end Namebook.Text
