/-
  Namebook.Json
  ─────────────
  **JSON values.**

  Integers are kept apart from all other numbers, because the records of this library hold integers
  only and a number with a fraction, an exponent or a negative zero is none.  An object is a list
  of members in the order of writing.
-/

namespace Namebook

/-- A JSON value. -/
inductive Json where
  | null
  | bool (b : Bool)
  | int (n : Int)
  /-- A number that is not written as an integer, with its text. -/
  | number (text : String)
  | str (s : String)
  | arr (items : List Json)
  | obj (members : List (String × Json))

namespace Json

/-- The first member with a key. -/
def member? (key : String) : List (String × Json) → Option Json
  | [] => none
  | (k, v) :: rest => if k = key then some v else member? key rest

/-- The value under a key of an object. -/
def get? (key : String) : Json → Option Json
  | obj members => member? key members
  | _ => none

/-- The text of a string value. -/
def text? : Json → Option String
  | str s => some s
  | _ => none

/-- The truth value of a boolean. -/
def bool? : Json → Option Bool
  | bool b => some b
  | _ => none

/-- The value of an integer. -/
def int? : Json → Option Int
  | int n => some n
  | _ => none

/-- The items of an array. -/
def items? : Json → Option (List Json)
  | arr items => some items
  | _ => none

/-- An optional text: nothing is written `null`. -/
def ofText? : Option String → Json
  | none => null
  | some s => str s

/-- A list of texts. -/
def ofTexts (ss : List String) : Json :=
  arr (ss.map str)

end Json

end Namebook
