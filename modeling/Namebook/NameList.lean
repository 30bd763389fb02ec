/-
  Namebook.NameList
  ─────────────────
  **Lists of names written in one text, and sets of reserved names.**

  In a list the names are the maximal runs of characters that are neither blank nor a comma, in
  their order.  A reserved set answers exact, case-sensitive membership; it keeps its names sorted
  and without repetition, so that equal sets are equal values.
-/
import Namebook.Text.Blank

namespace Namebook

namespace NameList

/-- What stands between names: blanks and commas. -/
def isSeparator (c : Char) : Bool :=
  Text.isBlankChar c || c == ','

/-- A finished run, unless it is empty. -/
def finished (run : List Char) : List (List Char) :=
  if run = [] then [] else [run]

/-- The runs of the rest of a text, `run` being the one under way. -/
def runsFrom (run : List Char) : List Char → List (List Char)
  | [] => finished run
  | c :: cs =>
    if isSeparator c then finished run ++ runsFrom [] cs
    else runsFrom (run ++ [c]) cs

/-- **The maximal runs of characters that are no separators.** -/
def runs (cs : List Char) : List (List Char) :=
  runsFrom [] cs

/-- The names of a list. -/
def parse (raw : String) : List String :=
  (runs raw.toList).map String.ofList

/-- Separators at the ends and in a row leave no empty name. -/
example : parse ", a,,b c\n" = ["a", "b", "c"] := by decide

end NameList

/-! ## Reserved names. -/

/-- Adds a text to a sorted list without repetition. -/
def insertSorted (s : String) : List String → List String
  | [] => [s]
  | t :: ts =>
    if s < t then s :: t :: ts
    else if s = t then t :: ts
    else t :: insertSorted s ts

@[simp] theorem mem_insertSorted {s t : String} {ts : List String} :
    t ∈ insertSorted s ts ↔ t = s ∨ t ∈ ts := by
  induction ts with
  | nil => simp [insertSorted]
  | cons u us ih =>
    unfold insertSorted
    split
    · simp
    · split
      · rename_i h
        subst h
        simp
      · simp only [List.mem_cons, ih]
        constructor <;> (intro h; rcases h with h | h | h <;> simp [h])

/-- A set of names that no alias may have. -/
structure ReservedNames where
  /-- The names in increasing order. -/
  names : List String
  deriving DecidableEq

namespace ReservedNames

/-- The set of the names in a list. -/
def ofList (names : List String) : ReservedNames :=
  ⟨names.foldr insertSorted []⟩

/-- Exact membership. -/
def contains (r : ReservedNames) (name : String) : Bool :=
  r.names.contains name

/-- **A set holds the names it was built from.** -/
@[simp] theorem contains_ofList {names : List String} {name : String} :
    (ofList names).contains name = true ↔ name ∈ names := by
  simp only [contains, ofList, List.contains_iff_mem]
  induction names with
  | nil => simp
  | cons n ns ih => simp [ih]

end ReservedNames

end Namebook
