/-
  Namebook.Text.Blank
  ───────────────────
  **Blank characters and trimming.**

  A character is blank when it has the Unicode property `White_Space`: ten ranges, twenty-five code
  points.  "Blank name", "trimmed value" and "separator of a list" all refer to this one predicate.
  Zero-width characters and the byte order mark are not blank.
-/

namespace Namebook.Text

/-! ## §1. The property. -/

/-- The ranges of code points that carry the property `White_Space`. -/
def blankRanges : List (Nat × Nat) :=
  [(0x09, 0x0D), (0x20, 0x20), (0x85, 0x85), (0xA0, 0xA0), (0x1680, 0x1680),
   (0x2000, 0x200A), (0x2028, 0x2029), (0x202F, 0x202F), (0x205F, 0x205F), (0x3000, 0x3000)]

/-- Whether a character is white space. -/
def isBlankChar (c : Char) : Bool :=
  blankRanges.any fun r => decide (r.1 ≤ c.toNat) && decide (c.toNat ≤ r.2)

/-- The table lists twenty-five code points. -/
example : (blankRanges.map fun r => r.2 - r.1 + 1).sum = 25 := by decide

/-- A space is blank, a zero-width space is not. -/
example : isBlankChar ' ' = true ∧ isBlankChar '\u200b' = false := by decide

/-! ## §2. Trimming. -/

/-- The characters without the blanks at both ends. -/
def trimChars (cs : List Char) : List Char :=
  ((cs.dropWhile isBlankChar).reverse.dropWhile isBlankChar).reverse

/-- The text without the blanks at both ends. -/
def trim (s : String) : String :=
  String.ofList (trimChars s.toList)

/-- Whether a text holds nothing but blanks. -/
def isBlank (s : String) : Bool :=
  s.toList.all isBlankChar

theorem dropWhile_eq_nil_of_all {p : Char → Bool} {cs : List Char} (h : cs.all p = true) :
    cs.dropWhile p = [] := by
  induction cs with
  | nil => rfl
  | cons c cs ih =>
    simp only [List.all_cons, Bool.and_eq_true] at h
    simp [h.1, ih h.2]

theorem all_of_dropWhile_eq_nil {p : Char → Bool} {cs : List Char} (h : cs.dropWhile p = []) :
    cs.all p = true := by
  induction cs with
  | nil => rfl
  | cons c cs ih =>
    by_cases hc : p c = true
    · simp only [List.dropWhile_cons, hc, if_true] at h
      simp [hc, ih h]
    · simp [hc] at h

/-- **Blank texts are those that trimming empties.** -/
theorem trimChars_eq_nil_iff {cs : List Char} : trimChars cs = [] ↔ cs.all isBlankChar = true := by
  constructor
  · intro h
    have h' : ((cs.dropWhile isBlankChar).reverse).dropWhile isBlankChar = [] := by
      simpa [trimChars] using h
    have hall := all_of_dropWhile_eq_nil h'
    cases hd : cs.dropWhile isBlankChar with
    | nil => exact all_of_dropWhile_eq_nil hd
    | cons c r =>
      have hc : isBlankChar c = true := by
        rw [hd] at hall
        simp only [List.all_reverse, List.all_cons, Bool.and_eq_true] at hall
        exact hall.1
      have := List.head?_dropWhile_not isBlankChar cs
      rw [hd] at this
      simp [hc] at this
  · intro h
    simp [trimChars, dropWhile_eq_nil_of_all h]

/-- **A text is blank exactly if trimming empties it.** -/
theorem trim_eq_empty_iff {s : String} : trim s = "" ↔ isBlank s = true := by
  unfold trim isBlank
  rw [← trimChars_eq_nil_iff, ← String.toList_eq_nil_iff, String.toList_ofList]

end Namebook.Text
