/-
  Namebook.Integer
  ────────────────
  **64-bit integers of the store.**

  Versions, positions, flags and times are signed 64-bit integers.  Two operations may leave their
  range and then give nothing instead of wrapping: reading an arbitrary integer, and counting up.
-/

namespace Namebook.Integer

/-- The least storable integer. -/
def least : Int := -9223372036854775808

/-- The greatest storable integer. -/
def greatest : Int := 9223372036854775807

/-- The stored form of an integer in range. -/
def ofInt? (n : Int) : Option Int64 :=
  if least ≤ n ∧ n ≤ greatest then some (Int64.ofInt n) else none

/-- The next integer, unless it is out of range. -/
def next? (v : Int64) : Option Int64 :=
  ofInt? (v.toInt + 1)

/-- **An integer is read exactly or not at all.** -/
theorem ofInt?_eq_some_iff {n : Int} {v : Int64} : ofInt? n = some v ↔ v.toInt = n := by
  unfold ofInt? least greatest
  constructor
  · intro h
    split at h
    · rename_i hr
      simp only [Option.some.injEq] at h
      subst h
      exact Int64.toInt_ofInt_of_le (by omega) (by omega)
    · simp at h
  · intro h
    have h1 := Int64.le_toInt v
    have h2 := Int64.toInt_lt v
    rw [if_pos (by omega), ← h, Int64.ofInt_toInt]

/-- **Counting up is exact.** -/
theorem next?_eq_some_iff {v w : Int64} : next? v = some w ↔ w.toInt = v.toInt + 1 := by
  rw [next?, ofInt?_eq_some_iff]

/-- **Counting up fails at the greatest integer only.** -/
theorem next?_eq_none_iff {v : Int64} : next? v = none ↔ v.toInt = greatest := by
  have h1 := Int64.le_toInt v
  have h2 := Int64.toInt_lt v
  unfold next? ofInt? least greatest
  constructor
  · intro h
    by_cases hr : -9223372036854775808 ≤ v.toInt + 1 ∧ v.toInt + 1 ≤ 9223372036854775807
    · simp [hr] at h
    · omega
  · intro h
    rw [if_neg (by omega)]

/-- Below the greatest integer there is a next one. -/
theorem exists_next {v : Int64} (h : v.toInt ≠ greatest) : ∃ w : Int64, w.toInt = v.toInt + 1 := by
  cases hnext : next? v with
  | none => exact absurd (next?_eq_none_iff.1 hnext) h
  | some w => exact ⟨w, next?_eq_some_iff.1 hnext⟩

end Namebook.Integer
