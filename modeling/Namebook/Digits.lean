/-
  Namebook.Digits
  ───────────────
  **Positional digits of a fixed width.**

  `toDigits b w n` writes `n` with exactly `w` digits in base `b`, the most significant first, and
  drops what does not fit; `ofDigits b ds` reads digits back.  Public ids (base 32), unique ids
  (base 16) and blocks of random bytes (base 256) are all read and written through this pair.
-/

namespace Namebook.Digits

/-- The value of a list of digits, the most significant first. -/
def ofDigits (base : Nat) (ds : List Nat) : Nat :=
  ds.foldl (fun n d => n * base + d) 0

/-- The last `width` digits of `n`, the most significant first. -/
def toDigits (base : Nat) : Nat → Nat → List Nat
  | 0, _ => []
  | width + 1, n => toDigits base width (n / base) ++ [n % base]

/-! ## §1. Length and range. -/

@[simp] theorem length_toDigits (base width n : Nat) : (toDigits base width n).length = width := by
  induction width generalizing n with
  | zero => rfl
  | succ w ih => simp [toDigits, ih]

theorem lt_of_mem_toDigits {base width n d : Nat} (hb : 0 < base)
    (h : d ∈ toDigits base width n) : d < base := by
  induction width generalizing n with
  | zero => simp [toDigits] at h
  | succ w ih =>
    simp only [toDigits, List.mem_append, List.mem_singleton] at h
    rcases h with h | h
    · exact ih h
    · subst h; exact Nat.mod_lt _ hb

end Namebook.Digits
