/-
  Namebook.Proofs.Digits
  ──────────────────────
  **READING AND WRITING DIGITS ARE INVERSE.**

    • `ofDigits_toDigits` — on values below `base ^ width`;
    • `toDigits_ofDigits` — on digits below the base.
-/
import Mathlib.Algebra.Group.Nat.Defs
import Mathlib.Data.List.Induction
import Namebook.Digits

namespace Namebook.Digits

/-! ## §1. Digits at the end. -/

@[simp] theorem ofDigits_concat (base : Nat) (ds : List Nat) (d : Nat) :
    ofDigits base (ds ++ [d]) = ofDigits base ds * base + d := by
  simp [ofDigits, List.foldl_append]

/-! ## §2. There and back. -/

/-- **Writing and reading keeps the value below `base ^ width`.** -/
theorem ofDigits_toDigits (base width n : Nat) :
    ofDigits base (toDigits base width n) = n % base ^ width := by
  induction width generalizing n with
  | zero => simp [toDigits, ofDigits, Nat.mod_one]
  | succ w ih =>
    rw [toDigits, ofDigits_concat, ih, Nat.pow_succ, Nat.mul_comm (base ^ w) base,
      Nat.mod_mul, Nat.mul_comm base, Nat.add_comm]

theorem ofDigits_lt {base : Nat} {ds : List Nat} (h : ∀ d ∈ ds, d < base) :
    ofDigits base ds < base ^ ds.length := by
  induction ds using List.reverseRecOn with
  | nil => simp [ofDigits]
  | append_singleton ds d ih =>
    have hd : d < base := h d (by simp)
    have hs : ofDigits base ds < base ^ ds.length := ih fun x hx => h x (by simp [hx])
    rw [ofDigits_concat, List.length_append, List.length_singleton, Nat.pow_succ]
    calc ofDigits base ds * base + d < ofDigits base ds * base + base := by omega
      _ = (ofDigits base ds + 1) * base := by rw [Nat.add_mul, Nat.one_mul]
      _ ≤ base ^ ds.length * base := Nat.mul_le_mul_right _ hs

/-- **Reading and writing keeps digits that are below the base.** -/
theorem toDigits_ofDigits {base : Nat} {ds : List Nat} (h : ∀ d ∈ ds, d < base) :
    toDigits base ds.length (ofDigits base ds) = ds := by
  induction ds using List.reverseRecOn with
  | nil => rfl
  | append_singleton ds d ih =>
    have hd : d < base := h d (by simp)
    have hb : 0 < base := by omega
    have hmod : (ofDigits base ds * base + d) % base = d := by
      rw [Nat.mul_comm, Nat.mul_add_mod, Nat.mod_eq_of_lt hd]
    have hdiv : (ofDigits base ds * base + d) / base = ofDigits base ds := by
      rw [Nat.mul_comm, Nat.mul_add_div hb, Nat.div_eq_of_lt hd, Nat.add_zero]
    rw [List.length_append, List.length_singleton, toDigits, ofDigits_concat, hmod, hdiv,
      ih fun x hx => h x (by simp [hx])]

end Namebook.Digits
