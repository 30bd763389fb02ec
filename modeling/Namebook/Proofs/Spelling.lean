/-
  Namebook.Proofs.Spelling
  ────────────────────────
  **HOW IDS ARE SPELLED.**

    • `PublicId.isShaped_encode` — what is drawn for a new document has the shape of a public id,
      and is not blank;
    • `Uuid.parse?_render` — the canonical text of an id is read back as that id.
-/
import Namebook.PublicId
import Namebook.Uuid
import Namebook.Text.Blank
import Namebook.Proofs.Digits

namespace Namebook

/-! ## §1. Public ids have their shape. -/

namespace PublicId

theorem symbol_mem {d : Nat} (h : d < 32) : symbol d ∈ alphabet := by
  have hmem : ∀ d : Fin 32, symbol d ∈ alphabet := by decide
  exact hmem ⟨d, h⟩

theorem digits_lt (b : Block) : ∀ d ∈ digits b, d < 32 :=
  fun _ hd => Digits.lt_of_mem_toDigits (by omega) hd

theorem toList_encode (b : Block) : (encode b).toList = (digits b).map symbol := by
  unfold encode
  rw [String.toList_ofList]

/-- The last of the 26 symbols carries the two zero bits. -/
theorem getLast?_digits (b : Block) : (digits b).getLast? = some (b.toNat * 4 % 32) := by
  unfold digits
  show (Digits.toDigits 32 (25 + 1) (b.toNat * 4)).getLast? = _
  rw [Digits.toDigits, List.getLast?_concat]

/-- **What a block is encoded to has the shape of a public id.** -/
theorem isShaped_encode (b : Block) : isShaped (encode b) = true := by
  have hlength : ((digits b).map symbol).length = length := by
    rw [List.length_map]
    exact Digits.length_toDigits ..
  have hall : ((digits b).map symbol).all (fun c => alphabet.contains c) = true := by
    rw [List.all_eq_true]
    intro c hc
    obtain ⟨d, hd, rfl⟩ := List.mem_map.1 hc
    simpa using symbol_mem (digits_lt b d hd)
  have hlast : ((digits b).map symbol).getLast? >>= symbolValue? = some (b.toNat * 4 % 32) := by
    rw [List.getLast?_map, getLast?_digits]
    exact symbolValue?_symbol (Nat.mod_lt _ (by omega))
  unfold isShaped
  rw [toList_encode, hlength, hall, hlast]
  -- 128 bits fill 25 symbols and three bits of the last one
  have hlow : b.toNat * 4 % 32 % 4 = 0 := by omega
  simp [hlow]

/-- No symbol of the alphabet is a blank. -/
theorem isBlank_encode (b : Block) : Text.isBlank (encode b) = false := by
  have hsymbols : (alphabet.all fun c => !Text.isBlankChar c) = true := by decide
  have hlast : b.toNat * 4 % 32 ∈ digits b := List.mem_of_getLast? (getLast?_digits b)
  have hsymbol : symbol (b.toNat * 4 % 32) ∈ alphabet := symbol_mem (Nat.mod_lt _ (by omega))
  have hvisible := List.all_eq_true.1 hsymbols _ hsymbol
  unfold Text.isBlank
  rw [toList_encode, List.all_eq_false]
  refine ⟨_, List.mem_map.2 ⟨_, hlast, rfl⟩, ?_⟩
  rw [Bool.not_eq_true'] at hvisible
  rw [hvisible]
  exact Bool.false_ne_true

end PublicId

/-! ## §2. The canonical text of an id. -/

namespace Uuid

theorem length_hexChars (u : Uuid) : u.hexChars.length = 32 := by
  unfold hexChars
  rw [List.length_map]
  exact Digits.length_toDigits ..

/-- 32 hex digits are enough for 128 bits, so nothing is cut off. -/
theorem ofDigits_toDigits_bits (u : Uuid) :
    Digits.ofDigits 16 (Digits.toDigits 16 32 u.bits.toNat) = u.bits.toNat := by
  have hlt : u.bits.toNat < 16 ^ 32 := u.bits.isLt
  rw [Digits.ofDigits_toDigits, Nat.mod_eq_of_lt hlt]

/-- The hex digits of an id spell its value. -/
theorem readHex?_hexChars (u : Uuid) : readHex? u.hexChars = some u.bits.toNat := by
  have hdigits : ∀ ds : List Nat, (∀ d ∈ ds, d < 16) →
      (ds.map hexChar).mapM hexValue? = some ds := by
    intro ds h
    induction ds with
    | nil => rfl
    | cons d ds ih =>
      rw [List.map_cons, List.mapM_cons, hexValue?_hexChar (h d List.mem_cons_self),
        ih fun x hx => h x (List.mem_cons_of_mem d hx)]
      rfl
  unfold readHex? hexChars
  rw [hdigits _ fun d hd => Digits.lt_of_mem_toDigits (by omega) hd, Option.map_some,
    ofDigits_toDigits_bits]

/-- The five groups between the hyphens. -/
theorem unhyphenate?_groups {a b c d e : List Char} (ha : a.length = 8) (hb : b.length = 4)
    (hc : c.length = 4) (hd : d.length = 4) (he : e.length = 12) :
    unhyphenate? (a ++ '-' :: b ++ '-' :: c ++ '-' :: d ++ '-' :: e)
      = some (a ++ b ++ c ++ d ++ e) := by
  match a, b, c, d, ha, hb, hc, hd with
  | [_, _, _, _, _, _, _, _], [_, _, _, _], [_, _, _, _], [_, _, _, _], _, _, _, _ =>
    unfold unhyphenate?
    have hlength : ∀ cs : List Char, cs.length = 24 → (cs ++ e).length = 36 := by
      intro cs hcs
      rw [List.length_append, hcs, he]
    rw [if_pos ⟨hlength [_, _, _, _, _, _, _, _, _, _, _, _, _, _, _, _, _, _, _, _, _, _, _, _] rfl,
      rfl, rfl, rfl, rfl⟩]
    rfl

theorem unhyphenate?_hyphenate {cs : List Char} (h : cs.length = 32) :
    unhyphenate? (hyphenate cs) = some cs := by
  unfold hyphenate
  rw [unhyphenate?_groups (by simp; omega) (by simp; omega) (by simp; omega) (by simp; omega)
    (by simp; omega)]
  have hjoin : ∀ i k : Nat, (cs.drop i).take k ++ cs.drop (i + k) = cs.drop i := by
    intro i k
    rw [← List.drop_drop, List.take_append_drop]
  rw [List.append_assoc, List.append_assoc, List.append_assoc, hjoin 16 4, hjoin 12 4, hjoin 8 4,
    List.take_append_drop]

theorem length_hyphenate {cs : List Char} (h : cs.length = 32) : (hyphenate cs).length = 36 := by
  unfold hyphenate
  simp only [List.length_append, List.length_cons, List.length_take, List.length_drop]
  omega

theorem digitChars?_hyphenate {cs : List Char} (h : cs.length = 32) :
    digitChars? (hyphenate cs) = some cs := by
  have hlength := length_hyphenate h
  unfold digitChars?
  rw [if_neg (by omega), if_pos hlength]
  exact unhyphenate?_hyphenate h

/-- **The canonical text of an id is read back as that id.** -/
theorem parse?_render (u : Uuid) : parse? u.render = some u := by
  have hchars : u.render.toList = hyphenate u.hexChars := by
    unfold render
    rw [String.toList_ofList]
  unfold parse?
  rw [hchars, digitChars?_hyphenate u.length_hexChars]
  rw [Option.bind_eq_bind, Option.bind_some, readHex?_hexChars, Option.map_some,
    BitVec.ofNat_toNat, BitVec.setWidth_eq]

theorem render_injective {u v : Uuid} (h : u.render = v.render) : u = v := by
  have hparse := parse?_render u
  rw [h, parse?_render] at hparse
  injection hparse with hparse
  exact hparse.symm

end Uuid

end Namebook
