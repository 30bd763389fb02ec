/-
  Namebook.Proofs.PublicId
  ────────────────────────
  **WRITING AND RECOGNISING PUBLIC IDS ARE COUNTERPARTS.**

  The writer carries at most four bits from one byte to the next.  What it has written and what it
  carries are the number that it has read, and every shift and index stays in range:

    • `Writer.Spells` — the invariant; `emit?_spells`, `Writer.push?_spells`, `Writer.finish?_spells`;
    • `write?_eq` — the writer gives the 26 digits of the padded number;
    • `Shape.exists_digits` — 26 digits with clear padding are those of some block;
    • `isShapedInBytes_eq` — recognising bytes is recognising characters;
    • `writing_and_recognising` — all of it.
-/
import Namebook.PublicId.Machine
import Namebook.Proofs.Spelling
import Mathlib.Data.List.Basic
import Mathlib.Tactic.Ring

namespace Namebook.PublicId

open Digits

/-! ## §1. Words. -/

theorem shiftRight?_eq {distance : Nat} (h : distance < 32) (word : UInt32) :
    ∃ v, shiftRight? word distance = some v ∧ v.toNat = word.toNat / 2 ^ distance := by
  refine ⟨_, if_pos h, ?_⟩
  rw [UInt32.toNat_shiftRight, UInt32.toNat_ofNat_of_lt' (by simpa [UInt32.size] using by omega),
    Nat.mod_eq_of_lt h, Nat.shiftRight_eq_div_pow]

/-- A shift to the left multiplies if no bit is lost. -/
theorem shiftLeft?_eq {distance : Nat} (h : distance < 32) (word : UInt32)
    (hfits : word.toNat * 2 ^ distance < 2 ^ 32) :
    ∃ v, shiftLeft? word distance = some v ∧ v.toNat = word.toNat * 2 ^ distance := by
  refine ⟨_, if_pos h, ?_⟩
  rw [UInt32.toNat_shiftLeft, UInt32.toNat_ofNat_of_lt' (by simpa [UInt32.size] using by omega),
    Nat.mod_eq_of_lt h, Nat.shiftLeft_eq, Nat.mod_eq_of_lt hfits]

/-- **Five bits always pick a symbol.** -/
theorem symbol?_lowFive (word : UInt32) :
    symbol? (lowFive word) = some (symbol (word.toNat % 32)) := by
  have hindex : (lowFive word).toNat = word.toNat % 32 := by
    unfold lowFive
    rw [UInt32.toNat_and]
    exact Nat.and_two_pow_sub_one_eq_mod word.toNat 5
  have hsymbol : ∀ d : Fin 32, alphabet[d.val]? = some (symbol d) := by decide
  unfold symbol?
  rw [hindex]
  exact hsymbol ⟨word.toNat % 32, Nat.mod_lt _ (by decide)⟩

/-! ## §2. The writer. -/

theorem emit?_of_lt {bits : Nat} (h : bits < 5) (buffer : UInt32) (text : String) :
    emit? buffer bits text = some (bits, text) := by
  match bits, h with
  | 0, _ | 1, _ | 2, _ | 3, _ | 4, _ => rfl

/-- **Taking symbols off the top of the buffer.**  The symbols and the bits that are left make up the
same number as before, whatever was written first. -/
theorem emit?_spells (buffer : UInt32) (bits : Nat) (hbits : bits < 32) (text : String) :
    ∃ out ds, emit? buffer bits text = some (bits % 5, out) ∧
      out.toList = text.toList ++ ds.map symbol ∧ (∀ d ∈ ds, d < 32) ∧
      5 * ds.length + bits % 5 = bits ∧
      ∀ before, Digits.ofDigits 32 (before ++ ds) * 2 ^ (bits % 5) + buffer.toNat % 2 ^ (bits % 5)
        = Digits.ofDigits 32 before * 2 ^ bits + buffer.toNat % 2 ^ bits := by
  induction bits using Nat.strongRecOn generalizing text with
  | ind bits ih =>
  -- the bits below the top five stay in the buffer, so the hypothesis speaks of the same buffer
  by_cases hfew : bits < 5
  · rw [Nat.mod_eq_of_lt hfew]
    refine ⟨text, [], emit?_of_lt hfew buffer text, (List.append_nil _).symm,
      fun d hd => (by cases hd), by simp, fun before => by rw [List.append_nil]⟩
  · obtain ⟨k, rfl⟩ : ∃ k, bits = k + 5 := ⟨bits - 5, by omega⟩
    obtain ⟨word, hword, hvalue⟩ := shiftRight?_eq (show k < 32 by omega) buffer
    obtain ⟨out, ds, hemit, htext, hbelow, hcount, hnumber⟩ :=
      ih k (by omega) (by omega) (text.push (symbol (word.toNat % 32)))
    have hmod : (k + 5) % 5 = k % 5 := Nat.add_mod_right k 5
    rw [hmod]
    refine ⟨out, word.toNat % 32 :: ds, ?_, ?_, ?_, ?_, fun before => ?_⟩
    · rw [emit?, hword, Option.bind_eq_bind, Option.bind_some, symbol?_lowFive, Option.bind_eq_bind,
        Option.bind_some, hemit]
    · rw [htext, String.toList_push, List.append_assoc]
      rfl
    · intro d hd
      rcases List.mem_cons.1 hd with rfl | hd
      · exact Nat.mod_lt _ (by decide)
      · exact hbelow d hd
    · rw [List.length_cons]
      omega
    · -- the next digit moves from the buffer to the digits
      have hmoved := hnumber (before ++ [word.toNat % 32])
      rw [List.append_assoc, List.singleton_append, Digits.ofDigits_concat, hvalue] at hmoved
      rw [hvalue, hmoved, Nat.pow_add, Nat.mod_mul]
      ring

namespace Writer

/-- **What a writer has done**: its text spells the digits `ds`, and these and the bits that it carries
are the number of the bytes that it has read. -/
structure Spells (w : Writer) (ds : List Nat) (bytes : List UInt8) : Prop where
  text : w.text.toList = ds.map symbol
  below : ∀ d ∈ ds, d < 32
  few : w.bits < 5
  fits : w.buffer.toNat < 2 ^ w.bits
  count : 5 * ds.length + w.bits = 8 * bytes.length
  number : Digits.ofDigits 32 ds * 2 ^ w.bits + w.buffer.toNat
    = Digits.ofDigits 256 (bytes.map UInt8.toNat)

theorem start_spells : start.Spells [] [] :=
  ⟨rfl, fun d hd => (by cases hd), by decide, by decide, rfl, rfl⟩

/-- A byte behind the bits that are carried. -/
theorem shift_in {w : Writer} {ds : List Nat} {bytes : List UInt8} (h : w.Spells ds bytes)
    (byte : UInt8) : ∃ shifted, shiftLeft? w.buffer 8 = some shifted ∧
      (shifted ||| byte.toUInt32).toNat = w.buffer.toNat * 256 + byte.toNat ∧
      w.buffer.toNat * 256 + byte.toNat < 2 ^ (w.bits + 8) := by
  have hbyte := byte.toNat_lt
  have hfits : w.buffer.toNat * 256 + byte.toNat < 2 ^ (w.bits + 8) := by
    have hbuffer := h.fits
    rw [Nat.pow_add]
    omega
  have hsmall : w.buffer.toNat < 2 ^ 24 :=
    h.fits.trans_le (Nat.pow_le_pow_right (by decide) (by have hfew := h.few; omega))
  obtain ⟨shifted, hshifted, hvalue⟩ := shiftLeft?_eq (by decide) w.buffer
    (Nat.mul_lt_mul_of_pos_right hsmall (Nat.two_pow_pos 8))
  refine ⟨shifted, hshifted, ?_, hfits⟩
  rw [UInt32.toNat_or, UInt8.toNat_toUInt32, hvalue, Nat.mul_comm,
    ← Nat.two_pow_add_eq_or_of_lt (i := 8) hbyte, Nat.mul_comm]

/-- The mask of some low bits. -/
theorem mask_eq {bits : Nat} (h : bits < 32) (word : UInt32) :
    ∃ one mask, shiftLeft? 1 bits = some one ∧ sub? one 1 = some mask ∧
      (word &&& mask).toNat = word.toNat % 2 ^ bits := by
  have hpower : (2 : Nat) ^ bits < 2 ^ 32 := Nat.pow_lt_pow_right (by decide) h
  obtain ⟨one, hone, hvalue⟩ := shiftLeft?_eq h 1 (by simpa using hpower)
  have hvalue : one.toNat = 2 ^ bits := by simpa using hvalue
  have hle : (1 : UInt32) ≤ one := by
    rw [UInt32.le_iff_toNat_le, hvalue]
    exact Nat.one_le_two_pow
  refine ⟨one, one - 1, hone, if_pos hle, ?_⟩
  rw [UInt32.toNat_and, UInt32.toNat_sub_of_le _ _ hle, hvalue]
  exact Nat.and_two_pow_sub_one_eq_mod word.toNat bits

/-- **One byte.** -/
theorem push?_spells {w : Writer} {ds : List Nat} {bytes : List UInt8} (h : w.Spells ds bytes)
    (byte : UInt8) : ∃ w' ds', w.push? byte = some w' ∧ w'.Spells ds' (bytes ++ [byte]) := by
  obtain ⟨shifted, hshifted, hfilled, hfits⟩ := shift_in h byte
  have hfew := h.few
  obtain ⟨text, new, hemit, htext, hbelow, hcount, hnumber⟩ :=
    emit?_spells (shifted ||| byte.toUInt32) (w.bits + 8) (by omega) w.text
  have hleft : (w.bits + 8) % 5 < 5 := Nat.mod_lt _ (by decide)
  obtain ⟨one, mask, hone, hmask, hmasked⟩ :=
    mask_eq (hleft.trans (by decide)) (shifted ||| byte.toUInt32)
  refine ⟨⟨(shifted ||| byte.toUInt32) &&& mask, (w.bits + 8) % 5, text⟩, ds ++ new, ?_, ?_⟩
  · unfold push?
    simp only [hshifted, hemit, hone, hmask, Option.bind_eq_bind, Option.bind_some]
    rfl
  · refine ⟨?_, ?_, hleft, ?_, ?_, ?_⟩
    · show text.toList = _
      rw [htext, h.text, List.map_append]
    · intro d hd
      exact (List.mem_append.1 hd).elim (h.below d) (hbelow d)
    · show ((shifted ||| byte.toUInt32) &&& mask).toNat < _
      rw [hmasked]
      exact Nat.mod_lt _ (Nat.two_pow_pos _)
    · have hbefore := h.count
      show 5 * (ds ++ new).length + (w.bits + 8) % 5 = _
      rw [List.length_append, List.length_append, List.length_singleton]
      omega
    · -- the carried bits and the byte fill `w.bits + 8` bits, and nothing stands above them
      show Digits.ofDigits 32 (ds ++ new) * 2 ^ ((w.bits + 8) % 5) +
        ((shifted ||| byte.toUInt32) &&& mask).toNat = _
      rw [hmasked, hnumber ds, hfilled, Nat.mod_eq_of_lt hfits, List.map_append, List.map_cons,
        List.map_nil, Digits.ofDigits_concat, ← h.number, Nat.pow_add]
      ring

/-- **Many bytes.** -/
theorem foldlM_spells {w : Writer} {ds : List Nat} {bytes : List UInt8} (h : w.Spells ds bytes)
    (more : List UInt8) :
    ∃ w' ds', more.foldlM push? w = some w' ∧ w'.Spells ds' (bytes ++ more) := by
  induction more generalizing w ds bytes with
  | nil => exact ⟨w, ds, rfl, by rw [List.append_nil]; exact h⟩
  | cons byte more ih =>
    obtain ⟨w₁, ds₁, hpush, h₁⟩ := push?_spells h byte
    obtain ⟨w₂, ds₂, hfold, h₂⟩ := ih h₁
    refine ⟨w₂, ds₂, ?_, ?_⟩
    · rw [List.foldlM_cons, hpush]
      exact hfold
    · rwa [List.append_assoc] at h₂

/-- **The last symbol** is padded with as many zero bits as it takes to fill it. -/
theorem finish?_spells {w : Writer} {ds : List Nat} {bytes : List UInt8} (h : w.Spells ds bytes) :
    ∃ text ds' padding, w.finish? = some text ∧ text.toList = ds'.map symbol ∧
      (∀ d ∈ ds', d < 32) ∧ padding < 5 ∧ 5 * ds'.length = 8 * bytes.length + padding ∧
      Digits.ofDigits 32 ds' = Digits.ofDigits 256 (bytes.map UInt8.toNat) * 2 ^ padding := by
  have hcount := h.count
  have hfew := h.few
  have hnumber := h.number
  by_cases hzero : w.bits = 0
  · -- no bit is carried, so the buffer is clear and nothing is written
    have hempty : w.buffer.toNat = 0 := by
      have hfits := h.fits
      rw [hzero] at hfits
      omega
    rw [hzero] at hcount hnumber
    refine ⟨w.text, ds, 0, if_pos hzero, h.text, h.below, by decide, by omega, ?_⟩
    rw [← hnumber, hempty]
    ring
  · -- fewer than five bits are moved to the top of a symbol
    have hscale : w.buffer.toNat * 2 ^ (5 - w.bits) < 32 := by
      calc w.buffer.toNat * 2 ^ (5 - w.bits)
          < 2 ^ w.bits * 2 ^ (5 - w.bits) := Nat.mul_lt_mul_of_pos_right h.fits (Nat.two_pow_pos _)
        _ = 2 ^ 5 := by rw [← Nat.pow_add, Nat.add_sub_cancel' (by omega)]
    obtain ⟨word, hword, hvalue⟩ :=
      shiftLeft?_eq (show 5 - w.bits < 32 by omega) w.buffer (by omega)
    refine ⟨w.text.push (symbol (word.toNat % 32)), ds ++ [word.toNat % 32], 5 - w.bits, ?_, ?_, ?_,
      by omega, ?_, ?_⟩
    · unfold finish?
      rw [if_neg hzero, if_pos (by omega)]
      simp only [hword, symbol?_lowFive, Option.bind_eq_bind, Option.bind_some]
      rfl
    · rw [String.toList_push, h.text, List.map_append]
      rfl
    · intro d hd
      rcases List.mem_append.1 hd with hd | hd
      · exact h.below d hd
      · rw [List.mem_singleton.1 hd]
        exact Nat.mod_lt _ (by decide)
    · rw [List.length_append, List.length_singleton]
      omega
    · have hsplit : (32 : Nat) = 2 ^ w.bits * 2 ^ (5 - w.bits) := by
        rw [← Nat.pow_add, Nat.add_sub_cancel' (by omega)]
      rw [Digits.ofDigits_concat, hvalue, Nat.mod_eq_of_lt hscale, ← hnumber]
      calc Digits.ofDigits 32 ds * 32 + w.buffer.toNat * 2 ^ (5 - w.bits)
          = Digits.ofDigits 32 ds * (2 ^ w.bits * 2 ^ (5 - w.bits)) +
              w.buffer.toNat * 2 ^ (5 - w.bits) := by rw [← hsplit]
        _ = _ := by ring

end Writer

/-- **The writer gives the public id of the block**: none of its steps is out of range. -/
theorem write?_eq (b : Block) : write? b = some (encode b) := by
  obtain ⟨w, ds, hfold, hw⟩ := Writer.foldlM_spells Writer.start_spells b.toList
  obtain ⟨text, ds', padding, hfinish, htext, hbelow, hfew, hcount, hnumber⟩ :=
    Writer.finish?_spells hw
  rw [List.nil_append] at hcount hnumber
  rw [Vector.length_toList] at hcount
  -- 16 bytes are 26 symbols of five bits less two bits
  obtain rfl : padding = 2 := by omega
  have hlength : ds'.length = length := by
    show ds'.length = 26
    omega
  have hdigits : ds' = digits b := by
    have hback := toDigits_ofDigits hbelow
    rw [hlength, hnumber] at hback
    exact hback.symm
  have htext : text = encode b := by
    rw [← String.toList_inj, htext, hdigits, toList_encode]
  unfold write? writeBytes?
  rw [hfold, Option.bind_eq_bind, Option.bind_some, hfinish, htext]

end Namebook.PublicId

/-! ## §3. Blocks and numbers. -/

namespace Namebook.Block

theorem byte_lt (b : Block) : ∀ d ∈ b.toList.map UInt8.toNat, d < 256 := by
  intro d hd
  obtain ⟨byte, _, rfl⟩ := List.mem_map.1 hd
  exact byte.toNat_lt

theorem toNat_lt (b : Block) : b.toNat < 256 ^ 16 := by
  have hlt := Digits.ofDigits_lt b.byte_lt
  rwa [List.length_map, Vector.length_toList] at hlt

theorem toNat_injective : Function.Injective toNat := by
  have hbytes : ∀ b : Block, Digits.toDigits 256 16 b.toNat = b.toList.map UInt8.toNat := by
    intro b
    have hdigits := Digits.toDigits_ofDigits b.byte_lt
    rwa [List.length_map, Vector.length_toList] at hdigits
  intro b c h
  rw [← Vector.toList_inj]
  have hmap : b.toList.map UInt8.toNat = c.toList.map UInt8.toNat := by
    rw [← hbytes, ← hbytes, h]
  exact (List.map_inj_right fun _ _ => UInt8.toNat_inj.1).1 hmap

theorem exists_toList_eq (bytes : List UInt8) (h : bytes.length = 16) :
    ∃ b : Block, b.toList = bytes := ⟨⟨bytes.toArray, h⟩, rfl⟩

/-- Every number below `256 ^ 16` is that of a block. -/
theorem exists_toNat_eq {n : Nat} (h : n < 256 ^ 16) : ∃ b : Block, b.toNat = n := by
  obtain ⟨b, hb⟩ := exists_toList_eq ((Digits.toDigits 256 16 n).map UInt8.ofNat)
    (by rw [List.length_map, Digits.length_toDigits])
  have hbytes : b.toList.map UInt8.toNat = Digits.toDigits 256 16 n := by
    rw [hb, List.map_map]
    refine (List.map_congr_left fun d hd => ?_).trans (List.map_id _)
    exact UInt8.toNat_ofNat_of_lt' (Digits.lt_of_mem_toDigits (by decide) hd)
  refine ⟨b, ?_⟩
  unfold toNat
  rw [hbytes, Digits.ofDigits_toDigits, Nat.mod_eq_of_lt h]

end Namebook.Block

namespace Namebook.PublicId

open Digits

/-! ## §4. The digits of a block. -/

/-- The shape of the digits of a block: as many as 128 bits need, the two bits of padding clear. -/
structure Shape (ds : List Nat) : Prop where
  below : ∀ d ∈ ds, d < 32
  length : ds.length = PublicId.length
  clear : ∃ d, ds.getLast? = some d ∧ d % 4 = 0

/-- The padded number of a block is read back from its digits. -/
theorem ofDigits_digits (b : Block) : ofDigits 32 (digits b) = b.toNat * 4 := by
  have hlt := b.toNat_lt
  rw [digits, ofDigits_toDigits, Nat.mod_eq_of_lt]
  show b.toNat * 4 < 32 ^ 26
  omega

theorem digits_injective : Function.Injective digits := by
  intro b c h
  have hnumber : b.toNat * 4 = c.toNat * 4 := by
    rw [← ofDigits_digits, ← ofDigits_digits, h]
  exact Block.toNat_injective (by omega)

/-- **Digits of that shape are those of a block.** -/
theorem Shape.exists_digits {ds : List Nat} (h : Shape ds) : ∃ b, ds = digits b := by
  obtain ⟨d, hlast, hclear⟩ := h.clear
  obtain ⟨init, rfl⟩ := List.getLast?_eq_some_iff.1 hlast
  have hlt := ofDigits_lt h.below
  have hback := toDigits_ofDigits h.below
  rw [h.length] at hlt hback
  -- 32 is a multiple of 4, so the number is one, as its last digit is
  have hfour : ofDigits 32 (init ++ [d]) / 4 * 4 = ofDigits 32 (init ++ [d]) := by
    rw [ofDigits_concat]
    omega
  obtain ⟨b, hb⟩ := Block.exists_toNat_eq (n := ofDigits 32 (init ++ [d]) / 4) (by
    have hlt : ofDigits 32 (init ++ [d]) < 32 ^ 26 := hlt
    omega)
  refine ⟨b, ?_⟩
  rw [digits, hb, hfour, hback]

/-! ## §5. Spelling. -/

/-- Digits are read back from their symbols. -/
theorem map_symbol_inj {ds es : List Nat} (hds : ∀ d ∈ ds, d < 32) (hes : ∀ e ∈ es, e < 32)
    (h : ds.map symbol = es.map symbol) : ds = es := by
  have hvalues : ∀ ds : List Nat, (∀ d ∈ ds, d < 32) →
      (ds.map symbol).map symbolValue? = ds.map some := by
    intro ds hds
    rw [List.map_map]
    exact List.map_congr_left fun d hd => symbolValue?_symbol (hds d hd)
  have hsome : ds.map some = es.map some := by
    rw [← hvalues ds hds, h, hvalues es hes]
  exact (List.map_inj_right fun _ _ => Option.some.inj).1 hsome

/-- **No two blocks have one public id.** -/
theorem encode_injective : Function.Injective encode := by
  intro b c h
  have hsymbols : (digits b).map symbol = (digits c).map symbol := by
    rw [← toList_encode, ← toList_encode, h]
  exact digits_injective (map_symbol_inj (digits_lt b) (digits_lt c) hsymbols)

theorem exists_map_symbol {cs : List Char} (h : ∀ c ∈ cs, c ∈ alphabet) :
    ∃ ds : List Nat, (∀ d ∈ ds, d < 32) ∧ cs = ds.map symbol := by
  have hindex : ∀ c ∈ cs, alphabet.idxOf c < alphabet.length := fun c hc =>
    List.idxOf_lt_length_iff.2 (h c hc)
  refine ⟨cs.map fun c => alphabet.idxOf c, ?_, ?_⟩
  · intro d hd
    obtain ⟨c, hc, rfl⟩ := List.mem_map.1 hd
    rw [← alphabet_length]
    exact hindex c hc
  · rw [List.map_map]
    refine ((List.map_congr_left fun c hc => ?_).trans (List.map_id _)).symm
    show alphabet.getD (alphabet.idxOf c) '0' = c
    rw [List.getD_eq_getElem?_getD, List.getElem?_eq_getElem (hindex c hc), Option.getD_some,
      List.getElem_idxOf]

/-- **Characters are recognised by their digits.** -/
theorem isShaped_iff (s : String) :
    isShaped s = true ↔ ∃ ds : List Nat, Shape ds ∧ s.toList = ds.map symbol := by
  constructor
  · intro h
    unfold isShaped at h
    rw [Bool.and_eq_true, Bool.and_eq_true, beq_iff_eq, List.all_eq_true] at h
    obtain ⟨⟨hlength, hall⟩, hlast⟩ := h
    obtain ⟨ds, hbelow, hspelled⟩ := exists_map_symbol fun c hc =>
      List.contains_iff_mem.1 (hall c hc)
    rw [hspelled, List.length_map] at hlength
    rw [hspelled, List.getLast?_map] at hlast
    refine ⟨ds, ⟨hbelow, hlength, ?_⟩, hspelled⟩
    cases hd : ds.getLast? with
    | none => rw [hd] at hlast; cases hlast
    | some d =>
      rw [hd, Option.map_some, Option.bind_eq_bind, Option.bind_some,
        symbolValue?_symbol (hbelow d (List.mem_of_getLast? hd))] at hlast
      exact ⟨d, rfl, beq_iff_eq.1 hlast⟩
  · rintro ⟨ds, hshape, hspelled⟩
    obtain ⟨b, hb⟩ := hshape.exists_digits
    have hs : s = encode b := by rw [← String.toList_inj, hspelled, hb, toList_encode]
    rw [hs]
    exact isShaped_encode b

/-! ## §6. Bytes. -/

/-- The one byte of a symbol. -/
def symbolByte (d : Nat) : UInt8 := (symbol d).toUInt8

theorem byteValue?_symbolByte {d : Nat} (h : d < 32) : byteValue? (symbolByte d) = some d := by
  have hvalue : ∀ d : Fin 32, byteValue? (symbolByte d) = some d.val := by decide
  exact hvalue ⟨d, h⟩

theorem eq_symbolByte_of_byteValue? {byte : UInt8} {d : Nat} (h : byteValue? byte = some d) :
    d < 32 ∧ byte = symbolByte d := by
  obtain ⟨hindex, hbyte, -⟩ := List.idxOf?_eq_some_iff.1 h
  rw [List.length_map] at hindex
  rw [List.getElem_map] at hbyte
  refine ⟨hindex, ?_⟩
  rw [← hbyte, symbolByte, symbol, List.getD_eq_getElem?_getD, List.getElem?_eq_getElem hindex,
    Option.getD_some]

/-- **Bytes have a last value if they are those of symbols.** -/
theorem lastValue?_eq_some_iff {last result : Option Nat} {bytes : List UInt8} :
    lastValue? last bytes = some result ↔ ∃ ds : List Nat, (∀ d ∈ ds, d < 32) ∧
      bytes = ds.map symbolByte ∧ result = ds.getLast?.or last := by
  -- each symbol replaces the value so far, so `last` counts only where no byte is left
  induction bytes generalizing last result with
  | nil =>
    constructor
    · intro h
      exact ⟨[], fun d hd => (by cases hd), rfl, (Option.some.inj h).symm⟩
    · rintro ⟨ds, -, hnil, rfl⟩
      rw [List.map_eq_nil_iff.1 hnil.symm]
      rfl
  | cons byte bytes ih =>
    have hlast : ∀ (d : Nat) (ds : List Nat), (d :: ds).getLast?.or last = ds.getLast?.or (some d) := by
      intro d ds
      rw [List.getLast?_cons]
      cases ds.getLast? <;> rfl
    constructor
    · intro h
      rw [lastValue?] at h
      split at h
      · rename_i d hd
        obtain ⟨hlt, rfl⟩ := eq_symbolByte_of_byteValue? hd
        obtain ⟨ds, hbelow, rfl, rfl⟩ := ih.1 h
        exact ⟨d :: ds, List.forall_mem_cons.2 ⟨hlt, hbelow⟩, rfl, (hlast d ds).symm⟩
      · cases h
    · rintro ⟨ds, hbelow, hbytes, rfl⟩
      cases ds with
      | nil => cases hbytes
      | cons d ds =>
        obtain ⟨rfl, rfl⟩ := List.cons.inj hbytes
        obtain ⟨hlt, hbelow⟩ := List.forall_mem_cons.1 hbelow
        rw [lastValue?, byteValue?_symbolByte hlt, hlast]
        exact ih.2 ⟨ds, hbelow, rfl, rfl⟩

theorem utf8Bytes_eq (s : String) : utf8Bytes s = s.toList.flatMap String.utf8EncodeChar := by
  unfold utf8Bytes
  rw [← String.utf8Encode_toList, List.utf8Encode, List.toList_data_toByteArray]

theorem utf8Bytes_injective : Function.Injective utf8Bytes := fun _ _ h =>
  String.toByteArray_inj.1 (ByteArray.ext (Array.toList_inj.1 h))

/-- A symbol takes one byte. -/
theorem utf8Bytes_of_symbols {s : String} {ds : List Nat} (hbelow : ∀ d ∈ ds, d < 32)
    (h : s.toList = ds.map symbol) : utf8Bytes s = ds.map symbolByte := by
  have hsingle : ∀ d : Fin 32, String.utf8EncodeChar (symbol d) = [symbolByte d] := by decide
  rw [utf8Bytes_eq, h, List.flatMap_map, List.map_eq_flatMap]
  exact List.flatMap_congr fun d hd => hsingle ⟨d, hbelow d hd⟩

/-- **Bytes of symbols are those of a text of symbols**, as no other text has the same bytes. -/
theorem utf8Bytes_eq_iff {s : String} {ds : List Nat} (hbelow : ∀ d ∈ ds, d < 32) :
    utf8Bytes s = ds.map symbolByte ↔ s.toList = ds.map symbol := by
  constructor
  · intro h
    have hspelled : (String.ofList (ds.map symbol)).toList = ds.map symbol := String.toList_ofList
    -- the bytes need no decoding: they are those of a text that is known
    have hs : s = String.ofList (ds.map symbol) :=
      utf8Bytes_injective (h.trans (utf8Bytes_of_symbols hbelow hspelled).symm)
    rw [hs, hspelled]
  · exact utf8Bytes_of_symbols hbelow

theorem and_paddingMask (v : Nat) : v &&& paddingMask = v % 4 := Nat.and_two_pow_sub_one_eq_mod v 2

/-- **Bytes are recognised by their digits.** -/
theorem isShapedInBytes_iff (s : String) :
    isShapedInBytes s = true ↔ ∃ ds : List Nat, Shape ds ∧ s.toList = ds.map symbol := by
  constructor
  · intro h
    unfold isShapedInBytes at h
    split at h
    · cases h
    · rename_i hlength
      split at h
      · rename_i v hvalue
        obtain ⟨ds, hbelow, hbytes, hlast⟩ := lastValue?_eq_some_iff.1 hvalue
        rw [Option.or_none] at hlast
        rw [hbytes, List.length_map, not_not] at hlength
        rw [and_paddingMask, beq_iff_eq] at h
        exact ⟨ds, ⟨hbelow, hlength, v, hlast.symm, h⟩, (utf8Bytes_eq_iff hbelow).1 hbytes⟩
      · cases h
  · rintro ⟨ds, ⟨hbelow, hlength, d, hlast, hclear⟩, hspelled⟩
    have hvalue : lastValue? none (ds.map symbolByte) = some (some d) :=
      lastValue?_eq_some_iff.2 ⟨ds, hbelow, rfl, by rw [Option.or_none, hlast]⟩
    unfold isShapedInBytes
    rw [utf8Bytes_of_symbols hbelow hspelled, if_neg (by rw [List.length_map, not_not, hlength]),
      hvalue]
    exact beq_iff_eq.2 ((and_paddingMask d).trans hclear)

/-- Recognising bytes is recognising characters, also where characters take several bytes. -/
theorem isShapedInBytes_eq (s : String) : isShapedInBytes s = isShaped s :=
  Bool.eq_iff_iff.2 ((isShapedInBytes_iff s).trans (isShaped_iff s).symm)

/-! ## §7. Counterparts. -/

theorem isShaped_iff_encode (s : String) : isShaped s = true ↔ ∃ b, s = encode b := by
  constructor
  · intro h
    obtain ⟨ds, hshape, hspelled⟩ := (isShaped_iff s).1 h
    obtain ⟨b, hb⟩ := hshape.exists_digits
    exact ⟨b, by rw [← String.toList_inj, hspelled, hb, toList_encode]⟩
  · rintro ⟨b, rfl⟩
    exact isShaped_encode b

/-- **Writing and recognising public ids are exact counterparts.**  Every block is written, with no shift
or index out of range, and as 26 symbols of the alphabet; no two blocks are written alike; and a text is
recognised, byte by byte or character by character, if and only if some block is written so. -/
theorem writing_and_recognising :
    (∀ b, write? b = some (encode b) ∧ (encode b).toList.length = length ∧
      ∀ c ∈ (encode b).toList, c ∈ alphabet) ∧
    Function.Injective encode ∧
    ∀ s, isShapedInBytes s = isShaped s ∧ (isShaped s = true ↔ ∃ b, s = encode b) := by
  refine ⟨fun b => ⟨write?_eq b, ?_, ?_⟩, encode_injective, fun s =>
    ⟨isShapedInBytes_eq s, isShaped_iff_encode s⟩⟩
  · rw [toList_encode, List.length_map]
    exact length_toDigits ..
  · rw [toList_encode]
    intro c hc
    obtain ⟨d, hd, rfl⟩ := List.mem_map.1 hc
    exact symbol_mem (digits_lt b d hd)

/-- Sixteen bytes without a pattern. -/
def goldenBlock : Block :=
  #v[0xe1, 0x75, 0x86, 0xb7, 0xc3, 0xfb, 0x03, 0xa9, 0x26, 0x9f, 0xc9, 0xd6, 0x8c, 0x2d, 0x7b, 0x7b]

theorem writing_and_recognising_golden :
    write? goldenBlock = some "w5trddy3zc1tj9mzs7b8rbbvfc" ∧
      isShapedInBytes "w5trddy3zc1tj9mzs7b8rbbvfc" = true := by
  have hencode : encode goldenBlock = "w5trddy3zc1tj9mzs7b8rbbvfc" := by decide
  obtain ⟨hwritten, -, hrecognised⟩ := writing_and_recognising
  obtain ⟨hbytes, hiff⟩ := hrecognised "w5trddy3zc1tj9mzs7b8rbbvfc"
  refine ⟨?_, ?_⟩
  · rw [(hwritten goldenBlock).1, hencode]
  · rw [hbytes, hiff]
    exact ⟨goldenBlock, hencode.symm⟩

end Namebook.PublicId
