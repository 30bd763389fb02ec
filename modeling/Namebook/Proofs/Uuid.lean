/-
  Namebook.Proofs.Uuid
  ────────────────────
  **THE FOUR SPELLINGS OF AN ID — what is read, and that it is read rightly.**

  A text spells an id if it holds the 32 hex digits of the id, each in either case, in one of the four
  forms.  The reader accepts these texts and no others; of all spellings the canonical one is what is
  written:

    • `Uuid.mapM_hexValue?_eq_some_iff` — hex digits in either case;
    • `Uuid.digitChars?_eq_some_iff` — the four forms;
    • `Uuid.parse?_eq_some_iff` — reading an id;
    • `Uuid.isCanonical_iff` — the texts that are written.
-/
import Mathlib.Data.List.GetD
import Namebook.Proofs.Spelling

namespace Namebook

namespace Uuid

variable {cs ds : List Char} {s : String} {u : Uuid} {n : Nat}

/-! ## §1. Hex digits. -/

theorem idxOf?_hexChar {d : Nat} (h : d < 16) : hexAlphabet.idxOf? (hexChar d) = some d := by
  have hall : ∀ d : Fin 16, hexAlphabet.idxOf? (hexChar d) = some d.val := by decide
  exact hall ⟨d, h⟩

/-- The value of a hex digit in either case. -/
theorem hexValue?_eq_some_iff {c : Char} {d : Nat} :
    hexValue? c = some d ↔ d < 16 ∧ c.toLower = hexChar d := by
  unfold hexValue?
  constructor
  · intro h
    obtain ⟨hlt, hget, -⟩ := List.idxOf?_eq_some_iff.1 h
    refine ⟨hlt, ?_⟩
    unfold hexChar
    rw [← hget, List.getD_eq_getElem _ _ hlt]
  · intro ⟨hlt, hlower⟩
    rw [hlower]
    exact idxOf?_hexChar hlt

theorem mapM_hexValue?_eq_some_iff {vs : List Nat} :
    ds.mapM hexValue? = some vs ↔ (∀ v ∈ vs, v < 16) ∧ ds.map Char.toLower = vs.map hexChar := by
  induction ds generalizing vs with
  | nil =>
    rw [List.mapM_nil]
    constructor
    · intro h
      cases h
      exact ⟨List.forall_mem_nil _, rfl⟩
    · intro h
      rw [List.map_eq_nil_iff.1 h.2.symm]
      rfl
  | cons d ds ih =>
    rw [List.mapM_cons, Option.bind_eq_bind, Option.bind_eq_some_iff]
    constructor
    · intro ⟨v, hv, h⟩
      obtain ⟨ws, hws, h⟩ := Option.bind_eq_some_iff.1 h
      cases h
      obtain ⟨hlt, hlower⟩ := hexValue?_eq_some_iff.1 hv
      obtain ⟨hall, hmap⟩ := ih.1 hws
      exact ⟨List.forall_mem_cons.2 ⟨hlt, hall⟩, by rw [List.map_cons, List.map_cons, hlower, hmap]⟩
    · intro ⟨hall, hmap⟩
      cases vs with
      | nil => cases hmap
      | cons v vs =>
        obtain ⟨hlt, hall⟩ := List.forall_mem_cons.1 hall
        rw [List.map_cons, List.map_cons, List.cons.injEq] at hmap
        refine ⟨v, hexValue?_eq_some_iff.2 ⟨hlt, hmap.1⟩, ?_⟩
        rw [Option.bind_eq_bind, ih.2 ⟨hall, hmap.2⟩]
        rfl

/-- The digits of an id are read as its value. -/
theorem readHex?_of_map_toLower (h : ds.map Char.toLower = u.hexChars) :
    readHex? ds = some u.bits.toNat := by
  unfold readHex?
  rw [mapM_hexValue?_eq_some_iff.2 ⟨fun d hd => Digits.lt_of_mem_toDigits (by omega) hd, h⟩,
    Option.map_some, ofDigits_toDigits_bits]

/-- **Of 32 hex digits in either case the id is read whose digits they are.** -/
theorem map_toLower_of_readHex? (h : readHex? ds = some n) (hlength : ds.length = 32) :
    ds.map Char.toLower = hexChars ⟨BitVec.ofNat 128 n⟩ := by
  obtain ⟨vs, hvs, hn⟩ := Option.map_eq_some_iff.1 h
  obtain ⟨hall, hmap⟩ := mapM_hexValue?_eq_some_iff.1 hvs
  have hcount : vs.length = 32 := by
    have hsame := congrArg List.length hmap
    rw [List.length_map, List.length_map] at hsame
    omega
  have hlt : n < 2 ^ 128 := by
    have hvalue := Digits.ofDigits_lt hall
    rw [hn, hcount] at hvalue
    exact hvalue
  unfold hexChars
  rw [BitVec.toNat_ofNat, Nat.mod_eq_of_lt hlt, ← hn, ← hcount, Digits.toDigits_ofDigits hall, hmap]

/-! ## §2. The four forms. -/

/-- The four forms in which 32 digits are written. -/
inductive Form (ds : List Char) : List Char → Prop where
  | hyphenated : Form ds (hyphenate ds)
  | plain : Form ds ds
  | braced : Form ds ('{' :: hyphenate ds ++ ['}'])
  | urn {scheme : List Char} (h : scheme = "urn:uuid:".toList ∨ scheme = "URN:UUID:".toList) :
      Form ds (scheme ++ hyphenate ds)

/-- Five groups that are joined with hyphens. -/
theorem hyphenate_groups {a b c d e : List Char} (ha : a.length = 8) (hb : b.length = 4)
    (hc : c.length = 4) (hd : d.length = 4) :
    hyphenate (a ++ b ++ c ++ d ++ e) = a ++ '-' :: b ++ '-' :: c ++ '-' :: d ++ '-' :: e := by
  match a, b, c, d, ha, hb, hc, hd with
  | [_, _, _, _, _, _, _, _], [_, _, _, _], [_, _, _, _], [_, _, _, _], _, _, _, _ => rfl

/-- A text is parted at one of its characters. -/
theorem exists_parts (cs : List Char) {k : Nat} {c : Char} (h : cs[k]? = some c) :
    ∃ front, front.length = k ∧ cs = front ++ c :: cs.drop (k + 1) := by
  obtain ⟨hlt, hget⟩ := List.getElem?_eq_some_iff.1 h
  refine ⟨cs.take k, List.length_take_of_le (Nat.le_of_lt hlt), ?_⟩
  rw [← hget, ← List.drop_eq_getElem_cons hlt, List.take_append_drop]

theorem unhyphenate?_eq_some_iff :
    unhyphenate? cs = some ds ↔ ds.length = 32 ∧ cs = hyphenate ds := by
  constructor
  · intro h
    have hgroups : ∃ a b c d e : List Char, (a.length = 8 ∧ b.length = 4 ∧ c.length = 4 ∧
        d.length = 4 ∧ e.length = 12) ∧ cs = a ++ '-' :: b ++ '-' :: c ++ '-' :: d ++ '-' :: e := by
      unfold unhyphenate? at h
      split at h
      next hshape =>
        obtain ⟨hlength, h8, h13, h18, h23⟩ := hshape
        -- each hyphen is looked for in what follows the one before
        obtain ⟨a, ha, hcs⟩ := exists_parts cs h8
        obtain ⟨b, hb, hb'⟩ := exists_parts (cs.drop 9) (k := 4)
          (by rw [List.getElem?_drop]; exact h13)
        obtain ⟨c, hc, hc'⟩ := exists_parts (cs.drop 14) (k := 4)
          (by rw [List.getElem?_drop]; exact h18)
        obtain ⟨d, hd, hd'⟩ := exists_parts (cs.drop 19) (k := 4)
          (by rw [List.getElem?_drop]; exact h23)
        rw [List.drop_drop] at hb' hc' hd'
        refine ⟨a, b, c, d, cs.drop 24, ⟨ha, hb, hc, hd, ?_⟩, ?_⟩
        · rw [List.length_drop, hlength]
        · calc cs = a ++ '-' :: cs.drop 9 := hcs
            _ = a ++ '-' :: (b ++ '-' :: cs.drop 14) := by rw [hb']
            _ = a ++ '-' :: (b ++ '-' :: (c ++ '-' :: cs.drop 19)) := by rw [hc']
            _ = a ++ '-' :: (b ++ '-' :: (c ++ '-' :: (d ++ '-' :: cs.drop 24))) := by rw [hd']
            _ = _ := by simp only [List.append_assoc, List.cons_append]
      next => cases h
    obtain ⟨a, b, c, d, e, ⟨ha, hb, hc, hd, he⟩, rfl⟩ := hgroups
    rw [unhyphenate?_groups ha hb hc hd he] at h
    cases h
    refine ⟨?_, (hyphenate_groups ha hb hc hd).symm⟩
    simp only [List.length_append, ha, hb, hc, hd, he]
  · intro ⟨hlength, hcs⟩
    rw [hcs]
    exact unhyphenate?_hyphenate hlength

/-- A text between braces. -/
theorem eq_braced {inner : List Char} (hfirst : cs.head? = some '{') (hlast : cs.getLast? = some '}')
    (hlong : 1 < cs.length) (hinner : (cs.drop 1).dropLast = inner) :
    cs = '{' :: inner ++ ['}'] := by
  match cs, hfirst, hlast, hlong, hinner with
  | first :: second :: rest, hfirst, hlast, _, hinner =>
    cases hfirst
    rw [List.getLast?_cons_cons] at hlast
    obtain ⟨middle, hmiddle⟩ := List.getLast?_eq_some_iff.1 hlast
    rw [← hinner, List.drop_one, List.tail_cons, hmiddle, List.dropLast_concat]
    rfl

/-- **The reader knows the four forms and no others.** -/
theorem digitChars?_eq_some_iff : digitChars? cs = some ds ↔ ds.length = 32 ∧ Form ds cs := by
  constructor
  · intro h
    unfold digitChars? at h
    split at h
    next hlength =>
      cases h
      exact ⟨hlength, .plain⟩
    next =>
    split at h
    · obtain ⟨hlength, hcs⟩ := unhyphenate?_eq_some_iff.1 h
      exact ⟨hlength, hcs ▸ .hyphenated⟩
    · split at h
      next hlong =>
        split at h
        next hbraces =>
          obtain ⟨hlength, hcs⟩ := unhyphenate?_eq_some_iff.1 h
          refine ⟨hlength, ?_⟩
          exact (eq_braced hbraces.1 hbraces.2 (by omega) hcs) ▸ .braced
        next => cases h
      next =>
      split at h
      · split at h
        next hscheme =>
          obtain ⟨hlength, hcs⟩ := unhyphenate?_eq_some_iff.1 h
          refine ⟨hlength, ?_⟩
          rw [← List.take_append_drop 9 cs, hcs]
          exact .urn hscheme
        next => cases h
      · cases h
  · intro ⟨hlength, hform⟩
    have hhyphenated := length_hyphenate hlength
    have hread := unhyphenate?_hyphenate hlength
    unfold digitChars?
    cases hform with
    | hyphenated => rw [if_neg (by omega), if_pos hhyphenated, hread]
    | plain => rw [if_pos hlength]
    | braced =>
      have htotal : ('{' :: hyphenate ds ++ ['}']).length = 38 := by
        rw [List.length_append, List.length_cons, List.length_singleton, hhyphenated]
      rw [if_neg (by omega), if_neg (by omega), if_pos htotal,
        if_pos ⟨rfl, List.getLast?_concat⟩, List.cons_append, List.drop_one, List.tail_cons,
        List.dropLast_concat, hread]
    | @urn scheme hscheme =>
      have hnine : scheme.length = 9 := by
        rcases hscheme with rfl | rfl <;> rfl
      have htotal : (scheme ++ hyphenate ds).length = 45 := by
        rw [List.length_append, hhyphenated, hnine]
      rw [if_neg (by omega), if_neg (by omega), if_neg (by omega), if_pos htotal,
        List.take_left' hnine, if_pos hscheme, List.drop_left' hnine, hread]

/-! ## §3. Ids. -/

/-- **A text spells an id**: it holds the hex digits of the id, each in either case, in one of the four
forms. -/
def Spells (s : String) (u : Uuid) : Prop :=
  ∃ ds, ds.map Char.toLower = u.hexChars ∧ Form ds s.toList

/-- **The reader reads exactly the spellings of an id as that id.** -/
theorem parse?_eq_some_iff : parse? s = some u ↔ Spells s u := by
  unfold parse? Spells
  rw [Option.map_eq_some_iff]
  constructor
  · intro ⟨n, hn, hu⟩
    rw [Option.bind_eq_bind, Option.bind_eq_some_iff] at hn
    obtain ⟨ds, hds, hread⟩ := hn
    obtain ⟨hlength, hform⟩ := digitChars?_eq_some_iff.1 hds
    refine ⟨ds, ?_, hform⟩
    rw [← hu]
    exact map_toLower_of_readHex? hread hlength
  · intro ⟨ds, hlower, hform⟩
    have hlength : ds.length = 32 := by
      rw [← List.length_map, hlower, length_hexChars]
    refine ⟨u.bits.toNat, ?_, ?_⟩
    · rw [Option.bind_eq_bind, digitChars?_eq_some_iff.2 ⟨hlength, hform⟩, Option.bind_some]
      exact readHex?_of_map_toLower hlower
    · rw [BitVec.ofNat_toNat, BitVec.setWidth_eq]

/-- A canonical text: 32 lowercase hex digits, hyphenated. -/
def IsCanonical (s : String) : Prop :=
  ∃ ds, ds.length = 32 ∧ (∀ c ∈ ds, c ∈ hexAlphabet) ∧ s.toList = hyphenate ds

theorem mem_hexAlphabet_iff {c : Char} : c ∈ hexAlphabet ↔ ∃ d, d < 16 ∧ hexChar d = c := by
  unfold hexChar
  constructor
  · intro h
    obtain ⟨d, hlt, hc⟩ := List.mem_iff_getElem.1 h
    exact ⟨d, hlt, (List.getD_eq_getElem _ _ hlt).trans hc⟩
  · intro ⟨d, hlt, hc⟩
    rw [← hc, List.getD_eq_getElem _ _ hlt]
    exact List.getElem_mem hlt

theorem toLower_hexChar {d : Nat} (h : d < 16) : (hexChar d).toLower = hexChar d := by
  have hall : ∀ d : Fin 16, (hexChar d).toLower = hexChar d := by decide
  exact hall ⟨d, h⟩

/-- Lowercase hex digits have values. -/
theorem exists_map_hexChar (h : ∀ c ∈ ds, c ∈ hexAlphabet) :
    ∃ vs : List Nat, (∀ v ∈ vs, v < 16) ∧ vs.map hexChar = ds := by
  induction ds with
  | nil => exact ⟨[], List.forall_mem_nil _, rfl⟩
  | cons c ds ih =>
    obtain ⟨hc, hds⟩ := List.forall_mem_cons.1 h
    obtain ⟨v, hlt, rfl⟩ := mem_hexAlphabet_iff.1 hc
    obtain ⟨vs, hall, rfl⟩ := ih hds
    exact ⟨v :: vs, List.forall_mem_cons.2 ⟨hlt, hall⟩, rfl⟩

/-- **Canonical texts are exactly those that are written.** -/
theorem isCanonical_iff : IsCanonical s ↔ ∃ u : Uuid, u.render = s := by
  constructor
  · intro ⟨ds, hlength, hdigits, hs⟩
    obtain ⟨vs, hall, rfl⟩ := exists_map_hexChar hdigits
    have hlower : (vs.map hexChar).map Char.toLower = vs.map hexChar := by
      rw [List.map_map]
      exact List.map_congr_left fun v hv => toLower_hexChar (hall v hv)
    obtain ⟨n, hread⟩ : ∃ n, readHex? (vs.map hexChar) = some n := by
      unfold readHex?
      rw [mapM_hexValue?_eq_some_iff.2 ⟨hall, hlower⟩]
      exact ⟨_, rfl⟩
    refine ⟨⟨BitVec.ofNat 128 n⟩, ?_⟩
    rw [render, ← map_toLower_of_readHex? hread hlength, hlower, ← hs, String.ofList_toList]
  · intro ⟨u, hu⟩
    refine ⟨u.hexChars, u.length_hexChars, fun c hc => ?_, ?_⟩
    · obtain ⟨d, hd, rfl⟩ := List.mem_map.1 hc
      exact mem_hexAlphabet_iff.2 ⟨d, Digits.lt_of_mem_toDigits (by omega) hd, rfl⟩
    · rw [← hu]
      exact String.toList_ofList

end Uuid
end Namebook
