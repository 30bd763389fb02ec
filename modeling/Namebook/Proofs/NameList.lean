/-
  Namebook.Proofs.NameList
  ────────────────────────
  **LISTS OF NAMES — the maximal runs of a text, all of them and in their order.**

  A run is told by its places: they hold no separator, and next to them the text ends or has one.  The
  reader passes over the text once; what it gives is the text between the places of each run, and so
  names that were written with any separators around them are found again:

    • `IsRun` — the places of a run;
    • `runsFrom_eq` — what the reader does with the rest of a text;
    • `parse_eq` — the names are the runs, from left to right;
    • `parse_written` — names are recovered;
    • `runs_trimChars` — blanks at the ends do not matter.
-/
import Mathlib.Data.List.Basic
import Mathlib.Data.List.TakeWhile
import Namebook.NameList

namespace Namebook

namespace NameList

variable {cs rest run gap : List Char} {i j k s e : Nat}

/-! ## §1. Runs by their places. -/

/-- A place of a text holds a separator. -/
def SeparatorAt (cs : List Char) (k : Nat) : Prop :=
  ∃ c, cs[k]? = some c ∧ isSeparator c = true

/-- A place of a text holds a character of a name. -/
def NamedAt (cs : List Char) (k : Nat) : Prop :=
  ∃ c, cs[k]? = some c ∧ isSeparator c = false

/-- The places from `i` up to `j` are **a maximal run**: they hold no separator, and on both sides the
text ends or has one. -/
structure IsRun (cs : List Char) (i j : Nat) : Prop where
  nonempty : i < j
  named : ∀ k, i ≤ k → k < j → NamedAt cs k
  left : i = 0 ∨ SeparatorAt cs (i - 1)
  right : j = cs.length ∨ SeparatorAt cs j

/-- The characters from one place up to another. -/
def slice (cs : List Char) (i j : Nat) : List Char :=
  (cs.drop i).take (j - i)

theorem NamedAt.lt (h : NamedAt cs k) : k < cs.length := by
  obtain ⟨c, hc, -⟩ := h
  exact (List.getElem?_eq_some_iff.1 hc).1

theorem NamedAt.not_separatorAt (h : NamedAt cs k) : ¬ SeparatorAt cs k := by
  intro ⟨c, hc, hseparator⟩
  obtain ⟨d, hd, hname⟩ := h
  cases Option.some.inj (hc.symm.trans hd)
  rw [hseparator] at hname
  cases hname

theorem IsRun.le_length (h : IsRun cs i j) : j ≤ cs.length := by
  have hlast := (h.named (j - 1) (by have := h.nonempty; omega) (by have := h.nonempty; omega)).lt
  omega

/-- **Between two bounds at which a run may begin and end there is just that run**, or none if the
bounds are the same. -/
theorem isRun_within_iff (hleft : s = 0 ∨ SeparatorAt cs (s - 1))
    (hright : e = cs.length ∨ SeparatorAt cs e) (hnamed : ∀ k, s ≤ k → k < e → NamedAt cs k) :
    IsRun cs i j ∧ s ≤ i ∧ i ≤ e ↔ s < e ∧ i = s ∧ j = e := by
  -- no run passes the right bound
  have hend : ¬ NamedAt cs e := by
    intro hname
    rcases hright with hlength | hseparator
    · exact absurd hname.lt (by omega)
    · exact hname.not_separatorAt hseparator
  constructor
  · intro ⟨hrun, hsi, hie⟩
    have hij := hrun.nonempty
    have hlt : i < e := by
      refine Nat.lt_of_le_of_ne hie fun heq => hend ?_
      exact heq ▸ hrun.named i (Nat.le_refl i) hij
    have hfirst : i = s := by
      refine Nat.le_antisymm (Nat.le_of_not_lt fun hinside => ?_) hsi
      rcases hrun.left with hzero | hseparator
      · omega
      · exact (hnamed (i - 1) (by omega) (by omega)).not_separatorAt hseparator
    have hlast : j = e := by
      rcases Nat.lt_trichotomy j e with hinside | heq | hbeyond
      · have hname := hnamed j (by omega) hinside
        rcases hrun.right with hlength | hseparator
        · exact absurd hname.lt (by omega)
        · exact absurd hseparator hname.not_separatorAt
      · exact heq
      · exact absurd (hrun.named e (by omega) hbeyond) hend
    exact ⟨by omega, hfirst, hlast⟩
  · intro ⟨hlt, hi, hj⟩
    subst hi hj
    exact ⟨⟨hlt, hnamed, hleft, hright⟩, Nat.le_refl _, Nat.le_of_lt hlt⟩

/-! ## §2. What the reader finds. -/

/-- A run between two places, unless they are the same. -/
def span (s e : Nat) : List (Nat × Nat) :=
  if s < e then [(s, e)] else []

theorem mem_span : (i, j) ∈ span s e ↔ s < e ∧ i = s ∧ j = e := by
  unfold span
  by_cases h : s < e
  · rw [if_pos h, List.mem_singleton, Prod.mk.injEq, and_iff_right h]
  · rw [if_neg h]
    exact ⟨fun hmem => absurd hmem List.not_mem_nil, fun hlt => absurd hlt.1 h⟩

theorem pairwise_span {R : Nat × Nat → Nat × Nat → Prop} : (span s e).Pairwise R := by
  unfold span
  split
  · exact List.pairwise_singleton _ _
  · exact .nil

theorem slice_append (before run after : List Char) :
    slice (before ++ run ++ after) before.length (before.length + run.length) = run := by
  unfold slice
  rw [List.append_assoc, List.drop_left, Nat.add_sub_cancel_left, List.take_left]

/-- The run under way, as its places. -/
theorem finished_eq (before run after : List Char) :
    finished run = (span before.length (before.length + run.length)).map fun p =>
      slice (before ++ run ++ after) p.1 p.2 := by
  unfold finished span
  by_cases h : run = []
  · subst h
    rw [if_pos rfl, List.length_nil, Nat.add_zero, if_neg (Nat.lt_irrefl _)]
    rfl
  · rw [if_neg h, if_pos (Nat.lt_add_of_pos_right (List.length_pos_iff.2 h)), List.map_singleton,
      slice_append]

/-- **What the reader does with the rest of a text**: it gives all runs that begin where the run under
way does or later, from left to right. -/
theorem runsFrom_eq (rest before run : List Char) (hcs : cs = before ++ run ++ rest)
    (hleft : before.length = 0 ∨ SeparatorAt cs (before.length - 1))
    (hnamed : ∀ k, before.length ≤ k → k < before.length + run.length → NamedAt cs k) :
    ∃ spans : List (Nat × Nat), spans.Pairwise (fun p q => p.2 < q.1) ∧
      (∀ i j, (i, j) ∈ spans ↔ IsRun cs i j ∧ before.length ≤ i) ∧
      runsFrom run rest = spans.map fun p => slice cs p.1 p.2 := by
  induction rest generalizing before run with
  | nil =>
    have hlength : before.length + run.length = cs.length := by
      rw [hcs, List.append_nil, List.length_append]
    refine ⟨span before.length (before.length + run.length), pairwise_span, fun i j => ?_, ?_⟩
    · rw [mem_span, ← isRun_within_iff hleft (Or.inl hlength) hnamed]
      refine ⟨fun h => ⟨h.1, h.2.1⟩, fun h => ⟨h.1, h.2, ?_⟩⟩
      have hij := h.1.nonempty
      have hjl := h.1.le_length
      omega
    · rw [hcs, ← finished_eq]
      rfl
  | cons c rest ih =>
    have hthere : cs[before.length + run.length]? = some c := by
      rw [hcs, ← List.length_append, List.getElem?_append_right (Nat.le_refl _), Nat.sub_self]
      rfl
    unfold runsFrom
    by_cases hc : isSeparator c = true
    · rw [if_pos hc]
      have hseparator : SeparatorAt cs (before.length + run.length) := ⟨c, hthere, hc⟩
      have hlength : (before ++ run ++ [c]).length = before.length + run.length + 1 := by
        rw [List.length_append, List.length_append, List.length_singleton]
      obtain ⟨spans, hsorted, hspans, hruns⟩ := ih (before ++ run ++ [c]) []
        (by rw [hcs]; simp) (Or.inr (by rw [hlength]; exact hseparator))
        (fun k hle hlt => absurd hlt (Nat.not_lt_of_le hle))
      rw [hlength] at hspans
      refine ⟨span before.length (before.length + run.length) ++ spans, ?_, fun i j => ?_, ?_⟩
      · refine List.pairwise_append.2 ⟨pairwise_span, hsorted, fun p hp q hq => ?_⟩
        have hend := (mem_span.1 hp).2.2
        have hbegin := ((hspans q.1 q.2).1 hq).2
        omega
      · rw [List.mem_append, mem_span, ← isRun_within_iff hleft (Or.inr hseparator) hnamed, hspans]
        constructor
        · intro h
          rcases h with ⟨hrun, hle, -⟩ | ⟨hrun, hle⟩
          · exact ⟨hrun, hle⟩
          · exact ⟨hrun, by omega⟩
        · intro ⟨hrun, hle⟩
          by_cases hfirst : i ≤ before.length + run.length
          · exact Or.inl ⟨hrun, hle, hfirst⟩
          · exact Or.inr ⟨hrun, by omega⟩
      · rw [List.map_append, hruns, hcs, ← finished_eq]
    · rw [if_neg hc]
      refine ih before (run ++ [c]) (by rw [hcs]; simp) hleft fun k hle hlt => ?_
      rw [List.length_append, List.length_singleton] at hlt
      by_cases hk : k < before.length + run.length
      · exact hnamed k hle hk
      · have hlast : k = before.length + run.length := by omega
        exact ⟨c, hlast ▸ hthere, Bool.not_eq_true _ ▸ hc⟩

/-- **The names of a list are the maximal runs of its text**, from left to right. -/
theorem parse_eq (raw : String) : ∃ spans : List (Nat × Nat),
    spans.Pairwise (fun p q => p.2 < q.1) ∧ (∀ i j, (i, j) ∈ spans ↔ IsRun raw.toList i j) ∧
    parse raw = spans.map fun p => String.ofList (slice raw.toList p.1 p.2) := by
  have hwhole : raw.toList = [] ++ [] ++ raw.toList := rfl
  obtain ⟨spans, hsorted, hspans, hruns⟩ := runsFrom_eq raw.toList [] [] hwhole (Or.inl rfl)
    fun k _ hlt => absurd hlt (Nat.not_lt_zero k)
  refine ⟨spans, hsorted, fun i j => (hspans i j).trans (and_iff_left (Nat.zero_le i)), ?_⟩
  · unfold parse runs
    rw [hruns, List.map_map]
    rfl

theorem mem_parse_iff {raw name : String} :
    name ∈ parse raw ↔ ∃ i j, IsRun raw.toList i j ∧ name = String.ofList (slice raw.toList i j) := by
  obtain ⟨spans, -, hspans, hparse⟩ := parse_eq raw
  rw [hparse, List.mem_map]
  constructor
  · intro ⟨p, hp, hname⟩
    exact ⟨p.1, p.2, (hspans p.1 p.2).1 hp, hname.symm⟩
  · intro ⟨i, j, hrun, hname⟩
    exact ⟨(i, j), (hspans i j).2 hrun, hname.symm⟩

/-! ## §3. Names. -/

/-- A name that a list can hold: it is not empty and holds no separator. -/
structure IsName (name : String) : Prop where
  nonempty : name ≠ ""
  proper : ∀ c ∈ name.toList, isSeparator c = false

/-- A text of separators. -/
def IsGap (s : String) : Prop :=
  ∀ c ∈ s.toList, isSeparator c = true

instance (s : String) : Decidable (IsGap s) :=
  decidable_of_iff (s.toList.all isSeparator = true) List.all_eq_true

instance (name : String) : Decidable (IsName name) :=
  decidable_of_iff (name ≠ "" ∧ name.toList.all (!isSeparator ·) = true)
    ⟨fun h => ⟨h.1, fun c hc => (Bool.not_eq_true' _).mp (List.all_eq_true.1 h.2 c hc)⟩,
      fun h => ⟨h.nonempty, List.all_eq_true.2 fun c hc => (Bool.not_eq_true' _).mpr (h.proper c hc)⟩⟩

/-- Every name of a list can be held by one. -/
theorem isName_of_mem_parse {raw name : String} (h : name ∈ parse raw) : IsName name := by
  obtain ⟨i, j, hrun, rfl⟩ := mem_parse_iff.1 h
  have hlength := hrun.le_length
  have hij := hrun.nonempty
  constructor
  · intro hempty
    have hzero : (slice raw.toList i j).length = 0 := by
      rw [← String.toList_ofList (l := slice raw.toList i j), hempty]
      rfl
    unfold slice at hzero
    rw [List.length_take, List.length_drop] at hzero
    omega
  · intro c hc
    rw [String.toList_ofList] at hc
    unfold slice at hc
    obtain ⟨k, hk, hget⟩ := List.mem_iff_getElem.1 hc
    rw [List.length_take, List.length_drop] at hk
    obtain ⟨d, hd, hname⟩ := hrun.named (i + k) (by omega) (by omega)
    rw [List.getElem_take, List.getElem_drop] at hget
    rw [List.getElem?_eq_getElem (by omega), hget] at hd
    cases hd
    exact hname

/-- A name is not blank. -/
theorem IsName.not_blank {name : String} (h : IsName name) : Text.isBlank name = false := by
  cases hchars : name.toList with
  | nil => exact absurd (String.toList_eq_nil_iff.1 hchars) h.nonempty
  | cons c cs =>
    have hc : isSeparator c = false := h.proper c (by rw [hchars]; exact List.mem_cons_self)
    unfold Text.isBlank
    rw [hchars, List.all_cons, (Bool.or_eq_false_iff.1 hc).1, Bool.false_and]

/-! ## §4. Names with separators around them. -/

/-- Separators end the run under way, unless the text goes on without any. -/
theorem runsFrom_gap (hgap : ∀ c ∈ gap, isSeparator c = true) (h : gap ≠ [] ∨ rest = [])
    (run : List Char) : runsFrom run (gap ++ rest) = finished run ++ runsFrom [] rest := by
  induction gap generalizing run with
  | nil =>
    obtain rfl := h.resolve_left fun hne => hne rfl
    exact (List.append_nil _).symm
  | cons c gap ih =>
    rw [List.cons_append, runsFrom, if_pos (hgap c List.mem_cons_self)]
    congr 1
    cases gap with
    | nil => rfl
    | cons d gap =>
      exact ih (fun c hc => hgap c (List.mem_cons_of_mem _ hc)) (Or.inl (List.cons_ne_nil d gap)) []

/-- Separators at the beginning are passed over. -/
theorem runs_gap (hgap : ∀ c ∈ gap, isSeparator c = true) (rest : List Char) :
    runs (gap ++ rest) = runs rest := by
  by_cases h : gap = []
  · rw [h, List.nil_append]
  · exact runsFrom_gap hgap (Or.inl h) []

/-- The characters of a name extend the run under way. -/
theorem runsFrom_name {name : List Char} (hname : ∀ c ∈ name, isSeparator c = false)
    (run rest : List Char) : runsFrom run (name ++ rest) = runsFrom (run ++ name) rest := by
  induction name generalizing run with
  | nil => rw [List.nil_append, List.append_nil]
  | cons c name ih =>
    rw [List.cons_append, runsFrom, hname c List.mem_cons_self, if_neg Bool.false_ne_true,
      ih fun c hc => hname c (List.mem_cons_of_mem _ hc), List.append_assoc]
    rfl

/-- Separators at the end are passed over. -/
theorem runsFrom_append_gap (hgap : ∀ c ∈ gap, isSeparator c = true) (run cs : List Char) :
    runsFrom run (cs ++ gap) = runsFrom run cs := by
  induction cs generalizing run with
  | nil =>
    rw [List.nil_append, ← List.append_nil gap, runsFrom_gap hgap (Or.inr rfl)]
    exact List.append_nil _
  | cons c cs ih =>
    rw [List.cons_append, runsFrom, runsFrom, ih, ih]

/-- Names, each with what separates it from the next one, after leading separators. -/
def written (lead : String) (parts : List (String × String)) : String :=
  lead ++ String.join (parts.map fun p => p.1 ++ p.2)

theorem toList_written (lead : String) (parts : List (String × String)) :
    (written lead parts).toList
      = lead.toList ++ parts.flatMap fun p => p.1.toList ++ p.2.toList := by
  unfold written
  rw [String.toList_append, String.toList_join, List.flatMap_map]
  simp only [String.toList_append]

/-- **Names are recovered from a text** in which there are separators between them, whatever these are
and whatever separators stand at the ends. -/
theorem parse_written {lead : String} {parts : List (String × String)} (hlead : IsGap lead)
    (hparts : ∀ p ∈ parts, IsName p.1 ∧ IsGap p.2) (hbetween : ∀ p ∈ parts.dropLast, p.2 ≠ "") :
    parse (written lead parts) = parts.map Prod.fst := by
  unfold parse
  rw [toList_written, runs_gap hlead]
  induction parts with
  | nil => rfl
  | cons p parts ih =>
    obtain ⟨⟨hname, hgap⟩, hrest⟩ := List.forall_mem_cons.1 hparts
    have hends : p.2.toList ≠ [] ∨
        parts.flatMap (fun p => p.1.toList ++ p.2.toList) = [] := by
      cases parts with
      | nil => exact Or.inr rfl
      | cons q parts =>
        refine Or.inl fun hempty => hbetween p List.mem_cons_self ?_
        exact String.toList_eq_nil_iff.1 hempty
    have htail := ih hrest fun q hq => by
      cases parts with
      | nil => cases hq
      | cons r parts => exact hbetween q (List.mem_cons_of_mem _ hq)
    unfold runs at htail ⊢
    rw [List.flatMap_cons, List.append_assoc, runsFrom_name hname.proper, List.nil_append,
      runsFrom_gap hgap hends, List.map_append, htail, finished,
      if_neg fun h => hname.nonempty (String.toList_eq_nil_iff.1 h), List.map_singleton,
      String.ofList_toList]
    rfl

/-- Names joined with separators are recovered. -/
theorem parse_intercalate {sep : String} {names : List String} (hsep : IsGap sep) (hne : sep ≠ "")
    (hnames : ∀ n ∈ names, IsName n) : parse (sep.intercalate names) = names := by
  have hends : sep.toList ≠ [] := fun h => hne (String.toList_eq_nil_iff.1 h)
  unfold parse
  rw [String.toList_intercalate]
  induction names with
  | nil => rfl
  | cons name names ih =>
    obtain ⟨hname, hrest⟩ := List.forall_mem_cons.1 hnames
    have hrun : finished name.toList = [name.toList] :=
      if_neg fun h => hname.nonempty (String.toList_eq_nil_iff.1 h)
    cases names with
    | nil =>
      have hrunsFrom := runsFrom_name hname.proper [] []
      rw [List.append_nil] at hrunsFrom
      rw [List.map_singleton, List.intercalate_singleton, runs, hrunsFrom, List.nil_append, runsFrom,
        hrun, List.map_singleton, String.ofList_toList]
    | cons next names =>
      have htail := ih hrest
      unfold runs at htail ⊢
      rw [List.map_cons, List.map_cons, List.intercalate_cons_cons, List.append_assoc,
        runsFrom_name hname.proper, List.nil_append, runsFrom_gap hsep (Or.inl hends),
        List.map_append, hrun, ← List.map_cons, htail, List.map_singleton, String.ofList_toList]
      rfl

/-- Trimming takes blanks from the ends. -/
theorem exists_trimChars (cs : List Char) : ∃ lead trail,
    cs = lead ++ (Text.trimChars cs ++ trail) ∧ (∀ c ∈ lead, Text.isBlankChar c = true) ∧
      ∀ c ∈ trail, Text.isBlankChar c = true := by
  refine ⟨cs.takeWhile Text.isBlankChar,
    ((cs.dropWhile Text.isBlankChar).reverse.takeWhile Text.isBlankChar).reverse, ?_,
    fun c hc => List.mem_takeWhile_imp hc,
    fun c hc => List.mem_takeWhile_imp (List.mem_reverse.1 hc)⟩
  rw [Text.trimChars, ← List.reverse_append, List.takeWhile_append_dropWhile, List.reverse_reverse,
    List.takeWhile_append_dropWhile]

/-- **Blanks at the ends of a list do not matter.** -/
theorem parse_trim (raw : String) : parse (Text.trim raw) = parse raw := by
  have hseparator : ∀ cs : List Char, (∀ c ∈ cs, Text.isBlankChar c = true) →
      ∀ c ∈ cs, isSeparator c = true := fun cs h c hc => Bool.or_eq_true_iff.2 (Or.inl (h c hc))
  obtain ⟨lead, trail, hchars, hlead, htrail⟩ := exists_trimChars raw.toList
  have hruns : runs (Text.trimChars raw.toList) = runs raw.toList := by
    conv_rhs => rw [hchars]
    rw [runs_gap (hseparator lead hlead)]
    exact (runsFrom_append_gap (hseparator trail htrail) [] _).symm
  unfold parse Text.trim
  rw [String.toList_ofList, hruns]

end NameList
end Namebook
