/-
  Namebook.Proofs.Validation
  ──────────────────────────
  **VALIDATION IS EXACT — which documents pass, and which fault is named.**

  A document passes if and only if it is valid.  Of the faults of any other one the first is named:
  first its public id counts, then its aliases in their order, then the number of its primaries.

    • `Document.Valid` — what a document has to be;
    • `Document.FirstFault` — the faults in the order in which they count;
    • `onlyPrimary_iff` — one primary alias, by its place and by number;
    • `validation_is_exact` — both, and what a valid document says of its primary alias.
-/
import Namebook.Proofs.Repository.Decoding

namespace Namebook

/-! ## §1. The only primary alias. -/

/-- **An alias is primary and no other one is**, whatever place it has in the list. -/
def OnlyPrimary (as : List Alias) (a : Alias) : Prop :=
  ∃ before after, as = before ++ a :: after ∧ a.primary = true ∧
    ∀ b ∈ before ++ after, b.primary = false

/-- The only primary alias is all that is left of the list without the others. -/
theorem onlyPrimary_iff {as : List Alias} {a : Alias} :
    OnlyPrimary as a ↔ as.filter (·.primary) = [a] := by
  rw [List.filter_eq_cons_iff]
  constructor
  · rintro ⟨before, after, rfl, ha, hothers⟩
    obtain ⟨hbefore, hafter⟩ := List.forall_mem_append.1 hothers
    refine ⟨before, after, rfl, fun b hb => Bool.eq_false_iff.1 (hbefore b hb), ha, ?_⟩
    exact List.filter_eq_nil_iff.2 fun b hb => Bool.eq_false_iff.1 (hafter b hb)
  · rintro ⟨before, after, rfl, hbefore, ha, hafter⟩
    refine ⟨before, after, rfl, ha, List.forall_mem_append.2 ⟨fun b hb => ?_, fun b hb => ?_⟩⟩
    · exact Bool.eq_false_iff.2 (hbefore b hb)
    · exact Bool.eq_false_iff.2 (List.filter_eq_nil_iff.1 hafter b hb)

theorem OnlyPrimary.mem {as : List Alias} {a : Alias} (h : OnlyPrimary as a) : a ∈ as := by
  obtain ⟨before, after, rfl, -⟩ := h
  exact List.mem_append_right before List.mem_cons_self

theorem OnlyPrimary.primary {as : List Alias} {a : Alias} (h : OnlyPrimary as a) :
    a.primary = true := by
  obtain ⟨before, after, -, ha, -⟩ := h
  exact ha

namespace Document

variable {d : Document}

/-- The number of primaries is one exactly if there is an only one. -/
theorem primaryCount_eq_one_iff : d.primaryCount = 1 ↔ ∃ a, OnlyPrimary d.aliases a := by
  unfold primaryCount
  rw [List.countP_eq_length_filter, List.length_eq_one_iff]
  exact exists_congr fun a => onlyPrimary_iff.symm

/-- The only primary alias is the one that is found. -/
theorem primaryAlias?_of_onlyPrimary {a : Alias} (h : OnlyPrimary d.aliases a) :
    d.primaryAlias? = some a := by
  unfold primaryAlias?
  rw [← List.head?_filter, onlyPrimary_iff.1 h]
  rfl

/-! ## §2. Valid documents. -/

/-- **A valid document.**  It has a public id; its aliases point back to it and none has its name; and
unless there is no alias, one and only one is primary. -/
structure Valid (d : Document) : Prop where
  named : Text.isBlank d.publicId = false
  owned : ∀ a ∈ d.aliases, a.document = d.publicId
  apart : ∀ a ∈ d.aliases, a.name ≠ d.publicId
  led : d.aliases = [] ∨ ∃ a, OnlyPrimary d.aliases a

/-- **A document passes exactly if it is valid.** -/
theorem validate_eq_ok_iff_valid : d.validate = .ok () ↔ d.Valid := by
  rw [validate_eq_ok_iff, fault?_eq_none_iff, primaryCount_eq_one_iff]
  constructor
  · rintro ⟨hnamed, hfit, hled⟩
    exact ⟨hnamed, fun a ha => (hfit a ha).1, fun a ha => (hfit a ha).2, hled⟩
  · rintro ⟨hnamed, howned, hapart, hled⟩
    exact ⟨hnamed, fun a ha => ⟨howned a ha, hapart a ha⟩, hled⟩

/-- An alias is found as primary exactly if it is the only primary one. -/
theorem Valid.primaryAlias?_eq_some_iff (h : d.Valid) {a : Alias} :
    d.primaryAlias? = some a ↔ OnlyPrimary d.aliases a := by
  refine ⟨fun hfound => ?_, primaryAlias?_of_onlyPrimary⟩
  rcases h.led with hnone | ⟨b, hb⟩
  · unfold primaryAlias? at hfound
    rw [hnone] at hfound
    cases hfound
  · cases (primaryAlias?_of_onlyPrimary hb).symm.trans hfound
    exact hb

theorem Valid.exists_onlyPrimary (h : d.Valid) (hsome : d.aliases ≠ []) :
    ∃ a, OnlyPrimary d.aliases a :=
  h.led.resolve_left hsome

theorem Valid.isSome_primaryAlias?_iff (h : d.Valid) :
    d.primaryAlias?.isSome = true ↔ d.aliases ≠ [] := by
  rw [Option.isSome_iff_exists]
  constructor
  · rintro ⟨a, hfound⟩
    exact List.ne_nil_of_mem (h.primaryAlias?_eq_some_iff.1 hfound).mem
  · intro hsome
    obtain ⟨a, ha⟩ := h.exists_onlyPrimary hsome
    exact ⟨a, primaryAlias?_of_onlyPrimary ha⟩

theorem aliasState_eq_singlePrimary_iff : d.aliasState = .singlePrimary ↔ ∃ a, d.aliases = [a] := by
  unfold aliasState
  split <;> simp_all

theorem aliasState_eq_multiAlias_iff : d.aliasState = .multiAlias ↔ 2 ≤ d.aliases.length := by
  unfold aliasState
  split
  next h => simp [h]
  next a h => simp [h]
  next hnil hsole =>
    match haliases : d.aliases with
    | [] => exact absurd haliases hnil
    | [a] => exact absurd haliases (hsole a)
    | a :: b :: rest => simp

/-- A sole alias is primary. -/
theorem Valid.primary_of_single (h : d.Valid) (hstate : d.aliasState = .singlePrimary) :
    ∃ a, d.aliases = [a] ∧ a.primary = true := by
  obtain ⟨a, hsole⟩ := aliasState_eq_singlePrimary_iff.1 hstate
  obtain ⟨b, hb⟩ := h.exists_onlyPrimary (hsole ▸ List.cons_ne_nil a [])
  refine ⟨a, hsole, ?_⟩
  have hmem : b ∈ [a] := hsole ▸ hb.mem
  rw [← List.mem_singleton.1 hmem]
  exact hb.primary

/-- Of many aliases one is primary. -/
theorem Valid.onlyPrimary_of_multi (h : d.Valid) (hstate : d.aliasState = .multiAlias) :
    2 ≤ d.aliases.length ∧ ∃ a, OnlyPrimary d.aliases a := by
  have hmany := aliasState_eq_multiAlias_iff.1 hstate
  refine ⟨hmany, h.exists_onlyPrimary fun hnil => ?_⟩
  rw [hnil] at hmany
  exact absurd hmany (by decide)

/-! ## §3. The first fault. -/

/-- An alias as a document with this public id may have it. -/
def Fits (publicId : String) (a : Alias) : Prop :=
  a.document = publicId ∧ a.name ≠ publicId

/-- **The first fault of a document.**  A blank public id counts before all else.  Then the first alias
counts that does not fit: as a foreign one if it is both foreign and named like the document.  Then the
number of primaries counts. -/
inductive FirstFault (d : Document) : DocumentFault → Prop where
  | unnamed (hblank : Text.isBlank d.publicId = true) : FirstFault d .emptyPublicId
  | foreign {before after : List Alias} {a : Alias} (hnamed : Text.isBlank d.publicId = false)
      (hsplit : d.aliases = before ++ a :: after) (hbefore : ∀ b ∈ before, Fits d.publicId b)
      (hforeign : a.document ≠ d.publicId) : FirstFault d (.foreignAlias d.publicId a.id)
  | shadowing {before after : List Alias} {a : Alias} (hnamed : Text.isBlank d.publicId = false)
      (hsplit : d.aliases = before ++ a :: after) (hbefore : ∀ b ∈ before, Fits d.publicId b)
      (howned : a.document = d.publicId) (hname : a.name = d.publicId) :
      FirstFault d (.aliasShadowsPublicId d.publicId)
  | leaderless (hnamed : Text.isBlank d.publicId = false) (hfit : ∀ a ∈ d.aliases, Fits d.publicId a)
      (hsome : d.aliases ≠ []) (hnone : ∀ a ∈ d.aliases, a.primary = false) :
      FirstFault d (.missingPrimary d.publicId)
  | crowded (hnamed : Text.isBlank d.publicId = false) (hfit : ∀ a ∈ d.aliases, Fits d.publicId a)
      (hmany : 2 ≤ (d.aliases.filter (·.primary)).length) :
      FirstFault d (.multiplePrimaries d.publicId (d.aliases.filter (·.primary)).length)

/-- What is wrong with one alias. -/
theorem aliasFault?_eq_some_iff {p : String} {a : Alias} {f : DocumentFault} :
    aliasFault? p a = some f ↔
      a.document ≠ p ∧ f = .foreignAlias p a.id ∨
      (a.document = p ∧ a.name = p) ∧ f = .aliasShadowsPublicId p := by
  unfold aliasFault?
  by_cases hdoc : a.document = p
  · rw [if_neg (not_not.2 hdoc)]
    by_cases hname : a.name = p
    · rw [if_pos hname]
      constructor
      · intro h
        cases h
        exact Or.inr ⟨⟨hdoc, hname⟩, rfl⟩
      · rintro (⟨hforeign, -⟩ | ⟨-, rfl⟩)
        · exact absurd hdoc hforeign
        · rfl
    · rw [if_neg hname]
      constructor
      · intro h
        cases h
      · rintro (⟨hforeign, -⟩ | ⟨⟨-, hshadow⟩, -⟩)
        · exact absurd hdoc hforeign
        · exact absurd hshadow hname
  · rw [if_pos hdoc]
    constructor
    · intro h
      cases h
      exact Or.inl ⟨hdoc, rfl⟩
    · rintro (⟨-, rfl⟩ | ⟨⟨howned, -⟩, -⟩)
      · rfl
      · exact absurd howned hdoc

/-- What is wrong with the number of primaries. -/
theorem primaryFault?_eq_some_iff {f : DocumentFault} :
    d.primaryFault? = some f ↔ d.aliases ≠ [] ∧
      (d.primaryCount = 0 ∧ f = .missingPrimary d.publicId ∨
        2 ≤ d.primaryCount ∧ f = .multiplePrimaries d.publicId d.primaryCount) := by
  unfold primaryFault?
  by_cases hempty : d.aliases = []
  · rw [if_pos hempty]
    exact ⟨fun h => (by cases h), fun h => absurd hempty h.1⟩
  · rw [if_neg hempty]
    generalize d.primaryCount = n
    match n with
    | 0 => simp [hempty, eq_comm]
    | 1 => simp
    | n + 2 => simp [hempty, eq_comm]

/-- No alias is at fault exactly if all fit. -/
theorem findSome?_aliasFault?_eq_none_iff {p : String} {as : List Alias} :
    as.findSome? (aliasFault? p) = none ↔ ∀ a ∈ as, Fits p a := by
  rw [List.findSome?_eq_none_iff]
  exact forall₂_congr fun a _ => aliasFault?_eq_none_iff

/-- The three gates of a document, one after the other. -/
theorem fault?_eq_some_iff {f : DocumentFault} :
    d.fault? = some f ↔ Text.isBlank d.publicId = true ∧ f = .emptyPublicId ∨
      Text.isBlank d.publicId = false ∧
        (d.aliases.findSome? (aliasFault? d.publicId) = some f ∨
          (∀ a ∈ d.aliases, Fits d.publicId a) ∧ d.primaryFault? = some f) := by
  unfold fault?
  rw [← findSome?_aliasFault?_eq_none_iff]
  cases Text.isBlank d.publicId with
  | true => simp [eq_comm]
  | false =>
    cases d.aliases.findSome? (aliasFault? d.publicId) with
    | some g => simp
    | none => simp

/-- A fault that is found is the first one. -/
theorem firstFault_of_fault? {f : DocumentFault} (h : d.fault? = some f) : d.FirstFault f := by
  rcases fault?_eq_some_iff.1 h with ⟨hblank, rfl⟩ | ⟨hnamed, halias | ⟨hfit, hprimary⟩⟩
  · exact .unnamed hblank
  · -- the aliases before the one at fault were all passed
    obtain ⟨before, a, after, hsplit, ha, hpassed⟩ := List.findSome?_eq_some_iff.1 halias
    have hbefore : ∀ b ∈ before, Fits d.publicId b := fun b hb =>
      aliasFault?_eq_none_iff.1 (hpassed b hb)
    rcases aliasFault?_eq_some_iff.1 ha with ⟨hforeign, rfl⟩ | ⟨⟨howned, hname⟩, rfl⟩
    · exact .foreign hnamed hsplit hbefore hforeign
    · exact .shadowing hnamed hsplit hbefore howned hname
  · obtain ⟨hsome, ⟨hnone, rfl⟩ | ⟨hmany, rfl⟩⟩ := primaryFault?_eq_some_iff.1 hprimary
    · refine .leaderless hnamed hfit hsome fun a ha => Bool.eq_false_iff.2 ?_
      exact List.countP_eq_zero.1 hnone a ha
    · unfold primaryCount at hmany ⊢
      rw [List.countP_eq_length_filter] at hmany ⊢
      exact .crowded hnamed hfit hmany

/-- An alias at fault that comes after fitting ones is found. -/
theorem findSome?_aliasFault?_of_split {p : String} {before after : List Alias} {a : Alias}
    {f : DocumentFault} (hbefore : ∀ b ∈ before, Fits p b) (ha : aliasFault? p a = some f) :
    (before ++ a :: after).findSome? (aliasFault? p) = some f :=
  List.findSome?_eq_some_iff.2
    ⟨before, a, after, rfl, ha, fun b hb => aliasFault?_eq_none_iff.2 (hbefore b hb)⟩

/-- The first fault is found. -/
theorem FirstFault.fault?_eq {f : DocumentFault} (h : d.FirstFault f) : d.fault? = some f := by
  refine fault?_eq_some_iff.2 ?_
  cases h with
  | unnamed hblank => exact Or.inl ⟨hblank, rfl⟩
  | foreign hnamed hsplit hbefore hforeign =>
    refine Or.inr ⟨hnamed, Or.inl ?_⟩
    rw [hsplit]
    exact findSome?_aliasFault?_of_split hbefore
      (aliasFault?_eq_some_iff.2 (Or.inl ⟨hforeign, rfl⟩))
  | shadowing hnamed hsplit hbefore howned hname =>
    refine Or.inr ⟨hnamed, Or.inl ?_⟩
    rw [hsplit]
    exact findSome?_aliasFault?_of_split hbefore
      (aliasFault?_eq_some_iff.2 (Or.inr ⟨⟨howned, hname⟩, rfl⟩))
  | leaderless hnamed hfit hsome hnone =>
    refine Or.inr ⟨hnamed, Or.inr ⟨hfit, primaryFault?_eq_some_iff.2 ⟨hsome, Or.inl ⟨?_, rfl⟩⟩⟩⟩
    exact List.countP_eq_zero.2 fun a ha => Bool.eq_false_iff.1 (hnone a ha)
  | crowded hnamed hfit hmany =>
    refine Or.inr ⟨hnamed, Or.inr ⟨hfit, primaryFault?_eq_some_iff.2 ?_⟩⟩
    unfold primaryCount
    rw [List.countP_eq_length_filter]
    refine ⟨fun hnil => ?_, Or.inr ⟨hmany, rfl⟩⟩
    rw [hnil] at hmany
    exact absurd hmany (by decide)

/-- **A document fails with its first fault and with no other.** -/
theorem validate_eq_error_iff_firstFault {f : DocumentFault} :
    d.validate = .error f ↔ d.FirstFault f := by
  rw [validate_eq_error_iff]
  exact ⟨firstFault_of_fault?, FirstFault.fault?_eq⟩

/-! ## §4. The gate. -/

/-- **Validation is exact.**  A document passes exactly if it is valid, and otherwise fails with its first
fault.  Of a document that passes a primary alias is found exactly if it has aliases, and that one is
then the only primary one; if its state is that of a single alias, this alias is primary, and if it is
that of many, there are two at least of which one and only one is primary. -/
theorem validation_is_exact (d : Document) :
    (d.validate = .ok () ↔ d.Valid) ∧
    (∀ f, d.validate = .error f ↔ d.FirstFault f) ∧
    (d.validate = .ok () →
      (d.primaryAlias?.isSome = true ↔ d.aliases ≠ []) ∧
      (∀ a, d.primaryAlias? = some a → OnlyPrimary d.aliases a) ∧
      (d.aliasState = .singlePrimary → ∃ a, d.aliases = [a] ∧ a.primary = true) ∧
      (d.aliasState = .multiAlias → 2 ≤ d.aliases.length ∧ ∃ a, OnlyPrimary d.aliases a)) := by
  refine ⟨validate_eq_ok_iff_valid, fun f => validate_eq_error_iff_firstFault, fun hok => ?_⟩
  have hvalid : d.Valid := validate_eq_ok_iff_valid.1 hok
  exact ⟨hvalid.isSome_primaryAlias?_iff, fun a => hvalid.primaryAlias?_eq_some_iff.1,
    hvalid.primary_of_single, hvalid.onlyPrimary_of_multi⟩

/-- An alias that is both foreign and named like the document, before one that is only the latter; and
every alias is primary. -/
def mixedUp : Document :=
  { publicId := "d"
    aliases := [⟨⟨1⟩, "a", true, "d"⟩, ⟨⟨2⟩, "d", true, "e"⟩, ⟨⟨3⟩, "d", true, "d"⟩]
    version := 0, createdAt := 0, updatedAt := 0 }

/-- Three aliases of which the second is primary. -/
def wellLed : Document :=
  { publicId := "d"
    aliases := [⟨⟨1⟩, "a", false, "d"⟩, ⟨⟨2⟩, "b", true, "d"⟩, ⟨⟨3⟩, "c", false, "d"⟩]
    version := 3, createdAt := 0, updatedAt := 0 }

/-- Of three faults the first one is named; and a document that passes is led by its second alias. -/
theorem validation_is_exact_mixedUp :
    mixedUp.validate = .error (.foreignAlias "d" ⟨2⟩) ∧
    ∃ a, wellLed.primaryAlias? = some a ∧ a.name = "b" ∧ OnlyPrimary wellLed.aliases a := by
  constructor
  · refine ((validation_is_exact mixedUp).2.1 _).2 ?_
    have hbefore : ∀ b ∈ [(⟨⟨1⟩, "a", true, "d"⟩ : Alias)], Fits mixedUp.publicId b := by
      intro b hb
      cases List.mem_singleton.1 hb
      exact ⟨rfl, by decide⟩
    exact @FirstFault.foreign mixedUp _ [⟨⟨3⟩, "d", true, "d"⟩] ⟨⟨2⟩, "d", true, "e"⟩ (by decide) rfl
      hbefore (by decide)
  · have hpassed := (validation_is_exact wellLed).2.2 rfl
    exact ⟨_, rfl, rfl, hpassed.2.1 _ rfl⟩

end Document

end Namebook
