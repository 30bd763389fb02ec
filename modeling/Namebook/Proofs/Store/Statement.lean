/-
  Namebook.Proofs.Store.Statement
  ───────────────────────────────
  **WHAT ONE STATEMENT DOES — the only place that opens the statements.**

  A statement that is accepted writes one of four things, each with a closed form:

    • `withDocument` / `withAlias` — one row at the end of its table, one claim at the end of the
      name index;
    • `withoutAliases` — some alias rows and the claims of their names are gone;
    • `updateDocument` / `updateAliases` — rows change in place;
    • `withoutDocument` — a document, its claim and, through the reference, its aliases are gone.

  The lemmas `…_eq_ok_iff` say when a statement is accepted and what it then writes; everything
  later argues from these forms and never from the definitions.
-/
import Namebook.Store.Change

namespace Namebook

namespace Tables

/-! ## §1. Claiming and releasing names. -/

/-- The row that a public id has in the name index. -/
def documentEntry (d : DocumentRow) : NameRow := ⟨d.publicId, NameKind.publicId.text⟩

/-- The row that an alias has in the name index. -/
def aliasEntry (a : AliasRow) : NameRow := ⟨a.name, NameKind.aliasName.text⟩

theorem ofText?_text (k : NameKind) : NameKind.ofText? k.text = some k :=
  NameKind.ofText?_eq_some_iff.2 rfl

/-- A name is claimed under its proper kind exactly if nobody has claimed it. -/
theorem claim_eq (rules : Rules) (name : String) (k : NameKind) (t : Tables) :
    t.claim rules name k.text =
      if t.names.any (·.name == name) then .error (.unique "identifier_names.name")
      else .ok { t with names := t.names ++ [⟨name, k.text⟩] } := by
  unfold claim
  rw [ofText?_text, if_neg (by simp)]

/-- Releasing the names of some alias rows, one after the other. -/
theorem foldl_release (rows : List AliasRow) (t : Tables) :
    rows.foldl (fun t a => t.release a.name .aliasName) t
      = { t with names := t.names.filter fun n => !rows.any fun a => aliasEntry a == n } := by
  induction rows generalizing t with
  | nil =>
    have hall : (t.names.filter fun n => !([] : List AliasRow).any fun a => aliasEntry a == n)
        = t.names := List.filter_eq_self.2 fun _ _ => rfl
    rw [hall]
    rfl
  | cons a rows ih =>
    rw [List.foldl_cons, ih]
    simp only [release, List.filter_filter, List.any_cons]
    congr 1
    apply List.filter_congr
    intro n _
    -- an index row is the entry of `a` exactly if both of its columns agree
    have hentry : (aliasEntry a == n) = (n.name == a.name && n.kind == NameKind.aliasName.text) := by
      rw [Bool.eq_iff_iff]
      simp only [beq_iff_eq, Bool.and_eq_true, aliasEntry]
      constructor
      · intro h; subst h; exact ⟨rfl, rfl⟩
      · intro h; obtain ⟨name, kind⟩ := n; simp only at h; rw [h.1, h.2]
    rw [hentry, Bool.not_or, Bool.and_comm]

/-! ## §2. Documents. -/

/-- The tables with one more document and its claim. -/
def withDocument (t : Tables) (row : DocumentRow) : Tables :=
  { t with documents := t.documents ++ [row], names := t.names ++ [documentEntry row] }

theorem insertDocument_eq_ok_iff {rules : Rules} {row : DocumentRow} {t t' : Tables} :
    t.insertDocument rules row = .ok t' ↔
      (∀ d ∈ t.documents, d.publicId ≠ row.publicId) ∧ (∀ n ∈ t.names, n.name ≠ row.publicId) ∧
        t' = t.withDocument row := by
  unfold insertDocument
  rw [claim_eq]
  -- two refusals, each denied by the right side, and the insert
  by_cases hid : t.documents.any (·.publicId == row.publicId)
  · rw [if_pos hid]
    obtain ⟨d, hd, heq⟩ := List.any_eq_true.1 hid
    constructor
    · intro h; cases h
    · intro h; exact absurd (beq_iff_eq.1 heq) (h.1 d hd)
  · rw [if_neg hid]
    by_cases hname : t.names.any (·.name == row.publicId)
    · rw [if_pos hname]
      obtain ⟨n, hn, heq⟩ := List.any_eq_true.1 hname
      constructor
      · intro h; cases h
      · intro h; exact absurd (beq_iff_eq.1 heq) (h.2.1 n hn)
    · rw [if_neg hname]
      simp only [List.any_eq_true, beq_iff_eq, not_exists, not_and] at hid hname
      constructor
      · intro h
        injection h with h
        exact ⟨hid, hname, h.symm⟩
      · rintro ⟨-, -, rfl⟩
        rfl

theorem hasDocument_iff {t : Tables} {p : String} :
    t.hasDocument p = true ↔ ∃ d ∈ t.documents, d.publicId = p := by
  simp [hasDocument]

/-- Changing a document row keeps all the others. -/
theorem updateDocument_documents (p : String) (f : DocumentRow → DocumentRow) (t : Tables) :
    (t.updateDocument p f).documents
      = t.documents.map fun d => if d.publicId == p then f d else d := rfl

/-- A change that leaves the public id alone leaves every public id alone. -/
theorem updateDocument_publicIds {p : String} {f : DocumentRow → DocumentRow} {t : Tables}
    (hf : ∀ d, (f d).publicId = d.publicId) :
    (t.updateDocument p f).documents.map (·.publicId) = t.documents.map (·.publicId) := by
  rw [updateDocument_documents, List.map_map]
  apply List.map_congr_left
  intro d _
  simp only [Function.comp]
  split
  · exact hf d
  · rfl

/-! ## §3. Aliases. -/

/-- The tables with one more alias and its claim. -/
def withAlias (t : Tables) (row : AliasRow) : Tables :=
  { t with aliases := t.aliases ++ [row], names := t.names ++ [aliasEntry row] }

/-- Whether the rules admit a new alias row. -/
structure Admits (t : Tables) (row : AliasRow) : Prop where
  flag : isFlag row.flag = true
  primary : t.onePrimary = true → row.flag = 1 →
    ∀ a ∈ t.aliases, a.document = row.document → a.flag ≠ 1
  name : ∀ a ∈ t.aliases, a.name ≠ row.name
  id : ∀ a ∈ t.aliases, a.id ≠ row.id
  unclaimed : ∀ n ∈ t.names, n.name ≠ row.name
  owner : t.hasDocument row.document = true

/-- Every check of an insert, in its order. -/
theorem insertAlias_eq (t : Tables) (row : AliasRow) :
    t.insertAlias Rules.all row =
      if !isFlag row.flag then .error (.check flagCondition)
      else if t.onePrimary && row.flag == 1 &&
          t.aliases.any (fun a => a.document == row.document && a.flag == 1) then
        .error (.unique "aliases.document_public_id")
      else if t.aliases.any (·.name == row.name) then .error (.unique "aliases.name")
      else if t.aliases.any (·.id == row.id) then .error (.unique "aliases.id")
      else if t.names.any (·.name == row.name) then .error (.unique "identifier_names.name")
      else if t.hasDocument row.document then .ok (t.withAlias row)
      else .error .foreignKey := by
  unfold insertAlias
  rw [claim_eq]
  refine ite_congr rfl (fun _ => rfl) fun _ => ?_
  refine ite_congr rfl (fun _ => rfl) fun _ => ?_
  refine ite_congr rfl (fun _ => rfl) fun _ => ?_
  refine ite_congr rfl (fun _ => rfl) fun _ => ?_
  -- the claim is an answer of its own, so its two outcomes are gone through by hand
  by_cases hfree : t.names.any (·.name == row.name)
  · rw [if_pos hfree, if_pos hfree]
    rfl
  · rw [if_neg hfree, if_neg hfree]
    show (if (true && !t.hasDocument row.document) = true then _ else _) = _
    cases t.hasDocument row.document <;> rfl

/-- **An alias row is inserted exactly if the rules admit it.** -/
theorem insertAlias_eq_ok_iff {t t' : Tables} {row : AliasRow} :
    t.insertAlias Rules.all row = .ok t' ↔ t.Admits row ∧ t' = t.withAlias row := by
  rw [insertAlias_eq]
  constructor
  · intro h
    -- six refusals, and the row that passes them all
    split at h
    · cases h
    next hflag =>
    split at h
    · cases h
    next hprimary =>
    split at h
    · cases h
    next hname =>
    split at h
    · cases h
    next hid =>
    split at h
    · cases h
    next hfree =>
    split at h
    next howner =>
      injection h with h
      simp only [Bool.not_eq_true', Bool.not_eq_false, List.any_eq_true, beq_iff_eq, not_exists,
        not_and, Bool.and_eq_true] at hflag hprimary hname hid hfree
      exact ⟨⟨hflag, fun hone hrow a ha hdoc => hprimary ⟨hone, hrow⟩ a ha hdoc, hname, hid, hfree,
        howner⟩, h.symm⟩
    next => cases h
  · rintro ⟨h, rfl⟩
    have hprimary : (t.onePrimary && row.flag == 1 &&
        t.aliases.any fun a => a.document == row.document && a.flag == 1) = false := by
      rw [Bool.eq_false_iff]
      simp only [ne_eq, Bool.and_eq_true, beq_iff_eq, List.any_eq_true, not_and, not_exists]
      intro hone a ha hdoc
      exact h.primary hone.1 hone.2 a ha hdoc
    have hname : t.aliases.any (·.name == row.name) = false := by
      simpa [List.any_eq_false] using h.name
    have hid : t.aliases.any (·.id == row.id) = false := by
      simpa [List.any_eq_false] using h.id
    have hfree : t.names.any (·.name == row.name) = false := by
      simpa [List.any_eq_false] using h.unclaimed
    rw [h.flag, hprimary, hname, hid, hfree, h.owner]
    rfl

theorem updateAliases_aliases (selects : AliasRow → Bool) (f : AliasRow → AliasRow) (t : Tables) :
    (t.updateAliases selects f).aliases = t.aliases.map fun a => if selects a then f a else a := rfl

/-- What does not see the changed columns does not see the change. -/
theorem updateAliases_map {κ : Type} {key : AliasRow → κ} {selects : AliasRow → Bool}
    {f : AliasRow → AliasRow} {t : Tables} (hf : ∀ a, key (f a) = key a) :
    (t.updateAliases selects f).aliases.map key = t.aliases.map key := by
  rw [updateAliases_aliases, List.map_map]
  apply List.map_congr_left
  intro a _
  simp only [Function.comp]
  split
  · exact hf a
  · rfl

/-- Nothing is selected, nothing changes. -/
theorem updateAliases_of_none {selects : AliasRow → Bool} {f : AliasRow → AliasRow} {t : Tables}
    (h : ∀ a ∈ t.aliases, selects a = false) : t.updateAliases selects f = t := by
  have hmap : (t.aliases.map fun a => if selects a then f a else a) = t.aliases := by
    refine (List.map_congr_left fun a ha => ?_).trans (List.map_id t.aliases)
    rw [h a ha]
    rfl
  unfold updateAliases
  rw [hmap]

/-- **An accepted change of flags**: a sensible value, and a row that becomes primary is the only
primary one beside those that were selected with it. -/
theorem setFlag_eq_ok_iff {selects : AliasRow → Bool} {value : Int64} {t t' : Tables} :
    t.setFlag Rules.all selects value = .ok t' ↔
      (∀ row, t.aliases.find? selects = some row → isFlag value = true ∧
        (t.onePrimary = true → value = 1 → ∀ a ∈ t.aliases, selects a = false →
          a.document = row.document → a.flag ≠ 1)) ∧
      t' = t.updateAliases selects fun a => { a with flag := value } := by
  unfold setFlag
  cases hfind : t.aliases.find? selects with
  | none =>
    have hnone : ∀ a ∈ t.aliases, selects a = false := by
      simpa using List.find?_eq_none.1 hfind
    rw [updateAliases_of_none hnone]
    constructor
    · intro h
      injection h with h
      refine ⟨?_, h.symm⟩
      intro row hrow
      cases hrow
    · rintro ⟨-, rfl⟩
      rfl
  | some row =>
    show (if (true && !isFlag value) = true then _ else if _ then _ else _) = _ ↔ _
    by_cases hflag : isFlag value = true
    · rw [hflag, if_neg (by simp)]
      -- the index of primary aliases is checked against the rows outside the selection only
      by_cases hclash : (t.onePrimary && value == 1 && t.aliases.any fun a =>
          !selects a && a.document == row.document && a.flag == 1) = true
      · rw [if_pos hclash]
        simp only [Bool.and_eq_true, beq_iff_eq, List.any_eq_true, Bool.not_eq_true'] at hclash
        obtain ⟨⟨hone, hvalue⟩, a, ha, ⟨hsel, hdoc⟩, hset⟩ := hclash
        constructor
        · intro h; cases h
        · intro h; exact absurd hset ((h.1 row rfl).2 hone hvalue a ha hsel hdoc)
      · rw [if_neg hclash]
        simp only [Bool.and_eq_true, beq_iff_eq, List.any_eq_true, Bool.not_eq_true', not_exists,
          not_and] at hclash
        constructor
        · intro h
          injection h with h
          refine ⟨?_, h.symm⟩
          intro other hother
          injection hother with hother
          subst hother
          exact ⟨rfl, fun hone hvalue a ha hsel hdoc => hclash ⟨hone, hvalue⟩ a ha ⟨hsel, hdoc⟩⟩
        · rintro ⟨-, rfl⟩
          rfl
    · rw [Bool.not_eq_true] at hflag
      rw [hflag, if_pos (by simp)]
      constructor
      · intro h; cases h
      · intro h; cases (h.1 row rfl).1

/-! ## §4. Removing rows. -/

/-- The tables without some aliases and the claims of their names. -/
def withoutAliases (t : Tables) (gone : AliasRow → Bool) : Tables :=
  { t with
    aliases := t.aliases.filter (!gone ·)
    names := t.names.filter fun n => !(t.aliases.filter gone).any fun a => aliasEntry a == n }

theorem removeAliases_eq (gone : AliasRow → Bool) (t : Tables) :
    t.removeAliases gone = t.withoutAliases gone := by
  unfold removeAliases
  rw [foldl_release]
  rfl

/-- The tables without a document, its claim, its aliases and their claims. -/
def withoutDocument (t : Tables) (p : String) : Tables :=
  ({ t with
    documents := t.documents.filter (·.publicId != p)
    names := t.names.filter fun n => !(⟨p, NameKind.publicId.text⟩ == n) } : Tables).withoutAliases
    (·.document == p)

theorem deleteDocument_eq (p : String) (t : Tables) :
    t.deleteDocument Rules.all p = if t.hasDocument p then t.withoutDocument p else t := by
  unfold deleteDocument
  split
  · show Tables.removeAliases _ _ = _
    rw [removeAliases_eq]
    unfold release withoutDocument
    congr 2
    apply List.filter_congr
    intro n _
    -- the trigger names the claim by its columns, the closed form by the row
    rw [Bool.eq_iff_iff]
    obtain ⟨name, kind⟩ := n
    simp only [Bool.not_eq_true', Bool.and_eq_false_imp, beq_iff_eq, beq_eq_false_iff_ne, ne_eq,
      NameRow.mk.injEq, not_and]
    constructor
    · intro h hp hk; exact h hp.symm hk.symm
    · intro h hp hk; exact h hp.symm hk.symm
  · rfl

end Tables

end Namebook
