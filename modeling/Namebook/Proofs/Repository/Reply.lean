/-
  Namebook.Proofs.Repository.Reply
  ────────────────────────────────
  **REQUESTS FOLLOW THE BOOK.**

  On tables that are in order, a change is answered as the book of the tables says, and what it
  leaves has the book that was promised:

    • `createAlias_reply`, `deleteAlias_reply`, `promoteAlias_reply`.

  Two things can stop a change that the book would grant: a version or a position at its limit, and a
  new id that is taken.  Both are excluded by hypothesis.
-/
import Namebook.Proofs.Repository.Grant
import Namebook.Proofs.Book

namespace Namebook

namespace Tables

variable {t s : Tables} {fresh : Fresh} {p n : String}

/-- What clients are told of the outcome of some work, and the book that is kept. -/
def told (t : Tables) : Except RepositoryError Document × Tables → Book.Reply
  | (.ok d, t') => (.ok d.entry, t'.book)
  | (.error e, _) => (.error (ServiceError.ofRepository e), t.book)

/-- No version and no position is at its limit. -/
structure BelowLimits (t : Tables) : Prop where
  versions : ∀ d ∈ t.documents, d.version.toInt ≠ Integer.greatest
  positions : ∀ a ∈ t.aliases, a.position.toInt ≠ Integer.greatest

/-! ## §1. The entry that changes. -/

/-- **Only the entry of the changed document is another one.** -/
theorem book_touched {row : DocumentRow} {now version : Int64} (h : t.Claims)
    (hrow : t.document? p = some row) (hdocs : s.documents = t.documents)
    (hothers : ∀ q, q ≠ p → s.listed q = t.listed q) :
    (s.touched p now version).book
      = t.book.put ((s.touched p now version).entry (counted row now version)) := by
  obtain ⟨hmem, hid⟩ := mem_of_document? hrow
  show (s.documents.map fun d => if d.publicId == p then counted d now version else d).map _ = _
  unfold Book.put book
  rw [hdocs, List.map_map, List.map_map]
  apply List.map_congr_left
  intro d hd
  show (s.touched p now version).entry (if d.publicId == p then counted d now version else d)
    = if d.publicId == row.publicId then _ else t.entry d
  rw [hid]
  -- the row with the public id is the changed one, every other keeps its entry
  by_cases hp : d.publicId = p
  · rw [if_pos (beq_iff_eq.2 hp), if_pos (beq_iff_eq.2 hp)]
    rw [eq_of_key_eq h.publicIds hd hmem (hp.trans hid.symm)]
  · have hne : ¬(d.publicId == p) = true := fun heq => hp (beq_iff_eq.1 heq)
    rw [if_neg hne, if_neg hne]
    have hlisted : (s.touched p now version).listed d.publicId = t.listed d.publicId :=
      hothers d.publicId hp
    unfold entry
    rw [hlisted]

/-- Counting a change shows in the version alone. -/
theorem entry_touched (s : Tables) (p : String) (row : DocumentRow) (now version : Int64) :
    (s.touched p now version).entry (counted row now version)
      = ⟨row.publicId, version.toInt, (s.entry row).names, (s.entry row).primary⟩ := rfl

/-- What is told of a change that went through. -/
theorem told_touched {row : DocumentRow} {now version : Int64} {e : Entry} (h : t.Claims)
    (hrow : t.document? p = some row) (hdocs : s.documents = t.documents)
    (hothers : ∀ q, q ≠ p → s.listed q = t.listed q)
    (he : (s.touched p now version).entry (counted row now version) = e) :
    t.told (.ok ((s.touched p now version).documentOf (counted row now version)),
      s.touched p now version) = (.ok e, t.book.put e) := by
  show (Except.ok (Document.entry _), (s.touched p now version).book) = _
  rw [entry_documentOf, book_touched h hrow hdocs hothers, he]

/-- Counting up a version below its limit. -/
theorem BelowLimits.exists_version (h : t.BelowLimits) {row : DocumentRow}
    (hrow : t.document? p = some row) :
    ∃ version : Int64, version.toInt = row.version.toInt + 1 :=
  Integer.exists_next (h.versions row (mem_of_document? hrow).1)

/-- The greatest position is that of some row. -/
theorem mem_of_maxPosition {rows : List AliasRow} {m : Int64}
    (h : Rows.maxPosition? rows = some m) : ∃ a ∈ rows, a.position = m := by
  induction rows generalizing m with
  | nil => cases h
  | cons b rows ih =>
    unfold Rows.maxPosition? at h
    cases hmax : Rows.maxPosition? rows with
    | none =>
      rw [hmax] at h
      injection h with h
      exact ⟨b, List.mem_cons_self, h⟩
    | some q =>
      rw [hmax] at h
      injection h with h
      obtain ⟨a, ha, hq⟩ := ih hmax
      by_cases hlt : q < b.position
      · rw [if_pos hlt] at h
        exact ⟨b, List.mem_cons_self, h⟩
      · rw [if_neg hlt] at h
        exact ⟨a, List.mem_cons_of_mem b ha, hq.trans h⟩

theorem BelowLimits.exists_position (h : t.BelowLimits) (p : String) :
    ∃ position, Rows.nextPosition t p = .ok position := by
  unfold Rows.nextPosition
  cases hnext : Integer.next? ((Rows.maxPosition? (t.aliasesOf p)).getD (-1)) with
  | some position => exact ⟨position, rfl⟩
  | none =>
    have hlimit := Integer.next?_eq_none_iff.1 hnext
    cases hmax : Rows.maxPosition? (t.aliasesOf p) with
    | none =>
      rw [hmax] at hlimit
      exact absurd hlimit (by decide)
    | some m =>
      rw [hmax] at hlimit
      obtain ⟨a, ha, rfl⟩ := mem_of_maxPosition hmax
      exact absurd hlimit (h.positions a (mem_aliasesOf.1 ha).1)

/-! ## §2. The lists that change. -/

theorem isEmpty_listed (t : Tables) (p : String) :
    (t.listed p).isEmpty = (t.aliasesOf p).isEmpty :=
  (perm_sortRows _).isEmpty_eq

/-- A row beyond all others of its document comes last. -/
theorem listed_withAlias {row : AliasRow} (hdoc : row.document = p)
    (hlast : ∀ a ∈ t.aliasesOf p, a.position < row.position) :
    (t.withAlias row).listed p = t.listed p ++ [row] := by
  have hown : [row].filter (·.document == p) = [row] := by simp [hdoc]
  unfold listed
  rw [aliasesOf_withAlias, hown, sortRows_concat hlast]

theorem listed_withAlias_of_ne {row : AliasRow} {q : String} (hdoc : row.document ≠ q) :
    (t.withAlias row).listed q = t.listed q := by
  have hother : [row].filter (·.document == q) = [] := by simp [hdoc]
  unfold listed
  rw [aliasesOf_withAlias, hother, List.append_nil]

theorem listed_withoutAliases (t : Tables) (gone : AliasRow → Bool) (q : String) :
    (t.withoutAliases gone).listed q = (t.listed q).filter (!gone ·) := by
  have haliases : (t.withoutAliases gone).aliasesOf q = (t.aliasesOf q).filter (!gone ·) := by
    show (t.aliases.filter (!gone ·)).filter (·.document == q) = _
    unfold aliasesOf
    rw [List.filter_filter, List.filter_filter]
    apply List.filter_congr
    intro a _
    exact Bool.and_comm _ _
  unfold listed
  rw [haliases, sortRows_filter]

theorem listed_flagMoved (t : Tables) (p : String) (id : Uuid) (q : String) :
    (t.flagMoved p id).listed q = (t.listed q).map (promotedRow p id.render) := by
  unfold listed
  rw [aliasesOf_flagMoved, sortRows_map (promotedRow_position p id.render) (promotedRow_id p id.render)]

/-! ## §3. The replies. -/

theorem ensureDocument_of_document? {row : DocumentRow} (h : t.document? p = some row) :
    Rows.ensureDocument t p = .ok () :=
  Rows.ensureDocument_eq_ok_iff.2 (hasDocument_of_document? h)

/-- All changes of an alias begin with a look at the document. -/
theorem told_of_missing (h : t.document? p = none) (rest : Unit → Work Document) :
    t.told ((Work.query (Rows.ensureDocument · p) >>= rest).runOn t)
      = (.error (.documentNotFound p), t.book) := by
  have hensure : Rows.ensureDocument t p = .error (.documentNotFound p) := by
    unfold Rows.ensureDocument
    rw [hasDocument_of_none h]
    rfl
  rw [Work.runOn_query_bind_of_error hensure]
  rfl

/-- Removing and promoting look for the alias next. -/
theorem told_of_unowned {row : DocumentRow} (hrow : t.document? p = some row)
    (howned : Rows.ownedAlias t p n = .error (.aliasNotFound p n)) (rest : Alias → Work Document) :
    t.told ((Work.query (Rows.ensureDocument · p) >>= fun _ =>
        Work.query (Rows.ownedAlias · p n) >>= rest).runOn t)
      = (.error (.aliasNotFound n), t.book) := by
  rw [Work.runOn_query_bind (ensureDocument_of_document? hrow),
    Work.runOn_query_bind_of_error howned]
  rfl

/-- The alias of a document is found under the names of its entry, and under no other. -/
theorem Identity.ownedAlias_cases {row : DocumentRow} (h : t.Identity)
    (hrow : t.document? p = some row) (n : String) :
    (n ∉ (t.entry row).names ∧ Rows.ownedAlias t p n = .error (.aliasNotFound p n)) ∨
      ∃ a ∈ t.aliases, a.document = p ∧ a.name = n ∧ n ∈ (t.entry row).names := by
  obtain ⟨-, rfl⟩ := mem_of_document? hrow
  by_cases hmem : n ∈ (t.entry row).names
  · obtain ⟨a, ha, hdoc, hname⟩ := mem_names_entry.1 hmem
    exact Or.inr ⟨a, ha, hdoc, hname, hmem⟩
  · refine Or.inl ⟨hmem, ?_⟩
    unfold Rows.ownedAlias
    rw [h.findAlias_eq]
    cases hfound : t.alias? n with
    | none => rfl
    | some a =>
      obtain ⟨ha, hname⟩ := mem_of_alias? hfound
      have hdoc : a.decoded.document ≠ row.publicId :=
        fun hdoc => hmem (mem_names_entry.2 ⟨a, ha, hdoc, hname⟩)
      show (if a.decoded.document = row.publicId then Except.ok a.decoded else .error _) = _
      rw [if_neg hdoc]

/-- The first name of a document is its primary one, any later one leaves the primary one alone. -/
theorem primary_concat {rows : List AliasRow} {r : AliasRow}
    (hflag : r.flag = if rows.isEmpty then 1 else 0) :
    ((rows ++ [r]).find? (·.flag == 1)).map (·.name)
      = if rows.map (·.name) = [] then some r.name
        else (rows.find? (·.flag == 1)).map (·.name) := by
  cases rows with
  | nil =>
    have hset : (r.flag == 1) = true := by rw [hflag]; rfl
    simp [hset]
  | cons a rows =>
    have hunset : (r.flag == 1) = false := by rw [hflag]; rfl
    rw [List.find?_append]
    simp [hunset]

/-- The entry of a document with one more alias. -/
theorem entry_withAlias {row : DocumentRow} {r : AliasRow} {now version : Int64}
    (hid : row.publicId = p) (hversion : version.toInt = row.version.toInt + 1)
    (hdoc : r.document = p) (hlast : ∀ a ∈ t.aliasesOf p, a.position < r.position)
    (hflag : r.flag = if (t.aliasesOf p).isEmpty then 1 else 0) :
    ((t.withAlias r).touched p now version).entry (counted row now version)
      = { t.entry row with
          version := (t.entry row).version + 1
          names := (t.entry row).names ++ [r.name]
          primary := if (t.entry row).names = [] then some r.name else (t.entry row).primary } := by
  subst hid
  rw [← isEmpty_listed] at hflag
  rw [entry_touched, hversion]
  unfold entry
  rw [listed_withAlias hdoc hlast, List.map_append, primary_concat hflag]
  rfl

/-- **Appending a free name under a fresh id.** -/
theorem createAlias_reply (h : t.Identity) (hlimits : t.BelowLimits)
    (hfree : ∀ m ∈ t.names, m.name ≠ n) (hfresh : ∀ a ∈ t.aliases, a.id ≠ fresh.id.render) :
    t.told ((Work.createAlias fresh p n).runOn t) = t.book.append p n := by
  unfold Book.append
  rw [find_book]
  cases hrow : t.document? p with
  | none => exact told_of_missing hrow _
  | some row =>
    obtain ⟨-, hid⟩ := mem_of_document? hrow
    obtain ⟨version, hversion⟩ := hlimits.exists_version hrow
    obtain ⟨position, hposition⟩ := hlimits.exists_position p
    let r := t.newAlias fresh p n position
    have hlast : ∀ a ∈ t.aliasesOf p, a.position < r.position :=
      fun a ha => Int64.lt_iff_toInt_lt.2 (lt_nextPosition hposition a ha)
    -- nothing stops the change, so it is told with the entry that it leaves
    rw [h.runOn_createAlias hrow hfree hfresh hposition hversion]
    have hothers : ∀ q, q ≠ p → (t.withAlias r).listed q = t.listed q :=
      fun q hq => listed_withAlias_of_ne fun hdoc => hq hdoc.symm
    exact told_touched h.toClaims hrow rfl hothers (entry_withAlias hid hversion rfl hlast rfl)

/-! ### Removing. -/

/-- An alias is the primary one of its document exactly if its flag is set. -/
theorem Identity.primary_iff {row : DocumentRow} {a : AliasRow} (h : t.Identity)
    (ha : a ∈ t.aliases) (hdoc : a.document = row.publicId) :
    (t.entry row).primary = some a.name ↔ a.flag = 1 := by
  rw [primary_entry h.toIndexed]
  constructor
  · rintro ⟨b, hb, -, hset, hname⟩
    rw [← eq_of_key_eq h.aliasNames hb ha hname]
    exact hset
  · intro hset
    exact ⟨a, ha, hdoc, hset, rfl⟩

/-- The row with the id of an alias is the one with its name. -/
theorem Identity.selects_iff {a b : AliasRow} (h : t.Identity) (ha : a ∈ t.aliases)
    (hb : b ∈ t.aliases) : (b.id == a.decoded.id.render) = (b.name == a.name) := by
  rw [(h.sound a ha).render_decoded, Bool.eq_iff_iff, beq_iff_eq, beq_iff_eq]
  constructor
  · intro hid
    rw [eq_of_key_eq h.ids hb ha hid]
  · intro hname
    rw [eq_of_key_eq h.aliasNames hb ha hname]

/-- Removing a row by the id of its alias is removing it by its name. -/
theorem Identity.mem_withoutRow {a b : AliasRow} (h : t.Identity) (ha : a ∈ t.aliases) :
    b ∈ (t.withoutAliases (·.id == a.decoded.id.render)).aliases ↔
      b ∈ t.aliases ∧ b.name ≠ a.name := by
  have hfilter : b ∈ (t.withoutAliases (·.id == a.decoded.id.render)).aliases ↔
      b ∈ t.aliases ∧ (!(b.id == a.decoded.id.render)) = true := List.mem_filter
  rw [hfilter]
  constructor
  · rintro ⟨hb, hkeep⟩
    rw [h.selects_iff ha hb] at hkeep
    exact ⟨hb, by simpa using hkeep⟩
  · rintro ⟨hb, hne⟩
    rw [h.selects_iff ha hb]
    exact ⟨hb, by simpa using hne⟩

theorem names_withoutRow {a : AliasRow} (h : t.Identity) (ha : a ∈ t.aliases)
    (row : DocumentRow) :
    ((t.withoutAliases (·.id == a.decoded.id.render)).entry row).names
      = (t.entry row).names.filter (· != a.name) := by
  have hkeep : (t.listed row.publicId).filter (fun b => !(b.id == a.decoded.id.render))
      = (t.listed row.publicId).filter ((· != a.name) ∘ (·.name)) := by
    apply List.filter_congr
    intro b hb
    rw [h.selects_iff ha (mem_listed.1 hb).1]
    rfl
  unfold entry
  rw [listed_withoutAliases, hkeep, List.filter_map]

theorem listed_withoutRow_of_ne {a : AliasRow} {q : String} (h : t.Identity) (ha : a ∈ t.aliases)
    (hdoc : a.document = p) (hq : q ≠ p) :
    (t.withoutAliases (·.id == a.decoded.id.render)).listed q = t.listed q := by
  rw [listed_withoutAliases, List.filter_eq_self]
  intro b hb
  obtain ⟨hmem, hbdoc⟩ := mem_listed.1 hb
  rw [h.selects_iff ha hmem, Bool.not_eq_true', beq_eq_false_iff_ne]
  intro hname
  rw [eq_of_key_eq h.aliasNames hmem ha hname] at hbdoc
  exact hq (hbdoc.symm.trans hdoc)

/-- The last alias takes the primary flag with it; any other one that goes leaves it alone. -/
theorem primary_withoutRow {row : DocumentRow} {a : AliasRow} (h : t.Identity) (ha : a ∈ t.aliases)
    (hdoc : a.document = row.publicId)
    (hsole : a.flag = 1 → ∀ b ∈ t.aliasesOf row.publicId, b = a) :
    ((t.withoutAliases (·.id == a.decoded.id.render)).entry row).primary
      = if (t.entry row).primary = some a.name then none else (t.entry row).primary := by
  have hindexed : (t.withoutAliases (·.id == a.decoded.id.render)).Indexed :=
    h.toIndexed.withoutAliases
  by_cases hset : a.flag = 1
  · rw [if_pos ((h.primary_iff ha hdoc).2 hset), Option.eq_none_iff_forall_ne_some]
    intro m hm
    -- whatever were primary now would be a row beside the only one
    obtain ⟨b, hb, hbdoc, -, -⟩ := (primary_entry hindexed).1 hm
    obtain ⟨hbmem, hbname⟩ := (h.mem_withoutRow ha).1 hb
    exact hbname (congrArg AliasRow.name (hsole hset b (mem_aliasesOf.2 ⟨hbmem, hbdoc⟩)))
  · rw [if_neg fun hprimary => hset ((h.primary_iff ha hdoc).1 hprimary)]
    apply Option.ext
    intro m
    rw [primary_entry hindexed, primary_entry h.toIndexed]
    constructor
    · rintro ⟨b, hb, hb'⟩
      exact ⟨b, ((h.mem_withoutRow ha).1 hb).1, hb'⟩
    · rintro ⟨b, hb, hbdoc, hbset, hname⟩
      refine ⟨b, (h.mem_withoutRow ha).2 ⟨hb, ?_⟩, hbdoc, hbset, hname⟩
      intro hsame
      rw [eq_of_key_eq h.aliasNames hb ha hsame] at hbset
      exact hset hbset

/-- The entry of a document with one alias less. -/
theorem entry_withoutRow {row : DocumentRow} {a : AliasRow} {now version : Int64} (h : t.Identity)
    (hid : row.publicId = p) (hversion : version.toInt = row.version.toInt + 1)
    (ha : a ∈ t.aliases) (hdoc : a.document = p)
    (hsole : a.flag = 1 → ∀ b ∈ t.aliasesOf p, b = a) :
    ((t.withoutAliases (·.id == a.decoded.id.render)).touched p now version).entry
        (counted row now version)
      = { t.entry row with
          version := (t.entry row).version + 1
          names := (t.entry row).names.filter (· != a.name)
          primary := if (t.entry row).primary = some a.name then none
            else (t.entry row).primary } := by
  subst hid
  rw [entry_touched, names_withoutRow h ha, primary_withoutRow h ha hdoc hsole, hversion]
  rfl

/-- The primary alias does not go before its siblings. -/
theorem deleteAlias_refused {row : DocumentRow} {a : AliasRow} (hrow : t.document? p = some row)
    (howned : Rows.ownedAlias t p n = .ok a.decoded) (hset : a.flag = 1)
    (hmany : (t.aliasesOf p).length > 1) :
    t.told ((Work.deleteAlias fresh p n).runOn t)
      = (.error (.primaryRemovalForbidden n), t.book) := by
  unfold Work.deleteAlias
  rw [Work.runOn_query_bind (ensureDocument_of_document? hrow), Work.runOn_query_bind howned,
    Work.runOn_query_bind (q := fun t => .ok (t.aliasesOf p).length) rfl]
  have hguard : (a.decoded.primary && decide ((t.aliasesOf p).length > 1)) = true := by
    rw [Bool.and_eq_true, decide_eq_true_iff]
    exact ⟨beq_iff_eq.2 hset, hmany⟩
  rw [if_pos hguard]
  rfl

/-- Any other alias goes. -/
theorem deleteAlias_granted {row : DocumentRow} {a : AliasRow} (h : t.Identity)
    (hlimits : t.BelowLimits) (hrow : t.document? p = some row) (ha : a ∈ t.aliases)
    (hdoc : a.document = p)
    (hguard : ¬(a.decoded.primary = true ∧ (t.aliasesOf p).length > 1)) :
    let e := { t.entry row with
      version := (t.entry row).version + 1
      names := (t.entry row).names.filter (· != a.name)
      primary := if (t.entry row).primary = some a.name then none else (t.entry row).primary }
    t.told ((Work.deleteAlias fresh p a.name).runOn t) = (.ok e, t.book.put e) := by
  intro e
  obtain ⟨-, hid⟩ := mem_of_document? hrow
  obtain ⟨version, hversion⟩ := hlimits.exists_version hrow
  have hsole := sole_of_removable (mem_aliasesOf.2 ⟨ha, hdoc⟩) hguard
  rw [h.runOn_deleteAlias fresh hrow ha hdoc hguard hversion]
  exact told_touched h.toClaims hrow rfl (fun q hq => listed_withoutRow_of_ne h ha hdoc hq)
    (entry_withoutRow h hid hversion ha hdoc hsole)

/-- **Removing an alias.** -/
theorem deleteAlias_reply (h : t.Identity) (hlimits : t.BelowLimits) (fresh : Fresh)
    (p n : String) :
    t.told ((Work.deleteAlias fresh p n).runOn t) = t.book.remove p n := by
  unfold Book.remove
  rw [find_book]
  cases hrow : t.document? p with
  | none => exact told_of_missing hrow _
  | some row =>
    obtain ⟨-, hid⟩ := mem_of_document? hrow
    show _ = if n ∉ (t.entry row).names then _ else if _ then _ else _
    rcases h.ownedAlias_cases hrow n with ⟨hmem, howned⟩ | ⟨a, ha, hdoc, rfl, hmem⟩
    · rw [if_pos hmem]
      exact told_of_unowned hrow howned _
    · rw [if_neg (fun hnot => hnot hmem)]
      have hlength : (t.entry row).names.length = (t.aliasesOf p).length := by
        show ((t.listed row.publicId).map _).length = _
        rw [List.length_map, hid]
        exact (perm_sortRows _).length_eq
      have hprimary := h.primary_iff ha (hdoc.trans hid.symm)
      -- the book and the library refuse in the same case
      by_cases hsole : a.flag = 1 ∧ (t.aliasesOf p).length > 1
      · rw [if_pos ⟨hprimary.2 hsole.1, by omega⟩]
        exact deleteAlias_refused hrow (h.ownedAlias_eq ha hdoc) hsole.1 hsole.2
      · rw [if_neg fun hboth => hsole ⟨hprimary.1 hboth.1, by omega⟩]
        refine deleteAlias_granted h hlimits hrow ha hdoc ?_
        intro hboth
        exact hsole ⟨beq_iff_eq.1 hboth.1, hboth.2⟩

/-! ### Promoting. -/

/-- Rows of other documents are not touched. -/
theorem listed_flagMoved_of_ne {a : AliasRow} {q : String} (h : t.Identity) (ha : a ∈ t.aliases)
    (hdoc : a.document = p) (hq : q ≠ p) :
    (t.flagMoved p a.decoded.id).listed q = t.listed q := by
  rw [listed_flagMoved, (h.sound a ha).render_decoded]
  refine (List.map_congr_left fun b hb => ?_).trans (List.map_id _)
  obtain ⟨hmem, hbdoc⟩ := mem_listed.1 hb
  unfold promotedRow
  have hid : b.id ≠ a.id := by
    intro hid
    rw [eq_of_key_eq h.ids hmem ha hid] at hbdoc
    exact hq (hbdoc.symm.trans hdoc)
  rw [if_neg hid, if_neg fun hp => hq (hbdoc.symm.trans hp.1)]
  rfl

/-- The entry of a document with another primary alias. -/
theorem entry_flagMoved {row : DocumentRow} {a : AliasRow} {now version : Int64} (h : t.Identity)
    (hid : row.publicId = p) (hversion : version.toInt = row.version.toInt + 1)
    (ha : a ∈ t.aliases) (hdoc : a.document = p) :
    ((t.flagMoved p a.decoded.id).touched p now version).entry (counted row now version)
      = { t.entry row with
          version := (t.entry row).version + 1
          primary := some a.name } := by
  subst hid
  -- moving a flag keeps the order, so the names are the same list
  have hnames : ((t.flagMoved row.publicId a.decoded.id).entry row).names
      = (t.entry row).names := by
    unfold entry
    rw [listed_flagMoved, List.map_map]
    apply List.map_congr_left
    intro b _
    exact promotedRow_name _ _ b
  have hprimary : ((t.flagMoved row.publicId a.decoded.id).entry row).primary = some a.name := by
    rw [primary_entry (h.flagMoved ha hdoc).toIndexed, flagMoved_aliases,
      (h.sound a ha).render_decoded]
    refine ⟨promotedRow row.publicId a.id a, List.mem_map.2 ⟨a, ha, rfl⟩, ?_, ?_, ?_⟩
    · rw [promotedRow_document]
      exact hdoc
    · unfold promotedRow
      rw [if_pos rfl]
    · exact promotedRow_name _ _ a
  rw [entry_touched, hnames, hprimary, hversion]
  rfl

/-- Any other alias takes the flag over. -/
theorem promoteAlias_moved {row : DocumentRow} {a : AliasRow} (h : t.Identity)
    (hlimits : t.BelowLimits) (hrow : t.document? p = some row) (ha : a ∈ t.aliases)
    (hdoc : a.document = p)
    (hset : a.flag ≠ 1) :
    let e := { t.entry row with
      version := (t.entry row).version + 1
      primary := some a.name }
    t.told ((Work.promoteAlias fresh p a.name).runOn t) = (.ok e, t.book.put e) := by
  intro e
  obtain ⟨-, hid⟩ := mem_of_document? hrow
  obtain ⟨version, hversion⟩ := hlimits.exists_version hrow
  rw [h.runOn_promoteAlias fresh hrow ha hdoc hset hversion]
  exact told_touched h.toClaims hrow rfl (fun q hq => listed_flagMoved_of_ne h ha hdoc hq)
    (entry_flagMoved h hid hversion ha hdoc)

/-- **Making an alias primary.** -/
theorem promoteAlias_reply (h : t.Identity) (hlimits : t.BelowLimits) (fresh : Fresh)
    (p n : String) :
    t.told ((Work.promoteAlias fresh p n).runOn t) = t.book.promote p n := by
  unfold Book.promote
  rw [find_book]
  cases hrow : t.document? p with
  | none => exact told_of_missing hrow _
  | some row =>
    obtain ⟨-, hid⟩ := mem_of_document? hrow
    show _ = if n ∉ (t.entry row).names then _ else if _ then _ else _
    rcases h.ownedAlias_cases hrow n with ⟨hmem, howned⟩ | ⟨a, ha, hdoc, rfl, hmem⟩
    · rw [if_pos hmem]
      exact told_of_unowned hrow howned _
    · rw [if_neg (fun hnot => hnot hmem)]
      have hprimary := h.primary_iff ha (hdoc.trans hid.symm)
      by_cases hset : a.flag = 1
      · rw [if_pos (hprimary.2 hset)]
        rw [h.runOn_promoteAlias_primary fresh hrow ha hdoc hset]
        show (Except.ok (t.documentOf row).entry, t.book) = _
        rw [entry_documentOf]
      · rw [if_neg fun hsome => hset (hprimary.1 hsome)]
        exact promoteAlias_moved h hlimits hrow ha hdoc hset

end Tables

end Namebook
