/-
  Namebook.Proofs.Repository.Counters
  ───────────────────────────────────
  **COUNTING UP — versions and positions of a store of any content.**

  Two sums are formed when an alias is created and one when it is deleted or promoted.  Both are exact
  or stop the transaction, whatever integers another program has stored:

    • `Counts`, `Work.counted` — the requests that count a change of a document, and by how much;
    • `Rows.nextPosition_eq_ok_iff`, `Work.appended` — where a new alias goes;
    • `Exceeds`, `Prevented`, `Work.stopped` — what becomes of a request whose sum is out of range;
    • `Work.promoteAlias_of_primary` — a promotion that needs no sum.
-/
import Namebook.Proofs.Repository.Frame
import Namebook.Proofs.Repository.Reply

namespace Namebook

/-! ## §1. The two sums. -/

namespace Rows

variable {t : Tables} {p : String}

/-- **The position of a new alias**: zero if it is the first, and else one more than the greatest. -/
theorem nextPosition_eq_ok_iff {position : Int64} :
    nextPosition t p = .ok position ↔
      (t.aliasesOf p = [] ∧ position = 0) ∨
        ∃ b ∈ t.aliasesOf p, (∀ a ∈ t.aliasesOf p, a.position.toInt ≤ b.position.toInt) ∧
          position.toInt = b.position.toInt + 1 := by
  -- the sum is formed from the greatest position, or from -1 if there is none
  have hsum : nextPosition t p = .ok position ↔
      position.toInt = ((maxPosition? (t.aliasesOf p)).getD (-1)).toInt + 1 := by
    rw [← Integer.next?_eq_some_iff]
    unfold nextPosition
    cases Integer.next? ((maxPosition? (t.aliasesOf p)).getD (-1)) with
    | none => exact ⟨fun h => (by cases h), fun h => (by cases h)⟩
    | some q => exact ⟨fun h => (by cases h; rfl), fun h => (by cases h; rfl)⟩
  rw [hsum]
  cases hmax : maxPosition? (t.aliasesOf p) with
  | none =>
    have hempty : t.aliasesOf p = [] := by
      refine List.eq_nil_iff_forall_not_mem.2 fun a ha => ?_
      obtain ⟨m, hm, -⟩ := Tables.le_maxPosition ha
      cases hmax.symm.trans hm
    have hfirst : position.toInt = (-1 : Int64).toInt + 1 ↔ position = 0 := by
      rw [← Int64.toInt_inj]
      rfl
    rw [Option.getD_none, hfirst, hempty]
    simp
  | some m =>
    obtain ⟨b, hb, rfl⟩ := Tables.mem_of_maxPosition hmax
    have hgreatest : ∀ a ∈ t.aliasesOf p, a.position.toInt ≤ b.position.toInt := by
      intro a ha
      obtain ⟨m, hm, hle⟩ := Tables.le_maxPosition ha
      cases hmax.symm.trans hm
      exact hle
    rw [Option.getD_some]
    constructor
    · intro h
      exact Or.inr ⟨b, hb, hgreatest, h⟩
    · rintro (⟨hempty, -⟩ | ⟨b', hb', hgreatest', h⟩)
      · rw [hempty] at hb
        cases hb
      · -- two greatest rows have one position
        have hle := hgreatest b' hb'
        have hge := hgreatest' b hb
        omega

/-- A version at the greatest integer is not counted up. -/
theorem touch_of_exceeds {row : DocumentRow} (hrow : t.document? p = some row)
    (h : Integer.greatest < row.version.toInt + 1) (now : Int64) :
    touch p now t = .error (.store (.engine (.overflow 1 "version"))) := by
  have hnone : Integer.next? row.version = none := by
    cases hnext : Integer.next? row.version with
    | none => rfl
    | some w =>
      have hw := Integer.next?_eq_some_iff.1 hnext
      have hlt := Int64.toInt_lt w
      unfold Integer.greatest at h
      omega
  unfold touch
  rw [hrow]
  dsimp only
  rw [hnone]

end Rows

/-! ## §2. Requests that count. -/

namespace Tables

/-- **The requests that count a change** of the document `p`: additions, removals, and promotions of an
alias that is not primary yet. -/
inductive Counts (t : Tables) (p : String) : Request → Prop where
  | added (n : String) : Counts t p (.createAlias p n)
  | removed (n : String) : Counts t p (.deleteAlias p n)
  | moved {n : String} {row : AliasRow} : t.alias? n = some row → row.flag ≠ 1 →
      Counts t p (.promoteAlias p n)

/-- **The version has gone up by one**, as an integer, in the store and in the returned document. -/
structure Counted (t t' : Tables) (p : String) (d : Document) (row row' : DocumentRow) : Prop where
  before : t.document? p = some row
  after : t'.document? p = some row'
  exact : row'.version.toInt = row.version.toInt + 1
  returned : d.publicId = p ∧ d.version = row'.version

/-- **A new alias stands behind all others of its document**, and comes last in the returned one. -/
structure Appended (t t' : Tables) (p n : String) (d : Document) (row : AliasRow) : Prop where
  rows : t'.aliasesOf p = t.aliasesOf p ++ [row]
  name : row.name = n
  behind : ∀ b ∈ t.aliasesOf p, b.position.toInt < row.position.toInt
  first : t.aliasesOf p = [] → row.position = 0
  next : t.aliasesOf p ≠ [] → ∃ b ∈ t.aliasesOf p, row.position.toInt = b.position.toInt + 1
  last : d.aliases.getLast?.map Alias.name = some n

variable {t t' : Tables} {p n : String} {fresh : Fresh} {d : Document}

/-- A document is returned with the version of its row. -/
theorem Counted.of_touched {row : DocumentRow} {version : Int64} (hrow : t.document? p = some row)
    (hsame : t'.document? p = t.document? p) (hversion : version.toInt = row.version.toInt + 1)
    (hload : Rows.loadRequired (t'.touched p fresh.now version) p = .ok d) :
    Counted t (t'.touched p fresh.now version) p d row { row with version, updatedAt := fresh.now } := by
  have hafter : (t'.touched p fresh.now version).document? p
      = some { row with version, updatedAt := fresh.now } := by
    rw [document?_touched_eq, hsame, hrow, Option.map_some, if_pos rfl]
  refine ⟨hrow, hafter, hversion, ?_⟩
  obtain ⟨r, hr, hassemble, -⟩ :=
    loadDocument_eq_some_iff.1 (loadRequired_eq_ok_iff_loadDocument.1 hload)
  cases hafter.symm.trans hr
  have hread := (Rows.assemble_eq_ok_iff.1 hassemble).2
  exact ⟨(congrArg DocumentRow.publicId hread).symm.trans (mem_of_document? hrow).2,
    (congrArg DocumentRow.version hread).symm⟩

/-- The aliases of a loaded document are named as its rows, in the order of the rows. -/
theorem names_of_loaded (hload : Rows.loadRequired t p = .ok d) :
    d.aliases.map Alias.name = (sortRows (t.aliasesOf p)).map AliasRow.name := by
  obtain ⟨row, hrow, hassemble, -⟩ :=
    loadDocument_eq_some_iff.1 (loadRequired_eq_ok_iff_loadDocument.1 hload)
  have hread := Rows.mapM_decodeAlias_eq_ok_iff.1 (Rows.assemble_eq_ok_iff.1 hassemble).1
  rw [(mem_of_document? hrow).2] at hread
  have hnames := congrArg (List.map fun x => x.2.1) hread
  rw [List.map_map, List.map_map] at hnames
  exact hnames.symm

end Tables

namespace Work

open Tables

variable {fresh : Fresh} {t t' : Tables} {p n : String} {d : Document}

/-- **A granted request that counts a change counts one.** -/
theorem counted {r : Request} {w : Work Document} (hcounts : t.Counts p r)
    (hwork : r.work? fresh = some w) (hrun : w.runOn t = (.ok d, t')) :
    ∃ row row', Counted t t' p d row row' := by
  cases hcounts with
  | added n =>
    cases hwork
    obtain ⟨-, -, position, row, version, -, -, hrow, hversion, rfl, hload⟩ :=
      createAlias_eq_ok_iff.1 hrun
    exact ⟨row, _, Counted.of_touched hrow rfl hversion hload⟩
  | removed n =>
    cases hwork
    obtain ⟨-, a, row, version, -, -, hrow, hversion, rfl, hload⟩ := deleteAlias_eq_ok_iff.1 hrun
    exact ⟨row, _, Counted.of_touched hrow rfl hversion hload⟩
  | moved hfound hflag =>
    cases hwork
    obtain ⟨-, a, howned, hload, hcase⟩ := promoteAlias_eq_ok_iff.1 hrun
    rcases hcase with ⟨hprimary, -⟩ | ⟨-, row, version, -, hrow, hversion, rfl⟩
    · obtain ⟨row, hown⟩ := Rows.owned_of_ok howned
      cases hfound.symm.trans hown.found
      exact absurd (hown.flag_iff.2 hprimary) hflag
    · exact ⟨row, _, Counted.of_touched hrow rfl hversion hload⟩

/-- **A granted alias comes last.** -/
theorem appended (hrun : (createAlias fresh p n).runOn t = (.ok d, t')) :
    ∃ row, Appended t t' p n d row := by
  obtain ⟨-, -, position, -, version, hposition, -, -, -, rfl, hload⟩ :=
    createAlias_eq_ok_iff.1 hrun
  have hbehind := lt_nextPosition hposition
  have hrows : (t.aliasAdded fresh p n position version).aliasesOf p
      = t.aliasesOf p ++ [t.newAlias fresh p n position] := by
    show (t.withAlias (t.newAlias fresh p n position)).aliasesOf p = _
    rw [aliasesOf_withAlias]
    exact congrArg _ (List.filter_cons_of_pos (beq_self_eq_true p))
  refine ⟨t.newAlias fresh p n position, hrows, rfl, hbehind, fun hempty => ?_, fun hne => ?_, ?_⟩
  · rcases Rows.nextPosition_eq_ok_iff.1 hposition with ⟨-, hzero⟩ | ⟨b, hb, -⟩
    · exact hzero
    · rw [hempty] at hb
      cases hb
  · rcases Rows.nextPosition_eq_ok_iff.1 hposition with ⟨hempty, -⟩ | ⟨b, hb, -, hnext⟩
    · exact absurd hempty hne
    · exact ⟨b, hb, hnext⟩
  · -- the document lists its rows by position, and no other row stands as far behind
    rw [← List.getLast?_map, names_of_loaded hload, hrows,
      sortRows_concat fun b hb => Int64.lt_iff_toInt_lt.2 (hbehind b hb), List.map_append]
    exact List.getLast?_concat

end Work

/-! ## §3. Sums out of range. -/

/-- Whatever stops a computation is the error that it ends with. -/
theorem blames_self {α : Type} {Q : RepositoryError → Prop} {x : Except RepositoryError α}
    (h : ∀ e, x = .error e → Q e) : Blames Q x := by
  cases x with
  | ok a => exact trivial
  | error e => exact h e rfl

namespace Tables

/-- **A sum that a request needs is greater than the greatest integer.** -/
inductive Exceeds (t : Tables) : Request → Prop where
  | version {p : String} {r : Request} {row : DocumentRow} : t.Counts p r →
      t.document? p = some row → Integer.greatest < row.version.toInt + 1 → Exceeds t r
  | position {p n : String} {a : AliasRow} : a ∈ t.aliasesOf p →
      Integer.greatest < a.position.toInt + 1 → Exceeds t (.createAlias p n)

/-- **The checks that come before a sum**, each with the error that it stops a request with. -/
inductive Prevented (t : Tables) : Request → RepositoryError → Prop where
  | missing {p : String} {r : Request} : t.Counts p r → t.hasDocument p = false →
      Prevented t r (.documentNotFound p)
  | unreadable {p n : String} {e : RepositoryError} : Rows.nameClaim t n = .error e →
      Prevented t (.createAlias p n) e
  | taken {p n : String} : Rows.InUse t n → Prevented t (.createAlias p n) (.nameTaken n)
  | notRemovable {p n : String} {e : RepositoryError} : Rows.ownedAlias t p n = .error e →
      Prevented t (.deleteAlias p n) e
  | notSole {p n : String} {a : Alias} : Rows.ownedAlias t p n = .ok a → a.primary = true →
      1 < (t.aliasesOf p).length →
      Prevented t (.deleteAlias p n) (.primaryNotSole p n (t.aliasesOf p).length)
  | notPromotable {p n : String} {e : RepositoryError} : Rows.ownedAlias t p n = .error e →
      Prevented t (.promoteAlias p n) e

end Tables

namespace Work

open Tables RepositoryError

variable {fresh : Fresh} {t t' : Tables} {p n : String} {d : Document} {r : Request} {w : Work Document}

/-- Every change of an alias ends with counting it, which a version at the greatest integer stops. -/
theorem blames_finish_of_exceeds {Q : RepositoryError → Prop} {row : DocumentRow}
    (hrow : t.document? p = some row) (h : Integer.greatest < row.version.toInt + 1)
    (hQ : ∀ e, e.OfStore → Q e) :
    (do change (Rows.touch p fresh.now)
        query (Rows.loadRequired · p) : Work Document).Blames Q t := by
  have hstop := Rows.touch_of_exceeds hrow h fresh.now
  refine blames_change_bind ?_ fun t' htouch => by cases hstop.symm.trans htouch
  rw [hstop]
  exact hQ _ ⟨_, rfl⟩

theorem createAlias_stopped (h : t.Exceeds (.createAlias p n)) :
    (createAlias fresh p n).Blames (fun e => e.OfStore ∨ t.Prevented (.createAlias p n) e) t := by
  unfold createAlias
  refine blames_ensure (fun hnone => Or.inr (.missing (.added n) hnone)) fun _ => ?_
  refine blames_query_bind (blames_self fun e he => Or.inr (.unreadable he)) fun claim hclaim => ?_
  refine blames_guard (fun hsome => ?_) fun _ => ?_
  · refine Or.inr (.taken (Rows.nameClaim_inUse fun hnone => ?_))
    cases hclaim.symm.trans hnone
    cases hsome
  refine blames_query_bind trivial fun primary _ => ?_
  refine blames_query_bind ((Rows.nextPosition_blames t p).mono fun e => Or.inl)
    fun position hposition => ?_
  cases h with
  | position ha hexceeds =>
    -- a position was found, so it is in range
    have hlt := lt_nextPosition hposition _ ha
    have hrange := Int64.toInt_lt position
    unfold Integer.greatest at hexceeds
    omega
  | version hcounts hrow hexceeds =>
    cases hcounts
    refine blames_change_bind ((Rows.insertAlias_blames _ _ t).mono fun e he => ?_)
      fun t' hinsert => ?_
    · refine he.imp_right fun htaken => ?_
      rw [htaken.1]
      exact .taken htaken.2
    · obtain ⟨-, rfl⟩ := Rows.insertAlias_eq_ok_iff.1 hinsert
      exact blames_finish_of_exceeds hrow hexceeds fun e => Or.inl

theorem deleteAlias_stopped (h : t.Exceeds (.deleteAlias p n)) :
    (deleteAlias fresh p n).Blames (fun e => e.OfStore ∨ t.Prevented (.deleteAlias p n) e) t := by
  unfold deleteAlias
  refine blames_ensure (fun hnone => Or.inr (.missing (.removed n) hnone)) fun _ => ?_
  refine blames_query_bind (blames_self fun e he => Or.inr (.notRemovable he)) fun a howned => ?_
  refine blames_query_bind trivial fun count hcount => ?_
  injection hcount with hcount
  subst hcount
  refine blames_guard (fun hmany => ?_) fun _ => ?_
  · obtain ⟨hprimary, hmany⟩ := Bool.and_eq_true_iff.1 hmany
    exact Or.inr (.notSole howned hprimary (of_decide_eq_true hmany))
  refine blames_change_bind trivial fun t' hdelete => ?_
  injection hdelete with hdelete
  subst hdelete
  cases h with
  | version hcounts hrow hexceeds =>
    cases hcounts
    refine blames_finish_of_exceeds ?_ hexceeds fun e => Or.inl
    unfold Rows.deleteAlias
    rw [removeAliases_eq]
    exact hrow

theorem promoteAlias_stopped (h : t.Exceeds (.promoteAlias p n)) :
    (promoteAlias fresh p n).Blames (fun e => e.OfStore ∨ t.Prevented (.promoteAlias p n) e) t := by
  cases h with
  | version hcounts hrow hexceeds =>
  cases hcounts with
  | moved hfound hflag =>
  unfold promoteAlias
  refine blames_ensure (fun hnone => Or.inr (.missing (.moved hfound hflag) hnone)) fun _ => ?_
  refine blames_query_bind (blames_self fun e he => Or.inr (.notPromotable he)) fun a howned => ?_
  cases hprimary : a.primary with
  | true =>
    obtain ⟨found, hown⟩ := Rows.owned_of_ok howned
    cases hfound.symm.trans hown.found
    exact absurd (hown.flag_iff.2 hprimary) hflag
  | false =>
    refine blames_change_bind trivial fun t' hdemote => ?_
    injection hdemote with hdemote
    subst hdemote
    refine blames_change_bind ((Rows.promote_blames a.id _).mono fun e => Or.inl) fun t' hset => ?_
    obtain ⟨-, rfl⟩ := setFlag_eq_ok_iff.1 (Rows.promote_eq_ok_iff.1 hset)
    exact blames_finish_of_exceeds hrow hexceeds fun e => Or.inl

/-- **What stops a request whose sum is out of range**: an earlier check, or the store. -/
theorem stopped (h : t.Exceeds r) (hwork : r.work? fresh = some w) :
    w.Blames (fun e => e.OfStore ∨ t.Prevented r e) t := by
  cases r with
  | createAlias p n =>
    cases hwork
    exact createAlias_stopped h
  | deleteAlias p n =>
    cases hwork
    exact deleteAlias_stopped h
  | promoteAlias p n =>
    cases hwork
    exact promoteAlias_stopped h
  | _ =>
    cases h with
    | version hcounts _ _ => cases hcounts

/-- **No request is granted whose sum is out of range.** -/
theorem ne_ok_of_exceeds (h : t.Exceeds r) (hwork : r.work? fresh = some w) :
    w.runOn t ≠ (.ok d, t') := by
  intro hrun
  -- a granted request stores the sum, and what is stored is in range
  cases h with
  | version hcounts hrow hexceeds =>
    obtain ⟨row, row', hcounted⟩ := counted hcounts hwork hrun
    cases hrow.symm.trans hcounted.before
    have hrange := Int64.toInt_lt row'.version
    have hexact := hcounted.exact
    unfold Integer.greatest at hexceeds
    omega
  | position ha hexceeds =>
    cases hwork
    obtain ⟨row, happended⟩ := appended hrun
    have hlt := happended.behind _ ha
    have hrange := Int64.toInt_lt row.position
    unfold Integer.greatest at hexceeds
    omega

/-! ## §4. No sum at all. -/

/-- **A promotion of the alias that is primary already changes nothing**, whatever the version. -/
theorem promoteAlias_of_primary {row : AliasRow} (hload : Rows.loadDocument t p = .ok (some d))
    (hfound : t.alias? n = some row) (howner : row.document = p) (hflag : row.flag = 1) :
    (promoteAlias fresh p n).runOn t = (.ok d, t) := by
  have hrequired := loadRequired_eq_ok_iff_loadDocument.2 hload
  obtain ⟨stored, hstored, -⟩ := loadDocument_eq_some_iff.1 hload
  obtain ⟨a, hdecode⟩ := (whole_of_loadRequired hrequired).decodable row
    (mem_aliasesOf.2 ⟨(mem_of_alias? hfound).1, howner⟩)
  have hread := Rows.decodeAlias_eq_ok_iff.1 hdecode
  simp only [Prod.mk.injEq] at hread
  obtain ⟨-, -, hdocument, hprimary⟩ := hread
  have howned : Rows.ownedAlias t p n = .ok a := by
    unfold Rows.ownedAlias
    rw [Rows.findAlias_of_row hfound, hdecode]
    exact if_pos (hdocument.symm.trans howner)
  refine promoteAlias_eq_ok_iff.2 ⟨hasDocument_of_document? hstored, a, howned, hrequired,
    Or.inl ⟨?_, rfl⟩⟩
  cases hset : a.primary with
  | true => rfl
  | false =>
    rw [hset, hflag] at hprimary
    exact absurd hprimary (by decide)

end Work

end Namebook
