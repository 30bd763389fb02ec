/-
  Namebook.Proofs.Damage
  ──────────────────────
  **DAMAGE IS REPORTED — unless the call itself has mended it.**

  A call about a damaged document fails with an internal error and leaves the store as it was.  Where
  a change would mend the document this is left open: changes look at what they leave behind and not
  at what they found.  That a primary alias is not the last one is told first.

    • `Database.damage_is_reported` — resolving, adding, removing and promoting;
    • `Database.damage_goes_unreported` — two stores on which the reservations matter;
    • `Database.lasting_damage_is_reported`, `Database.damage_is_mended_iff` — which damage a removal and
      a promotion mend, said by the rows that they find.
-/
import Namebook.Proofs.Change
import Namebook.Proofs.Repository.Damage
import Namebook.Proofs.Service.Alone

namespace Namebook

/-- An error that clients can do nothing about. -/
def ServiceError.IsInternal (e : ServiceError) : Prop := e.kind = .internal

/-- A name that nobody uses: not as an alias, not as a public id, and not in the index. -/
structure Tables.Unused (t : Tables) (n : String) : Prop extends t.Free n where
  unclaimed : ∀ m ∈ t.names, m.name ≠ n

theorem Tables.Unused.not_inUse {t : Tables} {n : String} (h : t.Unused n) : ¬Rows.InUse t n := by
  rintro (⟨m, hm, hname⟩ | ⟨a, ha, hname⟩)
  · exact h.unclaimed m hm hname
  · exact find?_key_eq_none_iff.1 h.noAlias a ha hname

namespace Database

open ServiceError

variable {db : Database} {c : Connection} {supply : Supply} {k m : Nat} {reserved : ReservedNames}
  {p n : String} {row : AliasRow}

/-! ## §1. Calls that fail. -/

/-- A call fails with an error in `Q` and leaves the store as it was. -/
structure Fails (db : Database) (c : Connection) (supply : Supply) (reserved : ReservedNames)
    (s : ServiceCall) (Q : ServiceError → Prop) : Prop where
  error : ∃ e, (db.call c supply (s.dialogue reserved)).value = .error e ∧ Q e
  unchanged : (db.call c supply (s.dialogue reserved)).state = db

theorem Fails.ne_ok {s : ServiceCall} {Q : ServiceError → Prop} (h : db.Fails c supply reserved s Q)
    (v : s.Found) : (db.call c supply (s.dialogue reserved)).value ≠ .ok v := by
  obtain ⟨e, herror, -⟩ := h.error
  rw [herror]
  nofun

/-- A call whose result is an error fails. -/
theorem fails_of_result {s : ServiceCall} {Q : ServiceError → Prop}
    (h : ∃ e rest, Call.result (serve c supply.fresh) supply.blocks (s.dialogue reserved)
      ((db, 0), 0) = (.error e, rest) ∧ Q e) : db.Fails c supply reserved s Q := by
  obtain ⟨e, rest, hresult, hQ⟩ := h
  have hvalue : (db.call c supply (s.dialogue reserved)).value = .error e :=
    congrArg (fun o => o.1) hresult
  exact ⟨⟨e, hvalue, hQ⟩, call_of_error (s.settled_dialogue reserved) hvalue⟩

/-! ## §2. The check of a new name. -/

/-- **The check of an unused name** is passed by a connection that reads what is committed, and fails
with an internal error on any other. -/
theorem result_checkNew_cases (supply : Supply) (k m : Nat)
    (hname : Call.checkName reserved n = .ok ()) (hunused : ∀ t, db.view c = .ok t → t.Unused n) :
    (∃ e rest, Call.result (serve c supply.fresh) supply.blocks
        (AliasService.checkNew reserved n) ((db, k), m) = (.error e, rest) ∧ e.IsInternal) ∨
      (db.committed.Unused n ∧ Call.result (serve c supply.fresh) supply.blocks
        (AliasService.checkNew reserved n) ((db, k), m) = (.ok (), (db, k + 2), m)) := by
  by_cases hreads : ∃ t, db.Reads c t
  · obtain ⟨t, hreads⟩ := hreads
    have hfree : t.Unused n := hunused t hreads.view
    rw [← hreads.eq_committed]
    exact Or.inr ⟨hfree, hreads.result_checkNew supply hname hfree.toFree⟩
  · left
    unfold AliasService.checkNew Call.findAliasByName Call.findByPublicId
    rw [Call.result_bind, Call.result_answer, hname]
    dsimp only
    rw [Call.result_bind]
    have hfault := lookup_blames db c (supply.fresh k) (r := .findAliasByName n) rfl
    cases halias : (db.answer c (supply.fresh k) (.findAliasByName n)).1 with
    | error e =>
      rw [halias] at hfault
      rw [result_refused halias]
      exact ⟨_, _, rfl, hfault⟩
    | ok found =>
      -- in a transaction of its own the connection sees no alias either, but has no snapshot
      have hread : db.read c (Rows.findAlias · n) = .ok found := halias
      obtain ⟨t, hview, hfound⟩ := read_eq_ok_iff.1 hread
      cases (hunused t hview).findAlias.symm.trans hfound
      rw [result_lookup (Prod.ext halias (answer_of_lookup rfl))]
      dsimp only
      rw [if_neg (by simp), Call.result_bind]
      obtain ⟨e, hdoc, hfault⟩ := exists_error_of_blames
        (lookup_blames db c (supply.fresh (k + 1)) (r := .findByPublicId n) rfl) fun found hfound =>
          hreads ((Reads.of_findByPublicId hfound).imp fun t h => h.1)
      rw [result_refused hdoc]
      exact ⟨_, _, rfl, hfault⟩

/-! ## §3. Calls about a damaged document. -/

/-- A document that cannot be loaded is not resolved. -/
theorem fails_resolve (h : db.committed.Damaged p) :
    db.Fails c supply reserved (.resolve p) IsInternal := by
  obtain ⟨e, herror, hfault⟩ := findByPublicId_refused c (supply.fresh 0) h
  refine fails_of_result ⟨.ofRepository e, ((db, 1), 0), ?_, hfault⟩
  show Call.result _ _ (DocumentService.resolve p) _ = _
  unfold DocumentService.resolve Call.findByPublicId
  rw [Call.result_logged, Call.result_bind, result_refused herror]

/-- A fault is passed on as it is. -/
theorem claimFailure_of_fault {e : RepositoryError} (h : e.IsFault) :
    AliasService.claimFailure n e = throw (ServiceError.ofRepository e) := by
  cases e with
  | nameTaken m => cases h
  | _ => rfl

theorem fails_add (h : db.committed.Damaged p) (hname : Call.checkName reserved n = .ok ())
    (hunused : ∀ t, db.view c = .ok t → t.Unused n) :
    db.Fails c supply reserved (.add p n) IsInternal := by
  rcases result_checkNew_cases supply 0 0 hname hunused with
    ⟨e, rest, hcheck, hinternal⟩ | ⟨hfree, hcheck⟩
  · refine fails_of_result ⟨e, rest, ?_, hinternal⟩
    show Call.result _ _ (AliasService.add reserved p n) _ = _
    unfold AliasService.add
    rw [Call.result_logged, Call.result_bind, hcheck]
  · obtain ⟨e, herror, hfault⟩ := createAlias_refused c (supply.fresh 2) h hfree.not_inUse
    refine fails_of_result ⟨.ofRepository e, ((db, 3), 0), ?_, hfault⟩
    show Call.result _ _ (AliasService.add reserved p n) _ = _
    unfold AliasService.add
    rw [Call.result_logged, Call.result_bind, hcheck]
    dsimp only
    rw [Call.result_report]
    unfold AliasService.create
    rw [result_asked, herror, answer_of_error herror]
    dsimp only
    rw [claimFailure_of_fault hfault]
    rfl

theorem fails_remove (h : db.committed.Damaged p) (hrow : db.committed.alias? n = some row)
    (howner : row.document = p)
    (hleft : ∀ a, Rows.decodeAlias row = .ok a →
      ¬(a.primary = true ∧ (db.committed.aliasesOf p).length > 1) →
      (db.committed.withoutAliases (·.id == a.id.render)).Damaged p) :
    db.Fails c supply reserved (.remove p n) fun e => e.IsInternal ∨
      e = .primaryRemovalForbidden n ∧ (db.committed.aliasesOf p).length > 1 ∧ row.flag = 1 := by
  obtain ⟨e, herror, hcase⟩ := deleteAlias_refused c (supply.fresh 0) h.hasDocument hrow howner hleft
  refine fails_of_result ⟨.ofRepository e, ((db, 1), 0), ?_,
    hcase.imp_right fun hsole => ⟨by rw [hsole.1]; rfl, hsole.2⟩⟩
  show Call.result _ _ (AliasService.remove p n) _ = _
  unfold AliasService.remove
  rw [Call.result_logged, Call.result_report, result_refused herror]

/-- A promotion that is refused with a fault every time fails with one, however often it is tried. -/
theorem result_promoteFrom_refused (supply : Supply)
    (h : ∀ k, ∃ e, (db.answer c (supply.fresh k) (.promoteAlias p n)).1 = .error e ∧ e.IsFault)
    (attempt left k m : Nat) :
    ∃ e rest, Call.result (serve c supply.fresh) supply.blocks
      (AliasService.promoteFrom p n attempt left) ((db, k), m) = (.error e, rest) ∧ e.IsInternal := by
  have htry : ∀ (onBusy : RepositoryError → Call Document) (k m : Nat),
      (∀ e, ∃ e' rest, Call.result (serve c supply.fresh) supply.blocks (onBusy e) ((db, k + 1), m)
        = (.error e', rest) ∧ e'.IsInternal) →
      ∃ e rest, Call.result (serve c supply.fresh) supply.blocks
        (AliasService.tryPromote p n onBusy) ((db, k), m) = (.error e, rest) ∧ e.IsInternal := by
    intro onBusy k m hbusy
    obtain ⟨e, herror, hfault⟩ := h k
    unfold AliasService.tryPromote
    rw [result_asked, herror, answer_of_error herror]
    dsimp only
    split
    · exact hbusy e
    · exact ⟨_, _, rfl, hfault⟩
  induction left generalizing attempt k m with
  | zero => exact htry _ k m fun e => ⟨_, _, rfl, rfl⟩
  | succ left ih => exact htry _ k m fun e => ih (attempt + 1) (k + 1) m

theorem fails_promote (h : db.committed.Damaged p) (hrow : db.committed.alias? n = some row)
    (howner : row.document = p)
    (hleft : ∀ a, Rows.decodeAlias row = .ok a → a.primary = false →
      (db.committed.flagMoved p a.id).Damaged p) :
    db.Fails c supply reserved (.promote p n) IsInternal := by
  obtain ⟨e, rest, hresult, hinternal⟩ := result_promoteFrom_refused supply
    (fun k => promoteAlias_refused c (supply.fresh k) h hrow howner hleft) 1
    (AliasService.promoteAttempts - 1) 0 0
  refine fails_of_result ⟨e, rest, ?_, hinternal⟩
  show Call.result _ _ (AliasService.promote p n) _ = _
  unfold AliasService.promote
  rw [Call.result_logged, Call.result_report, hresult]

/-! ## §4. The main result. -/

/-- **Damage is reported.**  Whatever the store holds and whoever has locked it: a damaged document is
not resolved, and it gets no alias.  None of its aliases is removed if that leaves it damaged, and none
is promoted if that leaves it damaged.  All these calls fail with an internal error, unless the alias
to remove is primary and not the last one; and they leave the store as it was. -/
theorem damage_is_reported (db : Database) (c : Connection) (supply : Supply)
    (reserved : ReservedNames) (p : String) (h : db.committed.Damaged p) :
    db.Fails c supply reserved (.resolve p) IsInternal ∧
    (∀ n, Call.checkName reserved n = .ok () → (∀ t, db.view c = .ok t → t.Unused n) →
      db.Fails c supply reserved (.add p n) IsInternal) ∧
    ∀ n row, db.committed.alias? n = some row → row.document = p →
      ((∀ a, Rows.decodeAlias row = .ok a →
          ¬(a.primary = true ∧ (db.committed.aliasesOf p).length > 1) →
          (db.committed.withoutAliases (·.id == a.id.render)).Damaged p) →
        db.Fails c supply reserved (.remove p n) fun e => e.IsInternal ∨
          e = .primaryRemovalForbidden n ∧ (db.committed.aliasesOf p).length > 1 ∧ row.flag = 1) ∧
      ((∀ a, Rows.decodeAlias row = .ok a → a.primary = false →
          (db.committed.flagMoved p a.id).Damaged p) →
        db.Fails c supply reserved (.promote p n) IsInternal) :=
  ⟨fails_resolve h, fun _ hname hunused => fails_add h hname hunused, fun _ _ hrow howner =>
    ⟨fun hleft => fails_remove h hrow howner hleft, fun hleft => fails_promote h hrow howner hleft⟩⟩

/-- A document with an alias whose id is none beside two in order. -/
def scarred : Database :=
  { empty with
    committed :=
      { names := [⟨"d", "public_id"⟩, ⟨"a", "alias"⟩, ⟨"b", "alias"⟩, ⟨"x", "alias"⟩]
        documents := [⟨"d", 3, 0, 0⟩]
        aliases := [⟨Uuid.render ⟨1⟩, "a", "d", 1, 0⟩, ⟨Uuid.render ⟨2⟩, "b", "d", 0, 1⟩,
          ⟨"none", "x", "d", 0, 2⟩]
        onePrimary := true } }

theorem damage_is_reported_scarred :
    scarred.committed.Damaged "d" ∧
    scarred.Fails 1 plainSupply ⟨[]⟩ (.resolve "d") IsInternal ∧
    scarred.Fails 1 plainSupply ⟨[]⟩ (.add "d" "n") IsInternal ∧
    scarred.Fails 1 plainSupply ⟨[]⟩ (.remove "d" "b") IsInternal ∧
    scarred.Fails 1 plainSupply ⟨[]⟩ (.promote "d" "b") IsInternal := by
  let scar : AliasRow := ⟨"none", "x", "d", 0, 2⟩
  have hscar : scar ∈ scarred.committed.aliasesOf "d" := by decide
  have hlost : ¬∃ a, Rows.decodeAlias scar = .ok a :=
    fun h => absurd (Rows.decodable_iff.1 h).1 (by decide)
  have hdamaged : scarred.committed.Damaged "d" :=
    (Tables.damaged_iff rfl).2 fun hwhole => hlost (hwhole.decodable scar hscar)
  have hunused : ∀ t, scarred.view 1 = .ok t → t.Unused "n" := by
    intro t ht
    cases ht
    exact ⟨⟨rfl, rfl⟩, by decide⟩
  obtain ⟨hresolve, hadd, hothers⟩ :=
    damage_is_reported scarred 1 plainSupply ⟨[]⟩ "d" hdamaged
  obtain ⟨hremove, hpromote⟩ := hothers "b" ⟨Uuid.render ⟨2⟩, "b", "d", 0, 1⟩ rfl rfl
  -- neither change touches the row whose id is none
  have hremoved : ∀ u : Uuid,
      (scarred.committed.withoutAliases (·.id == u.render)).Damaged "d" := by
    refine fun u => (Tables.damaged_iff rfl).2 fun hwhole => ?_
    have hne : "none" ≠ u.render := by
      intro heq
      cases (show Uuid.parse? "none" = none by decide).symm.trans (heq ▸ Uuid.parse?_render u)
    exact hlost (((Tables.whole_withoutAliases_iff _ _ _).1 hwhole).decodable scar hscar hne)
  have hmoved : ∀ u : Uuid, (scarred.committed.flagMoved "d" u).Damaged "d" := by
    refine fun u => (Tables.damaged_iff rfl).2 fun hwhole => ?_
    have hid := ((Tables.whole_flagMoved_iff _ _ _).1 hwhole).ids scar hscar
    exact absurd hid (by decide)
  -- this alias is not primary, so its removal is not rejected for that
  obtain ⟨⟨e, herror, hcase⟩, hkept⟩ := hremove fun a _ _ => hremoved a.id
  exact ⟨hdamaged, hresolve, hadd "n" rfl hunused,
    ⟨⟨e, herror, hcase.resolve_right fun h => absurd h.2.2 (by decide)⟩, hkept⟩,
    hpromote fun a _ _ => hmoved a.id⟩

/-- A document with an alias for each flag that other programs have set, two at most. -/
def flagged (flags : List Int64) : Database :=
  let rows : List AliasRow := [⟨Uuid.render ⟨1⟩, "a", "d", 0, 0⟩, ⟨Uuid.render ⟨2⟩, "b", "d", 0, 1⟩]
  let aliases := rows.zipWith (fun row flag => { row with flag }) flags
  { empty with
    committed :=
      { names := ⟨"d", "public_id"⟩ :: aliases.map fun row => ⟨row.name, "alias"⟩
        documents := [⟨"d", 1, 0, 0⟩]
        aliases
        onePrimary := false } }

/-- **Damage can go unreported.**  Promoting an alias mends a document without a primary alias, and so
does removing its only alias; and where two aliases are primary, removing one of them is rejected as if
it were the primary alias. -/
theorem damage_goes_unreported :
    let outcome (flags : List Int64) (s : ServiceCall) :=
      ((flagged flags).call 1 plainSupply (s.dialogue ⟨[]⟩)).value
    (∀ flags ∈ [[0, 0], [0], [1, 1]], (flagged flags).committed.Damaged "d" ∧
      ∃ row, (flagged flags).committed.alias? "a" = some row ∧ row.document = "d") ∧
    (∃ d : Document, outcome [0, 0] (.promote "d" "a") = .ok d) ∧
    (∃ d : Document, outcome [0] (.remove "d" "a") = .ok d) ∧
    outcome [1, 1] (.remove "d" "a") = .error (.primaryRemovalForbidden "a") := by
  intro outcome
  refine ⟨fun flags hflags => ⟨?_, ?_⟩, ⟨_, rfl⟩, ⟨_, rfl⟩, rfl⟩
  · -- no flag, or two of them
    have hcount : (flagged flags).committed.aliasesOf "d" ≠ [] ∧
        ((flagged flags).committed.aliasesOf "d").countP (·.flag == 1) ≠ 1 := by
      revert flags
      decide
    have hrow : (flagged flags).committed.document? "d" = some ⟨"d", 1, 0, 0⟩ := rfl
    exact (Tables.damaged_iff hrow).2 fun hwhole => hwhole.primary.elim hcount.1 hcount.2
  · have hrow : (((flagged flags).committed.alias? "a").map (·.document)) = some "d" := by
      revert flags
      decide
    exact Option.map_eq_some_iff.1 hrow

/-! ## §5. What a change mends. -/

/-- **Lasting damage is reported**, whoever has locked the store: a removal and a promotion that would not
mend the rows of a damaged document fail and leave the store as it was. -/
theorem lasting_damage_is_reported (c : Connection) (supply : Supply) (reserved : ReservedNames)
    (h : db.committed.Damaged p) (hrow : db.committed.alias? n = some row)
    (howner : row.document = p) :
    ((∀ a, Rows.decodeAlias row = .ok a →
        ¬(a.primary = true ∧ (db.committed.aliasesOf p).length > 1) →
        ¬db.committed.RemovalMends p a.id) →
      db.Fails c supply reserved (.remove p n) fun e => e.IsInternal ∨
        e = .primaryRemovalForbidden n ∧ (db.committed.aliasesOf p).length > 1 ∧ row.flag = 1) ∧
    ((∀ a, Rows.decodeAlias row = .ok a → a.primary = false → ¬db.committed.PromotionMends p a.id) →
      db.Fails c supply reserved (.promote p n) IsInternal) := by
  constructor
  · intro hlasts
    refine fails_remove h hrow howner fun a ha hsole => h.lasts rfl fun hwhole => ?_
    exact hlasts a ha hsole ((Tables.whole_withoutAliases_iff _ p a.id).1 hwhole)
  · intro hlasts
    refine fails_promote h hrow howner fun a ha hprimary => h.lasts rfl fun hwhole => ?_
    exact hlasts a ha hprimary ((Tables.whole_flagMoved_iff _ p a.id).1 hwhole)

/-- **What is mended, exactly.**  Where no transaction is open, no id is stored twice and the version can
be counted up, a removal about a damaged document succeeds if and only if its row is read, is not a
primary one among others, and mends the document by going; and a promotion if and only if its row is
read, is not primary, and mends the document by becoming primary. -/
theorem damage_is_mended_iff {doc : DocumentRow} (hidle : db.Idle) (c : Connection) (supply : Supply)
    (reserved : ReservedNames) (h : db.committed.Damaged p)
    (hids : db.committed.aliases.Pairwise fun a b => a.id ≠ b.id)
    (hdoc : db.committed.document? p = some doc) (hversion : doc.version.toInt ≠ Integer.greatest)
    (hrow : db.committed.alias? n = some row) (howner : row.document = p) :
    ((∃ d : Document, (db.call c supply ((ServiceCall.remove p n).dialogue reserved)).value = .ok d) ↔
      ∃ a, Rows.decodeAlias row = .ok a ∧
        ¬(a.primary = true ∧ (db.committed.aliasesOf p).length > 1) ∧
        db.committed.RemovalMends p a.id) ∧
    ((∃ d : Document, (db.call c supply ((ServiceCall.promote p n).dialogue reserved)).value = .ok d) ↔
      ∃ a, Rows.decodeAlias row = .ok a ∧ a.primary = false ∧
        db.committed.PromotionMends p a.id) := by
  obtain ⟨version, hnext⟩ := Integer.exists_next hversion
  obtain ⟨hremove, hpromote⟩ := lasting_damage_is_reported c supply reserved h hrow howner
  constructor
  · constructor
    · rintro ⟨d, hvalue⟩
      by_contra hlasts
      exact (hremove fun a ha hsole hmends => hlasts ⟨a, ha, hsole, hmends⟩).ne_ok d hvalue
    · rintro ⟨a, ha, hsole, hmends⟩
      obtain ⟨d, t, hrun⟩ := Work.deleteAlias_of_mends (supply.fresh 0) hdoc hnext hrow howner
        ha hsole hmends
      exact ⟨d, (hidle.call_remove_granted c hrun).1⟩
  · constructor
    · rintro ⟨d, hvalue⟩
      by_contra hlasts
      exact (hpromote fun a ha hprimary hmends => hlasts ⟨a, ha, hprimary, hmends⟩).ne_ok d hvalue
    · rintro ⟨a, ha, hprimary, hmends⟩
      obtain ⟨d, t, hrun⟩ := Work.promoteAlias_of_mends (supply.fresh 0) hids hdoc hnext hrow
        howner ha hprimary hmends
      exact ⟨d, (hidle.call_promote_granted c hrun).1⟩

end Database

end Namebook
