/-
  Namebook.Proofs.Repository.Refusal
  ──────────────────────────────────
  **WHY A REQUEST IS REFUSED.**

  A refusal tells a client what it can act on, or else a fault: something that is wrong with the
  store and nothing that the client has asked for.  `Work.Blames Q` says that whatever stops a
  transaction is in `Q`; `…_blames` names, for each change, the refusals other than faults together
  with what they say of the tables.
-/
import Namebook.Proofs.Repository.Loading
import Namebook.Service.Error

namespace Namebook

/-- An error that says nothing of what was asked: clients are told of it as internal. -/
def RepositoryError.IsFault (e : RepositoryError) : Prop :=
  (ServiceError.ofRepository e).kind = .internal

/-- An error of the store itself. -/
def RepositoryError.OfStore (e : RepositoryError) : Prop := ∃ s, e = .store s

theorem RepositoryError.OfStore.isFault {e : RepositoryError} (h : e.OfStore) : e.IsFault := by
  obtain ⟨s, rfl⟩ := h
  rfl

/-- Whatever stops a computation is in `Q`. -/
def Blames {α : Type} (Q : RepositoryError → Prop) : Except RepositoryError α → Prop
  | .ok _ => True
  | .error e => Q e

section

variable {α β : Type} {Q Q' : RepositoryError → Prop}

theorem Blames.mono {x : Except RepositoryError α} (h : Blames Q x) (hQ : ∀ e, Q e → Q' e) :
    Blames Q' x := by
  cases x with
  | ok a => exact trivial
  | error e => exact hQ e h

theorem blames_bind {x : Except RepositoryError β} {f : β → Except RepositoryError α}
    (hx : Blames Q x) (hf : ∀ b, x = .ok b → Blames Q (f b)) : Blames Q (x >>= f) := by
  cases x with
  | ok b => exact hf b rfl
  | error e => exact hx

theorem blames_map {x : Except RepositoryError β} {f : β → α} (hx : Blames Q x) :
    Blames Q (f <$> x) := by
  cases x with
  | ok b => exact trivial
  | error e => exact hx

theorem blames_mapM {f : β → Except RepositoryError α} {rows : List β} (hf : ∀ b, Blames Q (f b)) :
    Blames Q (rows.mapM f) := by
  induction rows with
  | nil => exact trivial
  | cons b rows ih =>
    rw [List.mapM_cons]
    refine blames_bind (hf b) fun a _ => blames_bind ih fun as _ => ?_
    exact trivial

end

/-! ## §1. Reading. -/

namespace Rows

open RepositoryError

theorem decodeAlias_blames (row : AliasRow) : Blames IsFault (decodeAlias row) := by
  unfold decodeAlias
  split
  · exact rfl
  · split
    · exact trivial
    · split
      · exact trivial
      · exact rfl

theorem assemble_blames (t : Tables) (row : DocumentRow) : Blames IsFault (assemble t row) := by
  unfold assemble
  exact blames_bind (blames_mapM decodeAlias_blames) fun _ _ => trivial

theorem validated_blames (d : Document) : Blames IsFault (validated d) := by
  unfold validated
  split
  · exact trivial
  · exact rfl

/-- **A document that cannot be loaded is a fault of the store.** -/
theorem loadDocument_blames (t : Tables) (p : String) : Blames IsFault (loadDocument t p) := by
  unfold loadDocument
  split
  · exact trivial
  · exact blames_bind (assemble_blames t _) fun d _ => blames_map (validated_blames d)

theorem loadRequired_blames {t : Tables} {p : String} (h : t.hasDocument p = true) :
    Blames IsFault (loadRequired t p) := by
  unfold loadRequired
  refine blames_bind (loadDocument_blames t p) fun found hfound => ?_
  cases found with
  | some d => exact trivial
  | none =>
    -- nothing is found only where nothing is stored
    rw [Tables.hasDocument_of_none (Tables.loadDocument_eq_none_iff.1 hfound)] at h
    cases h

theorem findAlias_blames (t : Tables) (n : String) : Blames IsFault (findAlias t n) := by
  unfold findAlias
  split
  · exact trivial
  · exact blames_map (decodeAlias_blames _)

theorem findByAlias_blames (t : Tables) (n : String) : Blames IsFault (findByAlias t n) := by
  unfold findByAlias
  split
  · exact trivial
  · exact loadDocument_blames t _

theorem nameClaim_blames (t : Tables) (n : String) : Blames IsFault (nameClaim t n) := by
  unfold nameClaim
  split
  · exact trivial
  · split
    · exact trivial
    · exact rfl

theorem nextPosition_blames (t : Tables) (p : String) : Blames OfStore (nextPosition t p) := by
  unfold nextPosition
  split
  · exact trivial
  · exact ⟨_, rfl⟩

end Rows

/-! ## §2. Transactions. -/

namespace Work

variable {α β : Type} {Q : RepositoryError → Prop} {t : Tables}

/-- Whatever stops some work on these tables is in `Q`. -/
def Blames (Q : RepositoryError → Prop) (w : Work α) (t : Tables) : Prop :=
  Namebook.Blames Q (w.runOn t).1

theorem blames_query {q : Tables → Except RepositoryError α} (h : Namebook.Blames Q (q t)) :
    (query q).Blames Q t := h

/-- Work that goes on where its first part has ended. -/
theorem blames_bind {x : Work β} {f : β → Work α} (hx : x.Blames Q t)
    (hf : ∀ b t', x.runOn t = (.ok b, t') → (f b).Blames Q t') : (x >>= f).Blames Q t := by
  unfold Blames at *
  rw [runOn_bind]
  cases hrun : x.runOn t with
  | mk r t' =>
    rw [hrun] at hx
    cases r with
    | ok b => exact hf b t' hrun
    | error e => exact hx

theorem blames_query_bind {q : Tables → Except RepositoryError β} {f : β → Work α}
    (hq : Namebook.Blames Q (q t)) (hf : ∀ b, q t = .ok b → (f b).Blames Q t) :
    (query q >>= f).Blames Q t := by
  refine blames_bind (blames_query hq) fun b t' hrun => ?_
  obtain ⟨hb, rfl⟩ := runOn_query_eq_ok_iff.1 hrun
  exact hf b hb

theorem blames_change_bind {g : Tables → Except RepositoryError Tables} {f : Unit → Work α}
    (hg : Namebook.Blames Q (g t)) (hf : ∀ t', g t = .ok t' → (f ()).Blames Q t') :
    (change g >>= f).Blames Q t := by
  refine blames_bind ?_ fun u t' hrun => hf t' (runOn_change_eq_ok_iff.1 hrun)
  unfold Blames
  rw [runOn_change]
  cases hchange : g t with
  | ok t' => exact trivial
  | error e =>
    rw [hchange] at hg
    exact hg

/-- A test that stops the work if it is met. -/
theorem blames_guard {c : Bool} {e : RepositoryError} {rest : Work α} (he : c = true → Q e)
    (hrest : c = false → rest.Blames Q t) :
    (do if c = true then throw e
        rest : Work α).Blames Q t := by
  cases c
  · exact hrest rfl
  · exact he rfl

end Work

/-! ## §3. The steps of a change. -/

namespace Rows

open RepositoryError

variable {t : Tables} {p n : String}

theorem ensureDocument_blames (t : Tables) (p : String) :
    Blames (fun e => e = .documentNotFound p ∧ t.hasDocument p = false) (ensureDocument t p) := by
  unfold ensureDocument
  split
  · exact trivial
  next h => exact ⟨rfl, Bool.eq_false_iff.2 h⟩

/-- A name that is in use, be it in the index or as an alias. -/
def InUse (t : Tables) (n : String) : Prop :=
  (∃ m ∈ t.names, m.name = n) ∨ ∃ a ∈ t.aliases, a.name = n

/-- **A row is refused for its name only if the name is in use.** -/
theorem insertAlias_blames (a : Alias) (position : Int64) (t : Tables) :
    Blames (fun e => e.OfStore ∨ e = .nameTaken a.name ∧ InUse t a.name)
      (insertAlias a position t) := by
  show Blames _ ((t.insertAlias Rules.all (aliasRow a position)).mapError (claimError a.name))
  rw [Tables.insertAlias_eq]
  -- six refusals, two of which are for the name
  split
  · exact Or.inl ⟨_, rfl⟩
  split
  · exact Or.inl ⟨_, rfl⟩
  split
  next hname =>
    obtain ⟨b, hb, heq⟩ := List.any_eq_true.1 hname
    exact Or.inr ⟨rfl, Or.inr ⟨b, hb, beq_iff_eq.1 heq⟩⟩
  split
  · exact Or.inl ⟨_, rfl⟩
  split
  next hname =>
    obtain ⟨m, hm, heq⟩ := List.any_eq_true.1 hname
    exact Or.inr ⟨rfl, Or.inl ⟨m, hm, beq_iff_eq.1 heq⟩⟩
  split
  · exact trivial
  · exact Or.inl ⟨_, rfl⟩

theorem insertDocument_blames (p : String) (now : Int64) (t : Tables) :
    Blames (fun e => e.IsFault ∨ e = .nameTaken p) (insertDocument p now t) := by
  unfold insertDocument Tables.insertDocument
  rw [Tables.claim_eq]
  split
  · exact Or.inr rfl
  split
  · exact Or.inr rfl
  · exact trivial

theorem nameClaim_inUse (h : nameClaim t n ≠ .ok none) : InUse t n := by
  by_contra hfree
  refine h (nameClaim_eq_none_iff.2 fun m hm hname => ?_)
  exact hfree (Or.inl ⟨m, hm, hname⟩)

/-- An alias that is not found is nobody's, or another document's. -/
theorem ownedAlias_blames (t : Tables) (p n : String) :
    Blames (fun e => e.IsFault ∨ e = .aliasNotFound p n ∧ ∃ found, findAlias t n = .ok found ∧
      ∀ a ∈ found, a.document ≠ p) (ownedAlias t p n) := by
  unfold ownedAlias
  refine blames_bind ((findAlias_blames t n).mono fun e => Or.inl) fun found hfound => ?_
  cases found with
  | none => exact Or.inr ⟨rfl, none, hfound, fun a ha => by cases ha⟩
  | some a =>
    dsimp only
    split
    · exact trivial
    next hdoc =>
      refine Or.inr ⟨rfl, some a, hfound, fun b hb => ?_⟩
      cases hb
      exact hdoc

theorem promote_blames (id : Uuid) (t : Tables) : Blames OfStore (promote id t) := by
  unfold promote
  cases t.setFlag Rules.all (·.id == id.render) 1 with
  | ok t' => exact trivial
  | error e => exact ⟨_, rfl⟩

theorem touch_blames (h : t.hasDocument p = true) (now : Int64) :
    Blames IsFault (touch p now t) := by
  unfold touch
  split
  next hrow =>
    rw [Tables.hasDocument_of_none hrow] at h
    cases h
  next row hrow =>
    split
    · exact rfl
    · exact trivial

end Rows

theorem Tables.hasDocument_touched {t : Tables} {p q : String} (h : t.hasDocument q = true)
    (now version : Int64) : (t.touched p now version).hasDocument q = true := by
  obtain ⟨d, hd, hid⟩ := hasDocument_iff.1 h
  have hmem : q ∈ (t.touched p now version).documents.map DocumentRow.publicId := by
    rw [touched_publicIds]
    exact List.mem_map.2 ⟨d, hd, hid⟩
  obtain ⟨e, he, heq⟩ := List.mem_map.1 hmem
  exact hasDocument_iff.2 ⟨e, he, heq⟩

theorem Tables.hasDocument_withDocument (t : Tables) (row : DocumentRow) :
    (t.withDocument row).hasDocument row.publicId = true :=
  hasDocument_iff.2 ⟨row, List.mem_append_right _ (List.mem_singleton_self row), rfl⟩

/-! ## §4. The four changes. -/

namespace Work

open RepositoryError

variable {t : Tables} {Q : RepositoryError → Prop}

/-- Every change of an alias ends so: it is counted, and the document is loaded. -/
theorem blames_finish {p : String} (h : t.hasDocument p = true) (now : Int64)
    (hQ : ∀ e, e.IsFault → Q e) :
    (do change (Rows.touch p now)
        query (Rows.loadRequired · p) : Work Document).Blames Q t := by
  refine blames_change_bind ((Rows.touch_blames h now).mono hQ) fun t' htouch => ?_
  obtain ⟨row, version, -, -, rfl⟩ := Tables.touch_eq_ok_iff.1 htouch
  exact blames_query ((Rows.loadRequired_blames (Tables.hasDocument_touched h _ _)).mono hQ)

/-- Every change of an alias begins with a look at its document. -/
theorem blames_ensure {p : String} {rest : Unit → Work Document}
    (hmissing : t.hasDocument p = false → Q (.documentNotFound p))
    (hrest : t.hasDocument p = true → (rest ()).Blames Q t) :
    (query (Rows.ensureDocument · p) >>= rest).Blames Q t := by
  refine blames_query_bind ?_ fun u hensure => hrest (Rows.ensureDocument_eq_ok_iff.1 hensure)
  refine (Rows.ensureDocument_blames t p).mono fun e he => ?_
  rw [he.1]
  exact hmissing he.2

/-- **Why an alias is not created**: its document is missing, or its name is in use, or there is a
fault. -/
theorem createAlias_blames (fresh : Fresh) (p n : String) (t : Tables) :
    (createAlias fresh p n).Blames (fun e => e.IsFault ∨
      (e = .documentNotFound p ∧ t.hasDocument p = false) ∨
      (e = .nameTaken n ∧ Rows.InUse t n)) t := by
  unfold createAlias
  refine blames_ensure (fun hmissing => Or.inr (Or.inl ⟨rfl, hmissing⟩)) fun hdoc => ?_
  refine blames_query_bind ((Rows.nameClaim_blames t n).mono fun e => Or.inl) fun claim hclaim => ?_
  refine blames_guard (fun hsome => ?_) fun _ => ?_
  · refine Or.inr (Or.inr ⟨rfl, Rows.nameClaim_inUse fun hnone => ?_⟩)
    cases hclaim.symm.trans hnone
    cases hsome
  · refine blames_query_bind trivial fun primary _ => ?_
    refine blames_query_bind ((Rows.nextPosition_blames t p).mono fun e he => Or.inl he.isFault)
      fun position _ => ?_
    refine blames_change_bind ((Rows.insertAlias_blames _ _ t).mono fun e he => ?_) fun t' hinsert => ?_
    · exact he.imp OfStore.isFault Or.inr
    · obtain ⟨-, rfl⟩ := Rows.insertAlias_eq_ok_iff.1 hinsert
      have hkept : (t.withAlias (Rows.aliasRow
          { id := fresh.id, name := n, primary, document := p } position)).hasDocument p = true :=
        hdoc
      exact blames_finish hkept _ fun e => Or.inl

/-- **Why an alias is not deleted**: its document is missing, or it is no alias of the document, or
it is primary and not the last, or there is a fault. -/
theorem deleteAlias_blames (fresh : Fresh) (p n : String) (t : Tables) :
    (deleteAlias fresh p n).Blames (fun e => e.IsFault ∨
      (e = .documentNotFound p ∧ t.hasDocument p = false) ∨
      (e = .aliasNotFound p n ∧ ∃ found, Rows.findAlias t n = .ok found ∧
        ∀ a ∈ found, a.document ≠ p) ∨
      (e = .primaryNotSole p n (t.aliasesOf p).length ∧ (t.aliasesOf p).length > 1 ∧
        ∃ a, Rows.ownedAlias t p n = .ok a ∧ a.primary = true)) t := by
  unfold deleteAlias
  refine blames_ensure (fun hmissing => Or.inr (Or.inl ⟨rfl, hmissing⟩)) fun hdoc => ?_
  refine blames_query_bind ((Rows.ownedAlias_blames t p n).mono fun e he => ?_) fun a howned => ?_
  · exact he.imp_right fun h => Or.inr (Or.inl h)
  · refine blames_query_bind trivial fun count hcount => ?_
    injection hcount with hcount
    subst hcount
    refine blames_guard (fun hmany => ?_) fun _ => ?_
    · obtain ⟨hprimary, hmany⟩ := Bool.and_eq_true_iff.1 hmany
      exact Or.inr (Or.inr (Or.inr ⟨rfl, of_decide_eq_true hmany, a, howned, hprimary⟩))
    · refine blames_change_bind trivial fun t' hdelete => ?_
      injection hdelete with hdelete
      subst hdelete
      have hkept : (Rows.deleteAlias a.id t).hasDocument p = true := by
        unfold Rows.deleteAlias
        rw [Tables.removeAliases_eq]
        exact hdoc
      exact blames_finish hkept _ fun e => Or.inl

/-- **Why an alias is not promoted**: its document is missing, or it is no alias of the document, or
there is a fault. -/
theorem promoteAlias_blames (fresh : Fresh) (p n : String) (t : Tables) :
    (promoteAlias fresh p n).Blames (fun e => e.IsFault ∨
      (e = .documentNotFound p ∧ t.hasDocument p = false) ∨
      (e = .aliasNotFound p n ∧ ∃ found, Rows.findAlias t n = .ok found ∧
        ∀ a ∈ found, a.document ≠ p)) t := by
  unfold promoteAlias
  refine blames_ensure (fun hmissing => Or.inr (Or.inl ⟨rfl, hmissing⟩)) fun hdoc => ?_
  refine blames_query_bind ((Rows.ownedAlias_blames t p n).mono fun e he => ?_) fun a _ => ?_
  · exact he.imp_right Or.inr
  · cases hprimary : a.primary with
    | true => exact blames_query ((Rows.loadRequired_blames hdoc).mono fun e => Or.inl)
    | false =>
      refine blames_change_bind trivial fun t' hdemote => ?_
      injection hdemote with hdemote
      subst hdemote
      refine blames_change_bind ((Rows.promote_blames a.id _).mono fun e he => Or.inl he.isFault)
        fun t' hset => ?_
      obtain ⟨-, rfl⟩ := Tables.setFlag_eq_ok_iff.1 (Rows.promote_eq_ok_iff.1 hset)
      have hkept : ((Rows.demoteAll p t).updateAliases (·.id == a.id.render)
          ({ · with flag := 1 })).hasDocument p = true := hdoc
      exact blames_finish hkept _ fun e => Or.inl

theorem ensureUnclaimed_blames (n : String) (t : Tables) :
    (ensureUnclaimed n).Blames (fun e => e.IsFault ∨ e = .nameTaken n ∧ Rows.InUse t n) t := by
  unfold ensureUnclaimed
  refine blames_query_bind ((Rows.nameClaim_blames t n).mono fun e => Or.inl) fun claim hclaim => ?_
  cases claim with
  | none => exact trivial
  | some k =>
    refine Or.inr ⟨rfl, Rows.nameClaim_inUse fun hnone => ?_⟩
    cases hclaim.symm.trans hnone

/-- **Why a document is not created**: its public id is taken, or its alias is in use, or there is a
fault. -/
theorem createDocument_blames (fresh : Fresh) (p : String) (initial : Option String) (t : Tables) :
    (createDocument fresh p initial).Blames (fun e => e.IsFault ∨ e = .nameTaken p ∨
      ∃ n ∈ initial, e = .nameTaken n ∧ Rows.InUse t n) t := by
  unfold createDocument
  refine blames_bind ?_ fun u t' hunclaimed => ?_
  · exact Namebook.Blames.mono (ensureUnclaimed_blames p t) fun e => Or.imp_right fun h => Or.inl h.1
  obtain ⟨-, rfl⟩ := ensureUnclaimed_eq_ok_iff.1 hunclaimed
  have hinsert : Namebook.Blames (fun e => e.IsFault ∨ e = .nameTaken p ∨
      ∃ n ∈ initial, e = .nameTaken n ∧ Rows.InUse t n) (Rows.insertDocument p fresh.now t) :=
    (Rows.insertDocument_blames p fresh.now t).mono fun e => Or.imp_right Or.inl
  cases initial with
  | none =>
    refine blames_change_bind hinsert fun t' hinserted => ?_
    obtain ⟨-, -, rfl⟩ := Rows.insertDocument_eq_ok_iff.1 hinserted
    have hnew := Tables.hasDocument_withDocument t ⟨p, 0, fresh.now, fresh.now⟩
    exact blames_query ((Rows.loadRequired_blames hnew).mono fun e => Or.inl)
  | some n =>
    dsimp only
    split
    next hname => exact Or.inr (Or.inl (by rw [hname]))
    next hname =>
    refine blames_bind ?_ fun u t' hunclaimed => ?_
    · exact Namebook.Blames.mono (ensureUnclaimed_blames n t)
        fun e => Or.imp_right fun h => Or.inr ⟨n, rfl, h⟩
    obtain ⟨hfree, rfl⟩ := ensureUnclaimed_eq_ok_iff.1 hunclaimed
    refine blames_change_bind hinsert fun t' hinserted => ?_
    obtain ⟨-, -, rfl⟩ := Rows.insertDocument_eq_ok_iff.1 hinserted
    refine blames_change_bind ((Rows.insertAlias_blames _ _ _).mono fun e he => ?_) fun t' hadded => ?_
    · -- the claim of the new document is another one, so the name was in use before
      refine he.imp OfStore.isFault fun h => Or.inr ⟨n, rfl, h.1, ?_⟩
      rcases h.2 with ⟨m, hm, hmn⟩ | hbears
      · rcases List.mem_append.1 hm with hm | hm
        · exact Or.inl ⟨m, hm, hmn⟩
        · rw [List.mem_singleton.1 hm] at hmn
          exact absurd hmn.symm hname
      · exact Or.inr hbears
    · obtain ⟨-, rfl⟩ := Rows.insertAlias_eq_ok_iff.1 hadded
      have hnew := Tables.hasDocument_withDocument t ⟨p, 0, fresh.now, fresh.now⟩
      have hkept : ((t.withDocument ⟨p, 0, fresh.now, fresh.now⟩).withAlias (Rows.aliasRow
          { id := fresh.id, name := n, primary := true, document := p } 0)).hasDocument p = true :=
        hnew
      exact blames_query ((Rows.loadRequired_blames hkept).mono fun e => Or.inl)

end Work

/-! ## §5. Requests. -/

namespace Database

open RepositoryError

variable {α : Type} {Q : RepositoryError → Prop} {db : Database} {c : Connection} {fresh : Fresh}

/-- A query is stopped by itself, or by a lock. -/
theorem read_blames {query : Tables → Except RepositoryError α} (h : ∀ t, Blames IsFault (query t)) :
    Blames IsFault (db.read c query) := by
  unfold read
  split
  · exact rfl
  · exact h _

theorem snapshot_blames {query : Tables → Except RepositoryError α}
    (h : ∀ t, Blames IsFault (query t)) : Blames IsFault (db.snapshot c query) := by
  unfold snapshot
  split
  · exact rfl
  · exact read_blames h

/-- **A look-up fails with a fault only.** -/
theorem lookup_blames (db : Database) (c : Connection) (fresh : Fresh) {r : Request}
    (h : r.isChange = false) :
    Blames IsFault (db.answer c fresh r).1 := by
  cases r with
  | findAliasByName n => exact read_blames fun t => Rows.findAlias_blames t n
  | findByPublicId p => exact snapshot_blames fun t => Rows.loadDocument_blames t p
  | findByAlias n => exact snapshot_blames fun t => Rows.findByAlias_blames t n
  | _ => cases h

/-- **A change is stopped by its work on the committed tables, or by a lock.** -/
theorem write_blames_ofEngine {body : Work α} (h : body.Blames Q db.committed)
    (hQ : ∀ e, Q (.ofEngine e)) : Blames Q (db.write c body).1 := by
  unfold Work.Blames at h
  rw [write_eq]
  split
  · exact hQ _
  split
  next e t hrun =>
    rw [hrun] at h
    exact h
  next a t hrun =>
    split
    · exact hQ _
    · exact trivial

theorem write_blames {body : Work α} (h : body.Blames Q db.committed)
    (hQ : ∀ e, e.IsFault → Q e) : Blames Q (db.write c body).1 :=
  write_blames_ofEngine h fun _ => hQ _ rfl

end Database

end Namebook
