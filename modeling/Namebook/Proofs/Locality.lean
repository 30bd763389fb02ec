/-
  Namebook.Proofs.Locality
  ────────────────────────
  **A CALL LOOKS AT ITS DOCUMENT AND ITS NAME, AND LEAVES THE REST ALONE.**

  Two stores agree on the document and the name of a call; otherwise they may hold anything, and damage
  of any kind.  Then the call answers the same on both and changes the same rows in the same way.

    • `ServiceCall.On`, `SeesSame` — what a call is about, and what it looks up;
    • `Sides.calls_on` — one call on two stores;
    • `Database.call_spares` — one call on one store: all else stays;
    • `Database.locality` — both together.
-/
import Namebook.Proofs.Repository.Locality
import Namebook.Proofs.Service.Sides
import Namebook.Proofs.History

namespace Namebook

/-! ## §1. Calls on a document and a name. -/

/-- **The calls on the document `p` and the name `n`.**  A name is resolved whatever the document. -/
inductive ServiceCall.On (p n : String) : ServiceCall → Prop where
  | add : On p n (.add p n)
  | remove : On p n (.remove p n)
  | promote : On p n (.promote p n)
  | view : On p n (.view p n)
  | resolve : On p n (.resolve n)

namespace ServiceCall

/-- The change that a call asks for. -/
def change? : ServiceCall → Option Request
  | add p n => some (.createAlias p n)
  | remove p n => some (.deleteAlias p n)
  | promote p n => some (.promoteAlias p n)
  | _ => none

/-- **What a call looks up comes out the same in two stores.**  An alias to be added is only looked for;
one to be removed or promoted must be the document's. -/
def SeesSame (t t' : Tables) : ServiceCall → Prop
  | add _ n => (t'.alias? n).isSome = (t.alias? n).isSome ∧
      (Rows.findAlias t' n).map Option.isSome = (Rows.findAlias t n).map Option.isSome ∧
      (Rows.loadDocument t' n).map Option.isSome = (Rows.loadDocument t n).map Option.isSome
  | remove p n => Rows.ownedAlias t' p n = Rows.ownedAlias t p n
  | promote p n => Rows.ownedAlias t' p n = Rows.ownedAlias t p n
  | view _ n => Rows.findAlias t' n = Rows.findAlias t n
  | resolve n => Rows.loadDocument t' n = Rows.loadDocument t n ∧
      Rows.findByAlias t' n = Rows.findByAlias t n
  | create _ => False

/-- **The same value**, up to new ids and times. -/
def Same (F : Fresh → Fresh → Prop) : (x : ServiceCall) → x.Found → x.Found → Prop
  | view _ _ => fun v v' => v' = v
  | add _ _ => Document.Alike Renaming.refl F
  | remove _ _ => Document.Alike Renaming.refl F
  | promote _ _ => Document.Alike Renaming.refl F
  | resolve _ => Document.Alike Renaming.refl F
  | create _ => Document.Alike Renaming.refl F

variable {x : ServiceCall} {t t' : Tables} {p n : String}

theorem On.changes {r : Request} (h : x.On p n) (hr : x.change? = some r) : r.Changes p n := by
  cases h with
  | add => cases hr; exact .create
  | remove => cases hr; exact .delete
  | promote => cases hr; exact .promote
  | view => cases hr
  | resolve => cases hr

/-- Stores that agree on what a call is about show it the same. -/
theorem On.seesSame (h : x.On p n) (hagrees : t.AgreesOn p n t') (hcanonical : t.Canonical) :
    x.SeesSame t t' := by
  have hfound := hagrees.findAlias
  have hnamed := hagrees.named.loadDocument (hcanonical.distinct n)
  have howned : Rows.ownedAlias t' p n = Rows.ownedAlias t p n := by
    unfold Rows.ownedAlias
    rw [hfound]
  cases h with
  | add => exact ⟨by rw [hagrees.found], by rw [hfound], by rw [hnamed]⟩
  | remove => exact howned
  | promote => exact howned
  | view => exact hfound
  | resolve => exact ⟨hnamed, hagrees.findByAlias hcanonical⟩

end ServiceCall

/-! ## §2. One call on two stores. -/

/-- Answers that look the same under `f`. -/
theorem paired_of_map_eq {α β : Type} {f : α → β} {a b : Except RepositoryError α}
    (h : b.map f = a.map f) : Paired Renaming.refl.Errs (fun v v' => f v' = f v) a b := by
  cases a with
  | error e =>
    cases b with
    | error e' =>
      cases h
      exact (Renaming.refl_onError e).symm
    | ok v' => cases h
  | ok v =>
    cases b with
    | error e' => cases h
    | ok v' => exact Except.ok.inj h

/-- Documents that are the same are alike. -/
theorem Document.Alike.refl (F : Fresh → Fresh → Prop) (d : Document) :
    d.Alike Renaming.refl F d where
  publicId := rfl
  aliases := List.forall₂_same.2 fun _ _ => ⟨rfl, rfl, rfl, Or.inl rfl⟩
  version := rfl
  createdAt := Or.inl rfl
  updatedAt := Or.inl rfl

/-- What is loaded from two stores is the same. -/
theorem paired_rel_of_eq {F : Fresh → Fresh → Prop} {a b : Except RepositoryError (Option Document)}
    (h : b = a) : Paired Renaming.refl.Errs (Option.Rel (Document.Alike Renaming.refl F)) a b := by
  refine paired_of_eq h.symm (fun e => (Renaming.refl_onError e).symm) fun found => ?_
  cases found with
  | none => exact .none
  | some d => exact .some (Document.Alike.refl F d)

/-- The ids of a supply are new to some tables. -/
def Supply.NewTo (supply : Supply) (t : Tables) : Prop :=
  ∀ k, ∀ a ∈ t.aliases, a.id ≠ (supply.fresh k).id.render

namespace Database

/-- One call on two stores. -/
def beside (db : Database) (c : Connection) (supply : Supply) (db' : Database) (supply' : Supply) :
    Sides :=
  ⟨Renaming.refl, c, supply, supply', db, db'⟩

/-- **Two stores end alike**: they show the document `p` alike and agree on the claim of `n`, and a call
has given the same value. -/
def EndsAlike (F : Fresh → Fresh → Prop) (p n : String) (x : ServiceCall) (v : x.Found) (s : Database)
    (v' : x.Found) (s' : Database) : Prop :=
  x.Same F v v' ∧ s.committed.Alike Renaming.refl F p s'.committed ∧
    s'.committed.name? n = s.committed.name? n

variable {db db' : Database} {c : Connection} {supply supply' : Supply} {x : ServiceCall} {p n : String}

/-- A change that goes the same way on what is committed goes the same way in both stores. -/
theorem writes_on {R : Tables → Tables → Prop} (body : Fresh → Work Document) (htwins : db.Twins R db')
    (hwork : ∀ f f', supply.Draws supply' f f' → Work.Paired Renaming.refl.Errs
      (Work.SettlesOn (supply.Draws supply') p n db.committed db'.committed)
      (body f) db.committed (body f') db'.committed) (k : Nat) :
    (∃ e e', Renaming.refl.Errs e e' ∧ db.write c (body (supply.fresh k)) = (.error e, db) ∧
        db'.write c (body (supply'.fresh k)) = (.error e', db')) ∨
      ∃ d s d' s', (d.Alike Renaming.refl (supply.Draws supply') d' ∧
          s.committed.Alike Renaming.refl (supply.Draws supply') p s'.committed ∧
          s'.committed.name? n = s.committed.name? n) ∧
        db.write c (body (supply.fresh k)) = (.ok d, s) ∧
        db'.write c (body (supply'.fresh k)) = (.ok d', s') := by
  exact Sides.writes_alike (S := db.beside c supply db' supply')
    (V := fun d s d' s' => d.Alike Renaming.refl (supply.Draws supply') d' ∧
      s.committed.Alike Renaming.refl (supply.Draws supply') p s'.committed ∧
      s'.committed.name? n = s.committed.name? n)
    htwins ((hwork _ _ ⟨k, rfl, rfl⟩).mono fun d s d' s' hs =>
      ⟨⟨hs.1.1, hs.1.2.1, hs.2⟩, hs.1.2.2⟩)

/-- **One call on two stores that show it the same.** -/
theorem calls_on (hx : x.On p n) (htwins : db.Twins (fun t t' => x.SeesSame t t') db')
    (hagrees : db.committed.Agrees p db'.committed)
    (hclaim : db'.committed.name? n = db.committed.name? n)
    (hregular : db.committed.Regular) (hregular' : db'.committed.Regular)
    (hnew : supply.NewTo db.committed) (hnew' : supply'.NewTo db'.committed)
    (reserved : ReservedNames) :
    (db.beside c supply db' supply').Calls (EndsAlike (supply.Draws supply') p n x)
      (x.dialogue reserved) (x.dialogue reserved) := by
  have halike : db.committed.Alike Renaming.refl (supply.Draws supply') p db'.committed :=
    (hagrees.mirrors (hregular.distinct p)).alike
  cases hx with
  | add =>
    have hcreate : (db.beside c supply db' supply').Answers (.createAlias p n) (.createAlias p n)
        (EndsAlike (supply.Draws supply') p n (.add p n)) := by
      refine writes_on (Work.createAlias · p n) htwins ?_
      rintro f f' ⟨k, rfl, rfl⟩
      exact Work.createAlias_local hagrees hregular ⟨k, rfl, rfl⟩ hclaim htwins.committed.1 (hnew k)
        (hnew' k)
    exact Sides.calls_add (S := db.beside c supply db' supply') (fun _ _ _ _ h => h.1) (fun _ => rfl)
      (Sides.answers_findAlias (S := db.beside c supply db' supply') htwins
        fun t t' ht => paired_of_map_eq ht.2.1)
      (Sides.answers_findByPublicId (S := db.beside c supply db' supply') htwins
        fun t t' ht => paired_of_map_eq ht.2.2) hcreate
  | remove =>
    have hdelete : (db.beside c supply db' supply').Answers (.deleteAlias p n) (.deleteAlias p n)
        (EndsAlike (supply.Draws supply') p n (.remove p n)) :=
      writes_on (Work.deleteAlias · p n) htwins fun f f' hdraws =>
        Work.deleteAlias_local hagrees hregular hregular' hdraws hclaim htwins.committed
    exact Sides.calls_remove (S := db.beside c supply db' supply') (fun _ _ _ _ h => h.1) hdelete
  | promote =>
    have hpromote : (db.beside c supply db' supply').Answers (.promoteAlias p n) (.promoteAlias p n)
        (EndsAlike (supply.Draws supply') p n (.promote p n)) :=
      writes_on (Work.promoteAlias · p n) htwins fun f f' hdraws =>
        Work.promoteAlias_local hagrees hregular hregular' hdraws hclaim htwins.committed
    exact Sides.calls_promote (S := db.beside c supply db' supply') (fun _ _ _ _ h => h.1) hpromote
  | view =>
    have hfound : (db.beside c supply db' supply').Answers (.findAliasByName n) (.findAliasByName n)
        ((db.beside c supply db' supply').Found fun a a' => a' = a.map Renaming.refl.onAlias) := by
      refine Sides.answers_findAlias (S := db.beside c supply db' supply') htwins fun t t' ht => ?_
      refine paired_of_eq (Eq.symm ht) (fun e => (Renaming.refl_onError e).symm) fun a => ?_
      cases a <;> rfl
    refine (Sides.calls_view (S := db.beside c supply db' supply') hfound).mono ?_
    rintro v s v' s' ⟨hv, rfl, rfl⟩
    exact ⟨hv, halike, hclaim⟩
  | resolve =>
    refine (Sides.calls_resolve (S := db.beside c supply db' supply')
      (Sides.answers_findByPublicId (S := db.beside c supply db' supply') htwins
        fun t t' ht => paired_rel_of_eq ht.1)
      (Sides.answers_findByAlias (S := db.beside c supply db' supply') htwins
        fun t t' ht => paired_rel_of_eq ht.2)).mono ?_
    rintro d s d' s' ⟨hd, rfl, rfl⟩
    exact ⟨hd, halike, hclaim⟩

/-- **The call gives the same value, writes the same log and leaves the same rows of its document and
the same claim of its name.** -/
theorem call_alike (hx : x.On p n) (htwins : db.Twins (fun t t' => x.SeesSame t t') db')
    (hagrees : db.committed.Agrees p db'.committed)
    (hclaim : db'.committed.name? n = db.committed.name? n)
    (hregular : db.committed.Regular) (hregular' : db'.committed.Regular)
    (hnew : supply.NewTo db.committed) (hnew' : supply'.NewTo db'.committed)
    (reserved : ReservedNames) :
    let o := db.call c supply (x.dialogue reserved)
    let o' := db'.call c supply' (x.dialogue reserved)
    Paired Eq (x.Same (supply.Draws supply')) o.value o'.value ∧ o'.log = o.log ∧
      o.state.committed.Alike Renaming.refl (supply.Draws supply') p o'.state.committed ∧
      o'.state.committed.name? n = o.state.committed.name? n := by
  intro o o'
  obtain ⟨hvalue, hlog⟩ := Sides.call_of_ends (calls_on (c := c) hx htwins hagrees hclaim hregular
    hregular' hnew hnew' reserved).ends
  have hsame : Paired Eq (x.Same (supply.Draws supply')) o.value o'.value :=
    hvalue.mono (fun e e' he => (Renaming.fails_refl he.1).symm) fun v v' hv => hv.1
  refine ⟨hsame, hlog, ?_⟩
  change Paired _ _ o.value o'.value at hvalue
  rcases hvalue.cases with ⟨e, e', -, -, -, hstate, hstate'⟩ | ⟨v, v', -, -, -, hends⟩
  · -- nothing was written
    rw [show o.state = db from hstate, show o'.state = db' from hstate']
    exact ⟨(hagrees.mirrors (hregular.distinct p)).alike, hclaim⟩
  · exact hends

/-! ## §3. One call on one store. -/

/-- **A store after a call on the document `p`** and the names `names`: all other documents with their
aliases, all other claims and all transactions are as they were. -/
structure Spares (db db' : Database) (p : String) (names : List String) : Prop where
  tables : db.committed.Spares db'.committed p names
  held : db'.held = db.held
  readers : db'.readers = db.readers

theorem Spares.refl (db : Database) (p : String) (names : List String) : db.Spares db p names :=
  ⟨Tables.Spares.refl _ _ _, rfl, rfl⟩

/-- **A call leaves the store as it was, or commits its change.** -/
theorem call_cases_on (hx : x.On p n) (db : Database) (c : Connection) (supply : Supply)
    (reserved : ReservedNames) :
    (db.call c supply (x.dialogue reserved)).state = db ∨
      ∃ r k w d t, x.change? = some r ∧ r.work? (supply.fresh k) = some w ∧ db.held = none ∧
        w.runOn db.committed = (.ok d, t) ∧
        (db.call c supply (x.dialogue reserved)).state = { db with committed := t } := by
  cases hvalue : (db.call c supply (x.dialogue reserved)).value with
  | error e => exact Or.inl (call_of_error (x.settled_dialogue reserved) hvalue)
  | ok v =>
    obtain ⟨es, r, a, k, hconcl, hanswer⟩ := call_of_ok hvalue
    have hstate : (db.call c supply (x.dialogue reserved)).state = (db.answer c (supply.fresh k) r).2 := by
      rw [hanswer]
    rcases answer_cases db c (supply.fresh k) r with hkept | ⟨w, d, t, hwork, hheld, hrun, hafter⟩
    · exact Or.inl (hstate.trans hkept)
    · refine Or.inr ⟨r, k, w, d, t, ?_, hwork, hheld, hrun, hstate.trans hafter⟩
      cases hx <;> cases hconcl <;> first | rfl | cases hwork

/-- **A call spares all other documents and all other names.** -/
theorem call_spares (hx : x.On p n) (h : db.committed.Canonical) (c : Connection) (supply : Supply)
    (reserved : ReservedNames) :
    db.Spares (db.call c supply (x.dialogue reserved)).state p [n] := by
  rcases call_cases_on hx db c supply reserved with
    hkept | ⟨r, k, w, d, t, hr, hwork, -, hrun, hafter⟩
  · rw [hkept]
    exact Spares.refl db p [n]
  · rw [hafter]
    exact ⟨h.spares_of_changes (hx.changes hr) hwork hrun, rfl, rfl⟩

/-- **Locality.**  Two stores hold anything, but keys are unique and ids canonical; they agree on what a
call on the document `p` and the name `n` is about, in what is committed and in an open transaction.  Then
the call gives the same value on both, up to new ids and times, and writes the same log; it leaves the
document and the claim of the name alike, and in each store all else as it was. -/
theorem locality (hx : x.On p n)
    (hstores : db.Twins (fun t t' => t.Regular ∧ t'.Regular ∧ t.AgreesOn p n t') db')
    (hnew : supply.NewTo db.committed) (hnew' : supply'.NewTo db'.committed)
    (reserved : ReservedNames) :
    let o := db.call c supply (x.dialogue reserved)
    let o' := db'.call c supply' (x.dialogue reserved)
    (Paired Eq (x.Same (supply.Draws supply')) o.value o'.value ∧ o'.log = o.log ∧
      o.state.committed.Alike Renaming.refl (supply.Draws supply') p o'.state.committed ∧
      o'.state.committed.name? n = o.state.committed.name? n) ∧
    db.Spares o.state p [n] ∧ db'.Spares o'.state p [n] := by
  intro o o'
  obtain ⟨hregular, hregular', hagrees⟩ := hstores.committed
  have htwins : db.Twins (fun t t' => x.SeesSame t t') db' :=
    hstores.mono fun t t' ht => hx.seesSame ht.2.2 ht.1.toCanonical
  exact ⟨call_alike hx htwins hagrees.document hagrees.claim hregular hregular' hnew hnew' reserved,
    call_spares hx hregular.toCanonical c supply reserved,
    call_spares hx hregular'.toCanonical c supply' reserved⟩

end Database

end Namebook
