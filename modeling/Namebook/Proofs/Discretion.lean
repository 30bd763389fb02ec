/-
  Namebook.Proofs.Discretion
  ──────────────────────────
  **THE LOG TELLS NO ALIAS — a call on a renamed store writes the same log.**

  All alias names are replaced by others of the same length, in the store, in its name index, among the
  reserved names and in the call itself.  Then the call goes the same way and writes the same records,
  whatever the store holds, whoever else has a transaction open, and whether the call succeeds, is
  refused, or meets damage.

    • `twins_onDatabase` — a database and its renaming have the same locks;
    • `Sides.ends_createFrom` — public ids are drawn equally often;
    • `Database.log_tells_no_alias` — all six calls.
-/
import Namebook.Proofs.Repository.Renaming
import Namebook.Proofs.Service.Sides
import Namebook.Proofs.Service.Result
import Namebook.Proofs.History
import Mathlib.Logic.Equiv.Basic

namespace Namebook

/-! ## §1. A database and its renaming. -/

namespace Renaming

variable {ρ : Renaming} {db : Database}

/-- A service call with its name renamed. -/
def onCall (ρ : Renaming) : ServiceCall → ServiceCall
  | .add p n => .add p (ρ n)
  | .remove p n => .remove p (ρ n)
  | .promote p n => .promote p (ρ n)
  | .view p n => .view p (ρ n)
  | .resolve n => .resolve (ρ n)
  | .create initial => .create (initial.map ρ)

/-- Nothing has no other name. -/
theorem apply_empty (ρ : Renaming) : ρ "" = "" := by
  rw [← String.utf8ByteSize_eq_zero_iff, ρ.size]
  rfl

theorem getD_map (ρ : Renaming) (initial : Option String) :
    (initial.map ρ).getD "" = ρ (initial.getD "") := by
  cases initial with
  | none => exact ρ.apply_empty.symm
  | some n => rfl

theorem twins_onDatabase (h : db.Holds ρ.Fixes) :
    db.Twins (fun t t' => t' = ρ.onTables t ∧ ρ.Fixes t) (ρ.onDatabase db) := by
  obtain ⟨committed, held, readers⟩ := db
  refine ⟨⟨rfl, h.1⟩, ?_, rfl⟩
  cases held with
  | none => exact .none
  | some held => exact .some ⟨rfl, rfl, rfl, h.2 held.working rfl⟩

end Renaming

/-! ## §2. Creating documents. -/

namespace Sides

open DocumentService

variable {S : Sides} {initial : Option String} {n p : String}
  {V : Document → Database → Document → Database → Prop}

/-- A name that was taken meanwhile is looked up once more. -/
theorem calls_takenMeanwhile
    (hstored : S.Answers (.findByPublicId n) (.findByPublicId (S.ρ n))
      (S.Found fun d d' => d'.isSome = d.isSome)) :
    S.Calls V (takenMeanwhile p n) (takenMeanwhile p (S.ρ n)) := by
  unfold takenMeanwhile
  refine calls_bind (calls_ofAnswer hstored) fun d d' hd => ?_
  rw [hd]
  intro s s' drawn hat
  exact Call.paired_fail ⟨Or.inr rfl, hat⟩ (Renaming.failureRecord_eq (Or.inr rfl) _ _ _)

/-- **Both draw equally often**, if no id that they draw is renamed. -/
theorem ends_createFrom (hV : ∀ d s d' s', V d s d' s' → d.SameInLog d')
    (hblocks : S.supply'.blocks = S.supply.blocks)
    (hstored : ∀ n, S.Answers (.findByPublicId n) (.findByPublicId (S.ρ n))
      (S.Found fun d d' => d'.isSome = d.isSome))
    (hcreate : ∀ p, S.ρ p = p →
      S.Answers (.createDocument p initial) (.createDocument p (initial.map S.ρ)) V)
    (attempt left : Nat) (s s' : Database × Nat) (drawn : Nat) (hat : S.At s s')
    (hfixed : ∀ k < (Call.outcome (Database.serve S.connection S.supply.fresh) S.supply.blocks
        (createFrom initial attempt left) s drawn).draws,
      S.ρ (PublicId.encode (S.supply.blocks k)) = PublicId.encode (S.supply.blocks k)) :
    S.Ends V
      (Call.outcome (Database.serve S.connection S.supply.fresh) S.supply.blocks
        (createFrom initial attempt left) s drawn)
      (Call.outcome (Database.serve S.connection S.supply'.fresh) S.supply'.blocks
        (createFrom (initial.map S.ρ) attempt left) s' drawn) := by
  induction left generalizing attempt s s' drawn with
  | zero =>
    unfold createFrom
    rw [S.ρ.getD_map]
    exact Call.paired_fail ⟨Or.inl rfl, hat⟩ (Renaming.failureRecord_eq (Or.inl rfl) _ _ _)
  | succ left ih =>
    obtain ⟨db, k⟩ := s
    obtain ⟨db', k'⟩ := s'
    obtain ⟨rfl, rfl, rfl⟩ := hat
    unfold createFrom at hfixed ⊢
    rw [Call.outcome_block] at hfixed ⊢
    rw [Call.outcome_block, congrFun hblocks drawn]
    have hdrawn := hfixed drawn (Dialogue.le_draws _ _ _)
    generalize PublicId.encode (S.supply.blocks drawn) = p at hfixed hdrawn ⊢
    rw [Call.outcome_request] at hfixed ⊢
    rw [Call.outcome_request]
    rcases hcreate p hdrawn k with ⟨e, e', herr, hanswer, hanswer'⟩ |
      ⟨d, t, d', t', hgranted, hanswer, hanswer'⟩
    · have herr : e' = S.ρ.onError e := herr
      subst herr
      rw [Database.serve_of_answer hanswer] at hfixed ⊢
      rw [Database.serve_of_answer hanswer']
      have hat : S.At (S.db, k + 1) (S.db', k + 1) := ⟨rfl, rfl, rfl⟩
      cases e with
      | nameTaken m =>
        show S.Ends V (Call.outcome _ _ (if m = p then _ else _) _ _)
          (Call.outcome _ _ (if S.ρ m = p then _ else _) _ _)
        change ∀ k < (Call.outcome _ _ (if m = p then _ else _) _ _).draws, _ at hfixed
        by_cases hm : m = p
        · -- the id was taken, and is drawn anew by both
          have hm' : S.ρ m = p := by rw [hm, hdrawn]
          rw [if_pos hm] at hfixed ⊢
          rw [if_pos hm', Call.outcome_log, Call.outcome_log]
          exact (ih (attempt + 1) _ _ _ hat hfixed).after _
        · have hm' : ¬S.ρ m = p := fun h => hm (S.ρ.eq_iff.1 (h.trans hdrawn.symm))
          rw [if_neg hm, if_neg hm']
          exact calls_takenMeanwhile (hstored m) _ _ _ hat
      | _ =>
        rw [S.ρ.getD_map]
        exact Call.paired_fail ⟨Renaming.fails_ofRepository rfl, hat⟩
          (Renaming.failureRecord_eq (Renaming.fails_ofRepository rfl) _ _ _)
    · rw [Database.serve_of_answer hanswer, Database.serve_of_answer hanswer']
      have hsame := hV d t d' t' hgranted
      show S.Ends V (Call.outcome _ _ (do (Dialogue.log _ : Dialogue Unit); return d : Call Document) _ _)
        (Call.outcome _ _ (do (Dialogue.log _ : Dialogue Unit); return d' : Call Document) _ _)
      rw [Call.outcome_log, Call.outcome_log, hsame.1, hsame.2]
      exact (Call.paired_pure ⟨hgranted, rfl⟩).after _

variable {reserved reserved' : ReservedNames}

/-- A first alias is accepted by both or by none. -/
theorem calls_checkInitial (hreserved : ∀ m, reserved'.contains (S.ρ m) = reserved.contains m)
    (hnamed : S.Answers (.findByAlias n) (.findByAlias (S.ρ n))
      (S.Found fun d d' => d'.isSome = d.isSome))
    (hstored : S.Answers (.findByPublicId n) (.findByPublicId (S.ρ n))
      (S.Found fun d d' => d'.isSome = d.isSome)) :
    S.Calls (S.Found fun _ _ => True) (checkInitial reserved n) (checkInitial reserved' (S.ρ n)) := by
  unfold checkInitial
  refine calls_bind (calls_answer (Renaming.paired_checkName hreserved n)) fun _ _ _ => ?_
  refine calls_bind (calls_ofAnswer hnamed) fun d d' hd => ?_
  refine calls_ite (by rw [hd]) (fun _ => calls_throw_bind (Or.inr rfl)) fun _ => ?_
  refine calls_bind (calls_ofAnswer hstored) fun d d' hd => ?_
  exact calls_ite (by rw [hd]) (fun _ => calls_throw (Or.inr rfl)) fun _ =>
    calls_pure ⟨trivial, rfl, rfl⟩

/-- **Creating a document**, if no id that is drawn is renamed. -/
theorem ends_create (hV : ∀ d s d' s', V d s d' s' → d.SameInLog d')
    (hreserved : ∀ m, reserved'.contains (S.ρ m) = reserved.contains m)
    (hblocks : S.supply'.blocks = S.supply.blocks)
    (hnamed : ∀ n, S.Answers (.findByAlias n) (.findByAlias (S.ρ n))
      (S.Found fun d d' => d'.isSome = d.isSome))
    (hstored : ∀ n, S.Answers (.findByPublicId n) (.findByPublicId (S.ρ n))
      (S.Found fun d d' => d'.isSome = d.isSome))
    (hcreate : ∀ p, S.ρ p = p →
      S.Answers (.createDocument p initial) (.createDocument p (initial.map S.ρ)) V)
    (s s' : Database × Nat) (drawn : Nat) (hat : S.At s s')
    (hfixed : ∀ k < (Call.outcome (Database.serve S.connection S.supply.fresh) S.supply.blocks
        (create reserved initial) s drawn).draws,
      S.ρ (PublicId.encode (S.supply.blocks k)) = PublicId.encode (S.supply.blocks k)) :
    S.Ends V
      (Call.outcome (Database.serve S.connection S.supply.fresh) S.supply.blocks
        (create reserved initial) s drawn)
      (Call.outcome (Database.serve S.connection S.supply'.fresh) S.supply'.blocks
        (create reserved' (initial.map S.ρ)) s' drawn) := by
  have hfrom := ends_createFrom hV hblocks hstored hcreate 1 createAttempts
  cases initial with
  | none => exact hfrom s s' drawn hat hfixed
  | some n =>
    have hcheck : S.Calls (S.Found fun _ _ => True)
        (Call.logged createEvent "-" n (checkInitial reserved n))
        (Call.logged createEvent "-" (S.ρ n) (checkInitial reserved' (S.ρ n))) :=
      calls_logged (calls_checkInitial hreserved (hnamed n) (hstored n))
    have hends := hcheck s s' drawn hat
    change ∀ k < (Call.outcome _ _ (Call.logged createEvent "-" n (checkInitial reserved n) >>= fun _ =>
      createFrom (some n) 1 createAttempts) _ _).draws, _ at hfixed
    show S.Ends V (Call.outcome _ _ (Call.logged createEvent "-" n (checkInitial reserved n) >>= fun _ =>
        createFrom (some n) 1 createAttempts) _ _)
      (Call.outcome _ _ (Call.logged createEvent "-" (S.ρ n) (checkInitial reserved' (S.ρ n)) >>= fun _ =>
        createFrom (some (S.ρ n)) 1 createAttempts) _ _)
    rw [Call.outcome_bind] at hfixed ⊢
    rw [Call.outcome_bind]
    generalize Call.outcome _ _ (Call.logged createEvent "-" n (checkInitial reserved n)) s drawn = o,
      Call.outcome _ _ (Call.logged createEvent "-" (S.ρ n) (checkInitial reserved' (S.ρ n))) s' drawn
        = o' at hends hfixed ⊢
    obtain ⟨v, t, log, draws⟩ := o
    obtain ⟨v', t', log', draws'⟩ := o'
    obtain ⟨hvalue, hlog, hdraws⟩ := hends
    dsimp only at hvalue hlog hdraws hfixed ⊢
    subst hlog hdraws
    rcases hvalue.cases with ⟨e, e', rfl, rfl, he⟩ | ⟨a, b, rfl, rfl, ⟨-, hstate, hstate'⟩, hasked⟩
    · exact ⟨he, rfl, rfl⟩
    · exact (hfrom t t' draws ⟨hstate, hstate', hasked⟩ hfixed).after log

end Sides

/-! ## §3. Six calls. -/

namespace Renaming

/-- A call on a database, and the renamed call on the renamed database. -/
def sides (ρ : Renaming) (db : Database) (c : Connection) (supply supply' : Supply) : Sides :=
  ⟨ρ, c, supply, supply', db, ρ.onDatabase db⟩

variable {ρ : Renaming} {db : Database} {c : Connection} {supply supply' : Supply} {p : String}

section Requests

variable (h : db.Holds ρ.Fixes)

include h

theorem answers_findAlias (n : String) :
    (ρ.sides db c supply supply').Answers (.findAliasByName n) (.findAliasByName (ρ n))
      ((ρ.sides db c supply supply').Found fun a a' => a' = a.map ρ.onAlias) := by
  refine Sides.answers_findAlias (S := ρ.sides db c supply supply') (twins_onDatabase h) ?_
  rintro t _ ⟨rfl, -⟩
  exact findAlias_onTables ρ t n

theorem answers_findByPublicId (n : String) :
    (ρ.sides db c supply supply').Answers (.findByPublicId n) (.findByPublicId (ρ n))
      ((ρ.sides db c supply supply').Found
        (Option.Rel (Document.Alike ρ (ρ.sides db c supply supply').Draws))) := by
  refine Sides.answers_findByPublicId (S := ρ.sides db c supply supply') (twins_onDatabase h) ?_
  rintro t _ ⟨rfl, ht⟩
  exact loadDocument_onTables _ ht n

theorem answers_findByAlias (n : String) :
    (ρ.sides db c supply supply').Answers (.findByAlias n) (.findByAlias (ρ n))
      ((ρ.sides db c supply supply').Found
        (Option.Rel (Document.Alike ρ (ρ.sides db c supply supply').Draws))) := by
  refine Sides.answers_findByAlias (S := ρ.sides db c supply supply') (twins_onDatabase h) ?_
  rintro t _ ⟨rfl, ht⟩
  exact findByAlias_onTables _ ht n

end Requests

section Changes

variable (h : db.Holds ρ.Fixes)
  (hids : ∀ k, db.committed.aliases.any (·.id == (supply'.fresh k).id.render)
    = db.committed.aliases.any (·.id == (supply.fresh k).id.render))

include h

theorem answers_deleteAlias (p n : String) :
    (ρ.sides db c supply supply').Answers (.deleteAlias p n) (.deleteAlias p (ρ n))
      fun d _ d' _ => d.Alike ρ (ρ.sides db c supply supply').Draws d' := by
  intro k
  have hpaired := Work.paired_deleteAlias (F := (ρ.sides db c supply supply').Draws)
    (mirrors_onTables h.1 p) ⟨k, rfl, rfl⟩
    (Rows.paired_ownedAlias (findAlias_onTables ρ db.committed n) p)
  exact Sides.writes_alike (S := ρ.sides db c supply supply')
    (V := fun d _ d' _ => d.Alike ρ (ρ.sides db c supply supply').Draws d') (twins_onDatabase h)
    (hpaired.mono fun _ _ _ _ hs => ⟨hs.1, hs.2.2⟩)

theorem answers_promoteAlias (p n : String) :
    (ρ.sides db c supply supply').Answers (.promoteAlias p n) (.promoteAlias p (ρ n))
      fun d _ d' _ => d.Alike ρ (ρ.sides db c supply supply').Draws d' := by
  intro k
  have hpaired := Work.paired_promoteAlias (F := (ρ.sides db c supply supply').Draws)
    (mirrors_onTables h.1 p) ⟨k, rfl, rfl⟩
    (Rows.paired_ownedAlias (findAlias_onTables ρ db.committed n) p) fun a _ => ?_
  · exact Sides.writes_alike (S := ρ.sides db c supply supply')
      (V := fun d _ d' _ => d.Alike ρ (ρ.sides db c supply supply').Draws d') (twins_onDatabase h)
      (hpaired.mono fun _ _ _ _ hs => ⟨hs.1, hs.2.2⟩)
  · rw [demoteAll_onTables]
    exact promote_onTables ρ a.id _

include hids

theorem answers_createAlias (p n : String) :
    (ρ.sides db c supply supply').Answers (.createAlias p n) (.createAlias p (ρ n))
      fun d _ d' _ => d.Alike ρ (ρ.sides db c supply supply').Draws d' := by
  intro k
  have htaken : ((ρ.onTables db.committed).alias? (ρ n)).isSome = (db.committed.alias? n).isSome := by
    rw [alias?_onTables, Option.isSome_map]
  have hpaired := Work.paired_createAlias (F := (ρ.sides db c supply supply').Draws)
    (mirrors_onTables h.1 p) ⟨k, rfl, rfl⟩ (nameClaim_onTables ρ _ n) htaken
    ((any_id_onTables ρ _ _).trans (hids k))
  exact Sides.writes_alike (S := ρ.sides db c supply supply')
    (V := fun d _ d' _ => d.Alike ρ (ρ.sides db c supply supply').Draws d') (twins_onDatabase h)
    (hpaired.mono fun _ _ _ _ hs => ⟨hs.1, hs.2.2⟩)

theorem answers_createDocument (initial : Option String) (hfixed : ρ p = p) :
    (ρ.sides db c supply supply').Answers (.createDocument p initial)
      (.createDocument p (initial.map ρ)) fun d _ d' _ => d.SameInLog d' :=
  fun k => Sides.writes_alike (S := ρ.sides db c supply supply')
    (V := fun d _ d' _ => d.SameInLog d') (twins_onDatabase h)
    (Work.paired_createDocument (F := (ρ.sides db c supply supply').Draws) ⟨k, rfl, rfl⟩ h.1 hfixed
      initial ((any_id_onTables ρ _ _).trans (hids k)))

end Changes

/-- What is found on both sides, or on none. -/
theorem isSome_of_rel {α β : Type} {R : α → β → Prop} {a : Option α} {b : Option β}
    (h : Option.Rel R a b) : b.isSome = a.isSome := by
  cases h <;> rfl

end Renaming

namespace Database

open Renaming

/-- **The log tells no alias.**  Take any store, whatever it holds and whoever has a transaction open, any
renaming that keeps the lengths of names and whether they are blank, that renames no public id of the
store and none that the call draws.  Then a call and its renaming, on the store and its renaming, write the
same log.  The clocks of the two runs are free, and the ids of new aliases may differ as long as they are in
use in both runs or in none. -/
theorem log_tells_no_alias (ρ : Renaming) (db : Database) (c : Connection) (reserved : ReservedNames)
    (supply supply' : Supply) (s : ServiceCall) (hfixes : db.Holds ρ.Fixes)
    (hdrawn : ∀ k < (db.call c supply (s.dialogue reserved)).draws,
      ρ (PublicId.encode (supply.blocks k)) = PublicId.encode (supply.blocks k))
    (hblocks : supply'.blocks = supply.blocks)
    (hids : ∀ k, db.committed.aliases.any (·.id == (supply'.fresh k).id.render)
      = db.committed.aliases.any (·.id == (supply.fresh k).id.render)) :
    ((ρ.onDatabase db).call c supply' ((ρ.onCall s).dialogue (ρ.onReserved reserved))).log
      = (db.call c supply (s.dialogue reserved)).log := by
  have hreserved := ρ.contains_onReserved reserved
  have hfound : ∀ n, (ρ.sides db c supply supply').Answers (.findAliasByName n)
      (.findAliasByName (ρ n)) ((ρ.sides db c supply supply').Found fun a a' => a'.isSome = a.isSome) :=
    fun n => (answers_findAlias hfixes n).mono fun a s a' s' ha =>
      ⟨by rw [ha.1]; exact Option.isSome_map, ha.2⟩
  have hstored : ∀ n, (ρ.sides db c supply supply').Answers (.findByPublicId n)
      (.findByPublicId (ρ n)) ((ρ.sides db c supply supply').Found fun d d' => d'.isSome = d.isSome) :=
    fun n => (answers_findByPublicId hfixes n).mono fun d s d' s' hd => ⟨isSome_of_rel hd.1, hd.2⟩
  have hnamed : ∀ n, (ρ.sides db c supply supply').Answers (.findByAlias n)
      (.findByAlias (ρ n)) ((ρ.sides db c supply supply').Found fun d d' => d'.isSome = d.isSome) :=
    fun n => (answers_findByAlias hfixes n).mono fun d s d' s' hd => ⟨isSome_of_rel hd.1, hd.2⟩
  cases s with
  | add p n =>
    exact (Sides.call_of_ends (S := ρ.sides db c supply supply') (Sides.calls_add (fun _ _ _ _ h => h)
      hreserved (hfound n) (hstored n) (answers_createAlias hfixes hids p n)).ends).2
  | remove p n =>
    exact (Sides.call_of_ends (S := ρ.sides db c supply supply')
      (Sides.calls_remove (fun _ _ _ _ h => h) (answers_deleteAlias hfixes p n)).ends).2
  | promote p n =>
    exact (Sides.call_of_ends (S := ρ.sides db c supply supply')
      (Sides.calls_promote (fun _ _ _ _ h => h) (answers_promoteAlias hfixes p n)).ends).2
  | view p n =>
    exact (Sides.call_of_ends (S := ρ.sides db c supply supply')
      (Sides.calls_view (answers_findAlias hfixes n)).ends).2
  | resolve n =>
    exact (Sides.call_of_ends (S := ρ.sides db c supply supply')
      (Sides.calls_resolve (answers_findByPublicId hfixes n) (answers_findByAlias hfixes n)).ends).2
  | create initial =>
    exact (Sides.call_of_ends (S := ρ.sides db c supply supply') (Sides.ends_create
      (V := fun d _ d' _ => d.SameInLog d') (fun _ _ _ _ h => h) hreserved hblocks hnamed hstored
      (fun p hp => answers_createDocument hfixes hids initial hp) _ _ 0 ⟨rfl, rfl, rfl⟩ hdrawn)).2

end Database

/-- Two names of the same length change places. -/
def Renaming.swap (m n : String) (hsize : m.utf8ByteSize = n.utf8ByteSize)
    (hblank : Text.isBlank m = Text.isBlank n) : Renaming where
  apply := Equiv.swap m n
  bijective := (Equiv.swap m n).bijective
  size := by
    intro s
    rw [Equiv.swap_apply_def]
    split
    · next h => rw [h, hsize]
    · split
      · next h => rw [h, hsize]
      · rfl
  blank := by
    intro s
    rw [Equiv.swap_apply_def]
    split
    · next h => rw [h, hblank]
    · split
      · next h => rw [h, hblank]
      · rfl

namespace Database

/-- A store with a document `d` and its alias `a`. -/
def oneAlias : Database :=
  { committed :=
      { names := [⟨"d", "public_id"⟩, ⟨"a", "alias"⟩]
        documents := [⟨"d", 0, 1, 1⟩]
        aliases := [⟨(Uuid.mk 7).render, "a", "d", 1, 0⟩]
        onePrimary := true }
    held := none
    readers := [] }

/-- Where a document is called `a` and another one is created under the name `b`, the log is the same
as where the names have changed places and the clock is later. -/
theorem log_tells_no_alias_created :
    let ρ := Renaming.swap "a" "b" rfl rfl
    let late : Supply := { plainSupply with fresh := fun k => ⟨⟨BitVec.ofNat 128 k⟩, 77⟩ }
    ((ρ.onDatabase oneAlias).call 1 late
        (ServiceCall.dialogue (ρ.onReserved ⟨["api"]⟩) (.create (some (ρ "b"))))).log
      = (oneAlias.call 1 plainSupply (ServiceCall.dialogue ⟨["api"]⟩ (.create (some "b")))).log := by
  intro ρ late
  refine log_tells_no_alias ρ oneAlias 1 ⟨["api"]⟩ plainSupply late (.create (some "b"))
    ⟨?_, fun t ht => by cases ht⟩ (fun k _ => ?_) rfl fun k => rfl
  · intro d hd
    rw [List.mem_singleton.1 hd]
    exact Equiv.swap_apply_of_ne_of_ne (by decide) (by decide)
  · show ρ (PublicId.encode (Vector.replicate 16 0)) = PublicId.encode (Vector.replicate 16 0)
    exact Equiv.swap_apply_of_ne_of_ne (by decide) (by decide)

end Database

end Namebook
