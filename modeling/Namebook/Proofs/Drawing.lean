/-
  Namebook.Proofs.Drawing
  ───────────────────────
  **WHICH PUBLIC ID A NEW DOCUMENT GETS.**

  A creation draws up to three ids.  The first vacant one, which nobody has claimed and which is not
  the name of the initial alias, becomes the public id; every one before it costs a warning and nothing
  else:

    • `Idle.outcome_create_passed`, `outcome_create_refused` — the check of the initial alias;
    • `Idle.outcome_createFrom_vacant`, `outcome_createFrom_none` — the draws after it;
    • `creation_takes_first_vacant` — the whole call, in every reachable state without open
      transactions.
-/
import Namebook.Proofs.Refinement
import Namebook.Proofs.Service.Creation

namespace Namebook

namespace Database

open Tables DocumentService

variable {db : Database} {c : Connection} {fresh : Fresh} {supply : Supply} {reserved : ReservedNames}
  {initial : Option String} {p n : String}

/-! ## §1. One document. -/

/-- A vacant id is granted. -/
theorem Idle.answer_createDocument (h : db.Idle) (hid : db.committed.Identity) (c : Connection)
    (fresh : Fresh)
    (hvacant : db.committed.Vacant initial p) (hnamed : Text.isBlank p = false)
    (hinitial : ∀ n ∈ initial, ∀ m ∈ db.committed.names, m.name ≠ n)
    (hfresh : initial ≠ none → ∀ a ∈ db.committed.aliases, a.id ≠ fresh.id.render) :
    db.answer c fresh (.createDocument p initial)
      = (.ok (Document.created fresh p initial),
        { db with committed := db.committed.created fresh p initial }) :=
  h.write_of_ok (hid.runOn_createDocument hvacant hnamed hinitial hfresh)

/-- Any other id is refused by its own name. -/
theorem Idle.answer_createDocument_taken (h : db.Idle) (hclaims : db.committed.Claims)
    (htaken : ¬db.committed.Vacant initial p) :
    db.answer c fresh (.createDocument p initial) = (.error (.nameTaken p), db) :=
  h.write_of_error (hclaims.runOn_createDocument_taken htaken)

/-! ## §2. The check of the initial alias. -/

/-- The check finds what the book says, and draws and logs nothing. -/
theorem Idle.outcome_checkInitial (h : db.Idle) (hid : db.committed.Identity) (c : Connection)
    (supply : Supply) (reserved : ReservedNames) (n : String) (k m : Nat) :
    ∃ k', Call.outcome (serve c supply.fresh) supply.blocks (checkInitial reserved n) (db, k) m
      = ⟨db.committed.book.check reserved n, (db, k'), [], m⟩ := by
  obtain ⟨k', hchecked⟩ := outcome_checked reserved n
    (outcome_lookup (k := k) (h.answer_findByAlias hid n))
    (outcome_lookup (h.answer_findByPublicId hid n))
  rw [hid.toIndexed.isSome_owner, Option.isSome_map, ← check_book hid.toIndexed] at hchecked
  rw [Call.checkInitial_eq]
  exact ⟨k', hchecked⟩

/-- An initial alias that the check refuses ends the call before anything is drawn. -/
theorem Idle.outcome_create_refused {e : ServiceError} (h : db.Idle) (hid : db.committed.Identity)
    (c : Connection) (supply : Supply)
    (hcheck : db.committed.book.check reserved n = .error e) :
    ∃ k, Call.outcome (serve c supply.fresh) supply.blocks (create reserved (some n)) (db, 0) 0
      = ⟨.error e, (db, k), [Call.failureRecord createEvent "-" n e], 0⟩ := by
  obtain ⟨k, hchecked⟩ := h.outcome_checkInitial hid c supply reserved n 0 0
  refine ⟨k, ?_⟩
  unfold create
  dsimp only
  rw [Call.outcome_bind, Call.outcome_logged, hchecked, hcheck]
  rfl

/-- An initial alias that passes, or none, leaves everything to the draws. -/
theorem Idle.outcome_create_passed (h : db.Idle) (hid : db.committed.Identity) (c : Connection)
    (supply : Supply) (hcheck : ∀ n ∈ initial, db.committed.book.check reserved n = .ok ()) :
    ∃ k, Call.outcome (serve c supply.fresh) supply.blocks (create reserved initial) (db, 0) 0
      = Call.outcome (serve c supply.fresh) supply.blocks (createFrom initial 1 createAttempts)
          (db, k) 0 := by
  cases initial with
  | none => exact ⟨0, rfl⟩
  | some n =>
    obtain ⟨k, hchecked⟩ := h.outcome_checkInitial hid c supply reserved n 0 0
    refine ⟨k, ?_⟩
    unfold create
    dsimp only
    rw [Call.outcome_bind, Call.outcome_logged, hchecked, hcheck n rfl]
    rfl

/-! ## §3. The draws. -/

/-- The id of a draw. -/
def drawnId (supply : Supply) (k : Nat) : String :=
  PublicId.encode (supply.blocks k)

/-- Draws that are taken cost a warning each, and change nothing. -/
theorem Idle.outcome_createFrom_taken (h : db.Idle) (hid : db.committed.Identity) (c : Connection)
    {k : Nat} (htaken : ∀ j < k, ¬db.committed.Vacant initial (drawnId supply j)) (i left : Nat) :
    Call.outcome (serve c supply.fresh) supply.blocks (createFrom initial 1 (k + left)) (db, i) 0
      = (Call.outcome (serve c supply.fresh) supply.blocks (createFrom initial (1 + k) left)
          (db, i + k) k).after (collisions 1 k) := by
  have hrefused : ∀ j < k, serve c supply.fresh
      (.createDocument (PublicId.encode (supply.blocks (0 + j))) initial) (db, i + j)
        = (.error (.nameTaken (PublicId.encode (supply.blocks (0 + j)))), (db, i + (j + 1))) := by
    intro j hj
    rw [Nat.zero_add]
    exact serve_of_answer (h.answer_createDocument_taken hid.toClaims (htaken j hj))
  have hloop := outcome_createFrom_collisions 0 (fun j => (db, i + j)) k hrefused 1 left
  rw [Nat.zero_add] at hloop
  exact hloop

/-- **The first vacant id is taken.** -/
theorem Idle.outcome_createFrom_vacant (h : db.Idle) (hid : db.committed.Identity) (c : Connection)
    {k : Nat} (hvacant : db.committed.Vacant initial (drawnId supply k))
    (htaken : ∀ j < k, ¬db.committed.Vacant initial (drawnId supply j))
    (hinitial : ∀ n ∈ initial, ∀ m ∈ db.committed.names, m.name ≠ n)
    (hfresh : initial ≠ none → ∀ k, ∀ a ∈ db.committed.aliases, a.id ≠ (supply.fresh k).id.render)
    (i left : Nat) :
    let d := Document.created (supply.fresh (i + k)) (drawnId supply k) initial
    let t := db.committed.created (supply.fresh (i + k)) (drawnId supply k) initial
    Call.outcome (serve c supply.fresh) supply.blocks (createFrom initial 1 (k + (left + 1)))
        (db, i) 0
      = ⟨.ok d, ({ db with committed := t }, i + k + 1), collisions 1 k ++ [createdRecord d], k + 1⟩ := by
  intro d t
  have hgranted := h.answer_createDocument hid c (supply.fresh (i + k)) hvacant
    (PublicId.isBlank_encode _) hinitial fun hsome => hfresh hsome (i + k)
  rw [h.outcome_createFrom_taken hid c htaken,
    DocumentService.outcome_createFrom_granted (serve_of_answer hgranted)]
  rfl

/-- **Without a vacant id the creation fails.** -/
theorem Idle.outcome_createFrom_none (h : db.Idle) (hid : db.committed.Identity) (c : Connection)
    {k : Nat} (htaken : ∀ j < k, ¬db.committed.Vacant initial (drawnId supply j)) (i : Nat) :
    Call.outcome (serve c supply.fresh) supply.blocks (createFrom initial 1 k) (db, i) 0
      = ⟨.error exhausted, (db, i + k),
          collisions 1 k ++ [Call.failureRecord createEvent "-" (initial.getD "") exhausted], k⟩ := by
  have hloop := h.outcome_createFrom_taken hid c htaken i 0
  rw [Nat.add_zero k] at hloop
  rw [hloop, outcome_createFrom_exhausted]
  rfl

/-! ## §4. The whole call. -/

/-- A call whose initial alias is refused draws nothing and changes nothing. -/
theorem Idle.call_create_refused {e : ServiceError} (h : db.Idle) (hid : db.committed.Identity)
    (c : Connection) (supply : Supply) (hcheck : db.committed.book.check reserved n = .error e) :
    db.call c supply (create reserved (some n))
      = { value := .error e
          state := db
          log := [Call.failureRecord createEvent "-" n e]
          draws := 0 } := by
  obtain ⟨k, houtcome⟩ := h.outcome_create_refused hid c supply hcheck
  exact call_of_outcome houtcome

/-- A call that finds a vacant id among its three takes the first one. -/
theorem Idle.call_create_vacant (h : db.Idle) (hid : db.committed.Identity) (c : Connection)
    (supply : Supply) (reserved : ReservedNames) (initial : Option String)
    (hcheck : ∀ n ∈ initial, db.committed.book.check reserved n = .ok ())
    (hfresh : initial ≠ none → ∀ k, ∀ a ∈ db.committed.aliases, a.id ≠ (supply.fresh k).id.render)
    {k : Nat} (hk : k < 3) (hvacant : db.committed.Vacant initial (drawnId supply k))
    (htaken : ∀ j < k, ¬db.committed.Vacant initial (drawnId supply j)) :
    ∃ i, let fresh := supply.fresh i
      let d := Document.created fresh (drawnId supply k) initial
      db.call c supply (create reserved initial)
        = { value := .ok d
            state := { db with committed := db.committed.created fresh (drawnId supply k) initial }
            log := collisions 1 k ++ [createdRecord d]
            draws := k + 1 } := by
  obtain ⟨i, hpassed⟩ := h.outcome_create_passed hid c supply hcheck
  refine ⟨i + k, ?_⟩
  -- of the three draws that are allowed, `2 - k` are left over
  have hdraws : createAttempts = k + (2 - k + 1) := by
    show 3 = _
    omega
  have hinitial : ∀ n ∈ initial, ∀ m ∈ db.committed.names, m.name ≠ n :=
    fun n hn => unclaimed_of_check hid.toIndexed (hcheck n hn)
  have hloop := h.outcome_createFrom_vacant hid c hvacant htaken hinitial hfresh i (2 - k)
  rw [← hdraws] at hloop
  exact call_of_outcome (hpassed.trans hloop)

/-- A call that finds none fails and changes nothing. -/
theorem Idle.call_create_none (h : db.Idle) (hid : db.committed.Identity) (c : Connection)
    (supply : Supply) (reserved : ReservedNames) (initial : Option String)
    (hcheck : ∀ n ∈ initial, db.committed.book.check reserved n = .ok ())
    (htaken : ∀ j < 3, ¬db.committed.Vacant initial (drawnId supply j)) :
    db.call c supply (create reserved initial)
      = { value := .error exhausted
          state := db
          log := collisions 1 3 ++ [Call.failureRecord createEvent "-" (initial.getD "") exhausted]
          draws := 3 } := by
  obtain ⟨i, hpassed⟩ := h.outcome_create_passed hid c supply hcheck
  exact call_of_outcome (hpassed.trans (h.outcome_createFrom_none hid c htaken i))

/-- Of some draws one is the first vacant one, or none is vacant. -/
theorem first_vacant_or_none (P : Nat → Prop) (m : Nat) :
    (∃ k < m, P k ∧ ∀ j < k, ¬P j) ∨ ∀ j < m, ¬P j := by
  induction m with
  | zero => exact Or.inr fun j hj => absurd hj (Nat.not_lt_zero j)
  | succ m ih =>
    rcases ih with ⟨k, hk, hfirst⟩ | hnone
    · exact Or.inl ⟨k, Nat.lt_succ_of_lt hk, hfirst⟩
    · by_cases hP : P m
      · exact Or.inl ⟨m, Nat.lt_succ_self m, hP, hnone⟩
      · refine Or.inr fun j hj => ?_
        rcases Nat.lt_succ_iff_lt_or_eq.1 hj with hj | rfl
        · exact hnone j hj
        · exact hP

/-! ## §5. Every reachable state. -/

/-- **The first vacant id is taken**, in every state that clients of the library reach, while no
transaction is open.  An initial alias that fails the check ends the call before anything is drawn.
Otherwise the first draw whose id is vacant gives the public id: the new document has it, with the
initial alias as its only and primary one if it was given; every draw before it is recorded once, and
the tables are left as they were but for the document, the alias and their two claims.  If three draws
are all taken, the call fails and leaves the store as it was. -/
theorem creation_takes_first_vacant (events : List Event)
    (hlibrary : ∀ e ∈ events, e.isLibrary = true)
    (hheld : (empty.after events).held = none) (hreaders : (empty.after events).readers = [])
    (c : Connection) (reserved : ReservedNames) (supply : Supply) (initial : Option String)
    (hfresh : initial ≠ none → ∀ k, ∀ a ∈ (empty.after events).committed.aliases,
      a.id ≠ (supply.fresh k).id.render) :
    let db := empty.after events
    let t := db.committed
    let o := db.call c supply ((ServiceCall.create initial).dialogue reserved)
    (∀ n ∈ initial, ∀ e, t.book.check reserved n = .error e →
      o.value = .error e ∧ o.draws = 0 ∧ o.state = db) ∧
    ((∀ n ∈ initial, t.book.check reserved n = .ok ()) →
      (∀ k < 3, t.Vacant initial (drawnId supply k) →
        (∀ j < k, ¬t.Vacant initial (drawnId supply j)) →
        ∃ i, let fresh := supply.fresh i
          let d := Document.created fresh (drawnId supply k) initial
          o = { value := .ok d
                state := { db with committed := t.created fresh (drawnId supply k) initial }
                log := collisions 1 k ++ [createdRecord d]
                draws := k + 1 }) ∧
      ((∀ j < 3, ¬t.Vacant initial (drawnId supply j)) →
        o = { value := .error exhausted
              state := db
              log := collisions 1 3 ++
                [Call.failureRecord createEvent "-" (initial.getD "") exhausted]
              draws := 3 })) := by
  intro db t o
  have hidle : db.Idle := ⟨hheld, hreaders⟩
  have hid : db.committed.Identity := (identity_holds hlibrary).1
  constructor
  · intro n hn e hcheck
    cases hn
    have ho : o = _ := hidle.call_create_refused hid c supply hcheck
    rw [ho]
    exact ⟨rfl, rfl, rfl⟩
  · intro hcheck
    constructor
    · intro k hk hvacant htaken
      exact hidle.call_create_vacant hid c supply reserved initial hcheck hfresh hk hvacant htaken
    · intro htaken
      exact hidle.call_create_none hid c supply reserved initial hcheck htaken

/-- A document under the id that a block of zeros gives. -/
def zerosTaken : List Event :=
  [.request 1 ⟨⟨0⟩, 5⟩ (.createDocument "00000000000000000000000000" none)]

/-- Blocks of zeros, of ones and of twos. -/
def countingSupply : Supply :=
  { fresh := fun k => ⟨⟨BitVec.ofNat 128 (k + 1)⟩, 6⟩
    blocks := drawFrom (Vector.replicate 16 0) [Vector.replicate 16 1, Vector.replicate 16 2] }

/-- The first id is a public id, the second the name of the initial alias, the third is vacant; and
where every draw gives the first one, the call fails. -/
theorem creation_takes_first_vacant_zerosTaken :
    (let o := (empty.after zerosTaken).call 2 countingSupply
        ((ServiceCall.create (some "040g2081040g2081040g208104")).dialogue ⟨["admin"]⟩)
     o.draws = 3 ∧ o.log.map (·.level) = [.warn, .warn, .info] ∧
      ∃ d : Document, o.value = .ok d ∧ d.publicId = "081040g2081040g2081040g208" ∧
        d.names = ["040g2081040g2081040g208104"]) ∧
    (let o := (empty.after zerosTaken).call 2 plainSupply ((ServiceCall.create none).dialogue ⟨[]⟩)
     o.draws = 3 ∧ o.state = empty.after zerosTaken) := by
  constructor
  · have hvacant := creation_takes_first_vacant zerosTaken (by decide) (by decide +kernel)
      (by decide +kernel) 2 ⟨["admin"]⟩ countingSupply (some "040g2081040g2081040g208104")
      (fun _ k a ha => by
        have hnone : (empty.after zerosTaken).committed.aliases = [] := by decide +kernel
        rw [hnone] at ha
        cases ha)
    obtain ⟨i, ho⟩ := (hvacant.2 (by decide +kernel)).1 2 (by decide) (by decide +kernel)
      (by decide +kernel)
    have hthird : drawnId countingSupply 2 = "081040g2081040g2081040g208" := by decide +kernel
    rw [ho]
    exact ⟨rfl, rfl, _, rfl, hthird, rfl⟩
  · have hnone := creation_takes_first_vacant zerosTaken (by decide) (by decide +kernel)
      (by decide +kernel) 2 ⟨[]⟩ plainSupply none (fun h => absurd rfl h)
    have ho := (hnone.2 (fun n hn => by cases hn)).2 (by decide +kernel)
    rw [ho]
    exact ⟨rfl, rfl⟩

end Database

end Namebook
