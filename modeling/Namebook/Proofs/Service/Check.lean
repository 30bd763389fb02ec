/-
  Namebook.Proofs.Service.Check
  ─────────────────────────────
  **THE CHECK OF A NAME — one check, whichever service makes it.**

  New and initial aliases are checked by different services, which look in different ways whether the
  name is in use.  Both checks are `Call.checked`: a test of the name, a look among the aliases and a
  look among the public ids.  Its outcome is `Call.verdict`, whoever answers:

    • `Call.outcome_checked`.
-/
import Namebook.Proofs.Service.Paired
import Namebook.Proofs.Service.Result

namespace Namebook

namespace Call

/-- Whether a name is fit and free, or the first reason why not. -/
def verdict (reserved : ReservedNames) (n : String) (isAlias isDocument : Bool) :
    Except ServiceError Unit :=
  if Text.isBlank n then .error .invalidName
  else if reserved.contains n then .error (.forbiddenName n)
  else if isAlias then .error (.alreadyExists n .aliasName)
  else if isDocument then .error (.alreadyExists n .publicId)
  else .ok ()

/-- A fit name that neither look has found passes. -/
theorem verdict_of_checkName {reserved : ReservedNames} {n : String}
    (h : checkName reserved n = .ok ()) : verdict reserved n false false = .ok () := by
  unfold checkName at h
  unfold verdict
  split at h
  · cases h
  next hblank =>
  split at h
  · cases h
  next hreserved =>
  rw [if_neg hblank, if_neg hreserved]
  rfl

variable {α β σ : Type} {answer : (r : Request) → σ → r.Answer × σ} {blocks : Nat → Block}
  {reserved : ReservedNames} {n : String}

/-- The result of a call is its outcome without the log. -/
theorem result_of_outcome {call : Call α} {s : σ} {drawn : Nat}
    {o : Dialogue.Outcome (Except ServiceError α) σ} (h : outcome answer blocks call s drawn = o) :
    result answer blocks call (s, drawn) = (o.value, o.state, o.draws) := by
  subst h
  rfl

theorem outcome_answer (v : Except ServiceError α) (s : σ) (drawn : Nat) :
    outcome answer blocks (ExceptT.mk (pure v)) s drawn = ⟨v, s, [], drawn⟩ := rfl

/-- **The outcome of a check** is the verdict on the name; nothing is drawn or logged.  A check that is
passed has made both looks. -/
theorem outcome_checked (reserved : ReservedNames) (n : String) {first : Call (Option α)}
    {second : Call (Option β)} {a : Option α} {b : Option β} {s s₁ s₂ : σ} {drawn : Nat}
    (hfirst : outcome answer blocks first s drawn = ⟨.ok a, s₁, [], drawn⟩)
    (hsecond : outcome answer blocks second s₁ drawn = ⟨.ok b, s₂, [], drawn⟩) :
    ∃ s', outcome answer blocks (checked reserved n first second) s drawn
        = ⟨verdict reserved n a.isSome b.isSome, s', [], drawn⟩ ∧
      (s' = s ∨ s' = s₁ ∨ s' = s₂) ∧
      (verdict reserved n a.isSome b.isSome = .ok () → s' = s₂) := by
  unfold checked verdict
  rw [outcome_bind, outcome_answer]
  unfold checkName
  by_cases hblank : Text.isBlank n = true
  · rw [if_pos hblank, if_pos hblank]
    exact ⟨s, rfl, Or.inl rfl, fun h => by cases h⟩
  rw [if_neg hblank, if_neg hblank]
  by_cases hreserved : reserved.contains n = true
  · rw [if_pos hreserved, if_pos hreserved]
    exact ⟨s, rfl, Or.inl rfl, fun h => by cases h⟩
  rw [if_neg hreserved, if_neg hreserved]
  dsimp only
  rw [outcome_bind, hfirst]
  dsimp only
  by_cases halias : a.isSome = true
  · rw [if_pos halias, if_pos halias]
    exact ⟨s₁, rfl, Or.inr (Or.inl rfl), fun h => by cases h⟩
  rw [if_neg halias, if_neg halias, outcome_bind, hsecond]
  dsimp only
  by_cases hdoc : b.isSome = true
  · rw [if_pos hdoc, if_pos hdoc]
    exact ⟨s₂, rfl, Or.inr (Or.inr rfl), fun h => by cases h⟩
  · rw [if_neg hdoc, if_neg hdoc]
    exact ⟨s₂, rfl, Or.inr (Or.inr rfl), fun _ => rfl⟩

/-- A fit name passes if both looks find nothing. -/
theorem result_of_passed {first : Call (Option α)} {second : Call (Option β)} {s s₁ s₂ : σ}
    {drawn : Nat} (hname : checkName reserved n = .ok ())
    (hfirst : outcome answer blocks first s drawn = ⟨.ok none, s₁, [], drawn⟩)
    (hsecond : outcome answer blocks second s₁ drawn = ⟨.ok none, s₂, [], drawn⟩) :
    result answer blocks (checked reserved n first second) (s, drawn) = (.ok (), s₂, drawn) := by
  have hverdict := verdict_of_checkName hname
  obtain ⟨s', houtcome, -, hlast⟩ := outcome_checked reserved n hfirst hsecond
  rw [result_of_outcome houtcome, hlast hverdict]
  show (verdict reserved n false false, s₂, drawn) = _
  rw [hverdict]

end Call

namespace Database

variable {db : Database} {c : Connection} {supply : Supply} {k m : Nat}

/-- A look-up of a service, answered from a store. -/
theorem outcome_lookup {r : Request} {v : r.Found}
    (h : db.answer c (supply.fresh k) r = (.ok v, db)) :
    Call.outcome (serve c supply.fresh) supply.blocks (Call.ofAnswer (Dialogue.request r)) (db, k) m
      = ⟨.ok v, (db, k + 1), [], m⟩ := by
  show Dialogue.Outcome.mk ((serve c supply.fresh r (db, k)).1.mapError ServiceError.ofRepository)
    (serve c supply.fresh r (db, k)).2 [] m = _
  rw [serve_of_answer h]
  rfl

/-- **A check that is answered from a store** draws, logs and changes nothing. -/
theorem outcome_checked {α β : Type} (reserved : ReservedNames) (n : String)
    {first : Call (Option α)} {second : Call (Option β)} {a : Option α} {b : Option β}
    (hfirst : Call.outcome (serve c supply.fresh) supply.blocks first (db, k) m
      = ⟨.ok a, (db, k + 1), [], m⟩)
    (hsecond : Call.outcome (serve c supply.fresh) supply.blocks second (db, k + 1) m
      = ⟨.ok b, (db, k + 2), [], m⟩) :
    ∃ k', Call.outcome (serve c supply.fresh) supply.blocks (Call.checked reserved n first second)
      (db, k) m = ⟨Call.verdict reserved n a.isSome b.isSome, (db, k'), [], m⟩ := by
  obtain ⟨s', houtcome, hs, -⟩ := Call.outcome_checked reserved n hfirst hsecond
  obtain ⟨k', rfl⟩ : ∃ k', s' = (db, k') := by
    rcases hs with rfl | rfl | rfl <;> exact ⟨_, rfl⟩
  exact ⟨k', houtcome⟩

/-- A call on a store, from the outcome of its dialogue. -/
theorem call_of_outcome {α : Type} {body : Call α}
    {o : Dialogue.Outcome (Except ServiceError α) (Database × Nat)}
    (h : Call.outcome (serve c supply.fresh) supply.blocks body (db, 0) 0 = o) :
    db.call c supply body = ⟨o.value, o.state.1, o.log, o.draws⟩ := by
  subst h
  rfl

end Database

end Namebook
