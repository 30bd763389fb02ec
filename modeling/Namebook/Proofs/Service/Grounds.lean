/-
  Namebook.Proofs.Service.Grounds
  ───────────────────────────────
  **WHAT A REJECTED NAME RESTS ON.**

  A call that rejects a name as being in use says in which half of the namespace it is.  It has seen
  the name there; or a change was refused for the name, and the look that followed did not find it in
  the other half, so that this half was inferred.

    • `Grounds` — the transcripts that lead to such a rejection;
    • `founded_dialogue` — adding an alias and creating a document reject a name on no other grounds.
-/
import Namebook.Proofs.Service.Conclusion

namespace Namebook

/-- The other half of the namespace. -/
def NameKind.other : NameKind → NameKind
  | publicId => aliasName
  | aliasName => publicId

/-! ## §1. Grounds. -/

/-- A look-up that found a name in one half of the namespace. -/
inductive Finds (n : String) : NameKind → (r : Request) → r.Answer → Prop where
  | byName {a : Alias} : Finds n .aliasName (.findAliasByName n) (.ok (some a))
  | byOwner {d : Document} : Finds n .aliasName (.findByAlias n) (.ok (some d))
  | byId {d : Document} : Finds n .publicId (.findByPublicId n) (.ok (some d))

/-- A look-up that did not find a name in one half of the namespace. -/
inductive Misses (n : String) : NameKind → (r : Request) → r.Answer → Prop where
  | byName : Misses n .aliasName (.findAliasByName n) (.ok none)
  | byId : Misses n .publicId (.findByPublicId n) (.ok none)

/-- A change that was refused for the name of an alias. -/
inductive Refuses (n : String) : (r : Request) → r.Answer → Prop where
  | newAlias {p m : String} : Refuses n (.createAlias p n) (.error (.nameTaken m))
  | newDocument {p : String} {initial : Option String} : n ≠ p →
      Refuses n (.createDocument p initial) (.error (.nameTaken n))

/-- **The grounds for rejecting a name** as being in one half of the namespace. -/
inductive Grounds (n : String) : NameKind → List Exchange → Prop where
  /-- It was seen there. -/
  | seen {k : NameKind} {r : Request} {a : r.Answer} (before after : List Exchange) :
      Finds n k r a → Grounds n k (before ++ .asked r a :: after)
  /-- It was refused, and then not seen in the other half. -/
  | inferred {k : NameKind} {r r' : Request} {a : r.Answer} {a' : r'.Answer}
      (before after : List Exchange) : Refuses n r a → Misses n k.other r' a' →
      Grounds n k (before ++ .asked r a :: .asked r' a' :: after)
  /-- A look-up failed as only a change should. -/
  | blamed {k : NameKind} {r : Request} (before after : List Exchange) : r.isChange = false →
      Grounds n k (before ++ .asked r (.error (.nameTaken n)) :: after)

namespace Grounds

variable {n : String} {k : NameKind} {es : List Exchange}

theorem append_left (h : Grounds n k es) (pre : List Exchange) : Grounds n k (pre ++ es) := by
  cases h with
  | seen before after hfinds => rw [← List.append_assoc]; exact .seen _ _ hfinds
  | inferred before after hrefuses hmisses => rw [← List.append_assoc]; exact .inferred _ _ hrefuses hmisses
  | blamed before after hlookup => rw [← List.append_assoc]; exact .blamed _ _ hlookup

theorem append_right (h : Grounds n k es) (post : List Exchange) : Grounds n k (es ++ post) := by
  cases h with
  | seen before after hfinds => rw [List.append_assoc]; exact .seen _ _ hfinds
  | inferred before after hrefuses hmisses => rw [List.append_assoc]; exact .inferred _ _ hrefuses hmisses
  | blamed before after hlookup => rw [List.append_assoc]; exact .blamed _ _ hlookup

end Grounds

/-- A repository's error is told as a name in use only if it is one. -/
theorem ServiceError.ofRepository_eq_alreadyExists_iff {e : RepositoryError} {n : String}
    {k : NameKind} : ofRepository e = .alreadyExists n k ↔ e = .nameTaken n ∧ k = .aliasName := by
  cases e with
  | nameTaken m =>
    unfold ofRepository
    constructor
    · intro h
      injection h with hname hkind
      exact ⟨congrArg _ hname, hkind.symm⟩
    · rintro ⟨hname, rfl⟩
      injection hname with hname
      rw [hname]
  | _ =>
    constructor
    · intro h; cases h
    · intro h; cases h.1

namespace Call

variable {α β : Type}

/-- A name is rejected on grounds only. -/
def Founded (es : List Exchange) (v : Except ServiceError α) : Prop :=
  ∀ n k, v = .error (.alreadyExists n k) → Grounds n k es

theorem founded_append {es : List Exchange} {v : Except ServiceError α} (h : Founded es v)
    (pre : List Exchange) : Founded (pre ++ es) v :=
  fun n k hv => (h n k hv).append_left pre

/-! ### How they compose. -/

theorem founded_bind {x : Call β} {f : β → Call α} (hx : x.Ends Founded)
    (hf : ∀ b, (f b).Ends Founded) : (x >>= f).Ends Founded := by
  rw [ends_bind]
  refine hx.mono fun es v hes => ?_
  cases v with
  | error e =>
    intro n k hv
    injection hv with hv
    exact hes n k (congrArg _ hv)
  | ok b => exact (hf b).mono fun es' w hes' => founded_append hes' es

theorem founded_logged {event publicId name : String} {call : Call α} (h : call.Ends Founded) :
    (logged event publicId name call).Ends Founded := by
  unfold logged
  rw [ends_tryCatch]
  refine h.mono fun es v hes => ?_
  cases v with
  | ok a => exact hes
  | error e => exact ends_fail.2 fun n k hv => (hes n k hv).append_right _

theorem founded_answer {v : Except ServiceError α} (h : ∀ n k, v ≠ .error (.alreadyExists n k)) :
    Ends (ExceptT.mk (pure v)) Founded :=
  ends_answer.2 fun n k hv => absurd hv (h n k)

theorem founded_pure (a : α) : Ends (pure a : Call α) Founded :=
  founded_answer (v := .ok a) fun n k h => by cases h

theorem founded_log (entry : Log.Record) : Ends (Dialogue.log entry : Dialogue Unit) Founded :=
  ends_log.2 fun n k hv => by cases hv

theorem founded_report (entry : Log.Record) (a : α) :
    Call.Ends (do (Dialogue.log entry : Dialogue Unit); return a) Founded :=
  founded_bind (founded_log entry) fun _ => founded_pure a

theorem founded_fail {event publicId name : String} {e : ServiceError}
    (h : ∀ n k, e ≠ .alreadyExists n k) : (fail event publicId name e : Call α).Ends Founded :=
  ends_fail.2 fun n k hv => absurd (Except.error.inj hv) (h n k)

/-- A look-up and what follows from it. -/
theorem founded_lookup {r : Request} {f : r.Found → Call α} (hr : r.isChange = false)
    (hf : ∀ v, (f v).Ends fun es w => Founded (.asked r (.ok v) :: es) w) :
    Ends (ofAnswer (Dialogue.request r) >>= f) Founded := by
  rw [ends_bind, ends_ofAnswer]
  intro a
  cases a with
  | ok v => exact hf v
  | error e =>
    intro n k hv
    obtain ⟨rfl, -⟩ := ServiceError.ofRepository_eq_alreadyExists_iff.1 (Except.error.inj hv)
    exact .blamed [] [] hr

/-- What follows may rest on itself alone. -/
theorem founded_cons {call : Call α} (h : call.Ends Founded) (e : Exchange) :
    call.Ends fun es w => Founded (e :: es) w :=
  h.mono fun _ _ hes => founded_append hes [e]

/-- A name that was seen is rejected. -/
theorem founded_seen {n : String} {k : NameKind} {r : Request} {a : r.Answer} (h : Finds n k r a) :
    Ends (throw (.alreadyExists n k) : Call α) fun es w => Founded (.asked r a :: es) w := by
  refine ends_throw.2 fun n' k' hv => ?_
  injection hv with hv
  injection hv with hn hk
  subst hn hk
  exact .seen [] [] h

/-- The name check rejects no name for being in use. -/
theorem founded_checkName (reserved : ReservedNames) (name : String) :
    Ends (ExceptT.mk (pure (checkName reserved name))) Founded := by
  refine founded_answer fun n k => ?_
  unfold checkName
  split
  · intro h; cases h
  · split
    · intro h; cases h
    · intro h; cases h

end Call

/-! ## §2. The two calls. -/

open Call

namespace AliasService

variable {p n : String}

theorem founded_checkNew (reserved : ReservedNames) (n : String) :
    (checkNew reserved n).Ends Founded := by
  unfold checkNew
  refine founded_bind (founded_checkName reserved n) fun _ => founded_lookup rfl fun found => ?_
  cases found with
  | some a => exact founded_seen .byName
  | none =>
    refine founded_cons (founded_lookup rfl fun found => ?_) _
    cases found with
    | some d => exact founded_seen .byId
    | none => exact founded_cons (founded_pure ()) _

/-- The look after a refusal decides between what it saw and the other half. -/
theorem founded_claimFailure (e : RepositoryError) : (claimFailure n e).Ends fun es w =>
    Founded (.asked (.createAlias p n) (.error e) :: es) w := by
  unfold claimFailure
  split
  next m =>
    rw [ends_bind]
    unfold findAliasByName
    rw [ends_ofAnswer]
    intro a
    cases a with
    | error e =>
      intro n' k hv
      obtain ⟨rfl, -⟩ := ServiceError.ofRepository_eq_alreadyExists_iff.1 (Except.error.inj hv)
      exact .blamed [_] [] rfl
    | ok found =>
      cases found with
      | some a =>
        refine ends_throw.2 fun n' k hv => ?_
        cases hv
        exact .seen [_] [] .byName
      | none =>
        refine ends_throw.2 fun n' k hv => ?_
        cases hv
        exact .inferred [] [] .newAlias .byName
  next hnot =>
    refine ends_throw.2 fun n' k hv => ?_
    obtain ⟨htaken, -⟩ := ServiceError.ofRepository_eq_alreadyExists_iff.1 (Except.error.inj hv)
    exact absurd htaken (hnot n')

theorem founded_add (reserved : ReservedNames) (p n : String) :
    (add reserved p n).Ends Founded := by
  unfold add
  refine founded_logged (founded_bind (founded_checkNew reserved n) fun _ => ?_)
  refine founded_bind ?_ fun d => founded_report _ d
  unfold create
  rw [ends_bind, ends_request]
  intro a
  cases a with
  | ok d => exact founded_cons (founded_pure d) _
  | error e => exact founded_claimFailure e

end AliasService

namespace DocumentService

theorem founded_checkInitial (reserved : ReservedNames) (n : String) :
    (checkInitial reserved n).Ends Founded := by
  unfold checkInitial
  refine founded_bind (founded_checkName reserved n) fun _ => founded_lookup rfl fun found => ?_
  cases found with
  | some d => exact founded_seen .byOwner
  | none =>
    refine founded_cons (founded_lookup rfl fun found => ?_) _
    cases found with
    | some d => exact founded_seen .byId
    | none => exact founded_cons (founded_pure ()) _

/-- Here the look after a refusal is for the other half, and so is what it infers. -/
theorem founded_takenMeanwhile {p n : String} {initial : Option String} (hne : n ≠ p) :
    (takenMeanwhile p n).Ends fun es w =>
      Founded (.asked (.createDocument p initial) (.error (.nameTaken n)) :: es) w := by
  unfold takenMeanwhile
  rw [ends_bind]
  unfold findByPublicId
  rw [ends_ofAnswer]
  intro a
  cases a with
  | error e =>
    intro n' k hv
    obtain ⟨rfl, -⟩ := ServiceError.ofRepository_eq_alreadyExists_iff.1 (Except.error.inj hv)
    exact .blamed [_] [] rfl
  | ok found =>
    cases found with
    | some d =>
      refine ends_fail.2 fun n' k hv => ?_
      cases hv
      exact .seen [_] [_] .byId
    | none =>
      refine ends_fail.2 fun n' k hv => ?_
      cases hv
      exact .inferred [] [_] (.newDocument hne) .byId

theorem founded_createFrom (initial : Option String) (attempt left : Nat) :
    (createFrom initial attempt left).Ends Founded := by
  induction left generalizing attempt with
  | zero => exact founded_fail fun n k h => by cases h
  | succ left ih =>
    unfold createFrom
    refine founded_bind (ends_block.2 fun b n k hv => by cases hv) fun block => ?_
    generalize PublicId.encode block = publicId
    rw [ends_bind, ends_request]
    intro a
    cases a with
    | ok d => exact founded_cons (founded_report _ d) _
    | error e =>
      cases e with
      | nameTaken name =>
        show Call.Ends (if name = publicId then _ else _) _
        split
        · exact founded_cons (founded_bind (founded_log _) fun _ => ih (attempt + 1)) _
        next hne => exact founded_takenMeanwhile hne
      | _ => exact founded_cons (founded_fail fun n k h => by cases h) _

theorem founded_create (reserved : ReservedNames) (initial : Option String) :
    (create reserved initial).Ends Founded := by
  unfold create
  cases initial with
  | none => exact founded_createFrom none 1 createAttempts
  | some name =>
    refine founded_bind (founded_logged (founded_checkInitial reserved name)) fun _ => ?_
    exact founded_createFrom (some name) 1 createAttempts

end DocumentService

/-- Calls that bring a name into use. -/
def ServiceCall.isAdding : ServiceCall → Bool
  | add _ _ => true
  | create _ => true
  | _ => false

/-- **A name is rejected on grounds only.** -/
theorem ServiceCall.founded_dialogue (reserved : ReservedNames) {s : ServiceCall}
    (h : s.isAdding = true) : (s.dialogue reserved).Ends Founded := by
  cases s with
  | add p n => exact AliasService.founded_add reserved p n
  | create initial => exact DocumentService.founded_create reserved initial
  | _ => cases h

end Namebook
