/-
  Namebook.Proofs.Service.Sides
  ─────────────────────────────
  **ONE CALL ON TWO STORES.**

  The stores answer the requests of the call alike: both grant, or both refuse with errors that differ in
  alias names only.  Then the two runs go the same way, end alike and write the same records; for a
  record gives the length of a name, and an error that is written out names no alias.

    • `Renaming.Fails`, `failureRecord_eq` — errors that are recorded alike;
    • `Sides.Answers`, `Sides.Calls` — requests that are answered alike, and calls that end alike;
    • `answers_…`, `writes_alike` — requests of stores with the same locks;
    • `calls_add`, `calls_remove`, `calls_promote`, `calls_view`, `calls_resolve`.
-/
import Namebook.Proofs.Service.Paired
import Namebook.Proofs.Repository.Mirror

namespace Namebook

/-! ## §1. Errors. -/

namespace Renaming

variable {ρ : Renaming}

/-- An error of a service, its name renamed. -/
def onFailure (ρ : Renaming) : ServiceError → ServiceError
  | .forbiddenName n => .forbiddenName (ρ n)
  | .alreadyExists n conflict => .alreadyExists (ρ n) conflict
  | .aliasNotFound n => .aliasNotFound (ρ n)
  | .documentNotFound n => .documentNotFound (ρ n)
  | .primaryRemovalForbidden n => .primaryRemovalForbidden (ρ n)
  | e => e

/-- **Two errors of services that are the same**, or differ in their name only. -/
def Fails (ρ : Renaming) (e e' : ServiceError) : Prop := e' = e ∨ e' = ρ.onFailure e

theorem fails_ofRepository {e e' : RepositoryError} (h : ρ.Errs e e') :
    ρ.Fails (.ofRepository e) (.ofRepository e') := by
  have h : e' = ρ.onError e := h
  subst h
  cases e with
  | documentNotFound p => exact Or.inl rfl
  | _ => exact Or.inr rfl

theorem fails_refl {e e' : ServiceError} (h : refl.Fails e e') : e' = e := by
  rcases h with h | h
  · exact h
  · rw [h]
    cases e <;> rfl

theorem lengthText_eq (ρ : Renaming) (n : String) : Call.lengthText (ρ n) = Call.lengthText n := by
  unfold Call.lengthText
  rw [ρ.size]

theorem kind_onFailure (ρ : Renaming) (e : ServiceError) : (ρ.onFailure e).kind = e.kind := by
  cases e <;> rfl

/-- An error whose text is written out is not renamed. -/
theorem onFailure_of_internal {e : ServiceError} (h : e.kind = .internal) : ρ.onFailure e = e := by
  cases e with
  | invariantViolation _ | repository _ => rfl
  | _ => cases h

/-- **Such errors leave the same record**, if the name that was asked for is renamed as well. -/
theorem failureRecord_eq {e e' : ServiceError} (h : ρ.Fails e e') (event p n : String) :
    Call.failureRecord event p n e = Call.failureRecord event p (ρ n) e' := by
  unfold Call.failureRecord
  rw [ρ.lengthText_eq]
  rcases h with rfl | rfl
  · rfl
  · rw [ρ.kind_onFailure]
    by_cases hinternal : e.kind = .internal
    · rw [onFailure_of_internal hinternal]
    · -- a refusal gives its kind and, at most, which name is in the way
      rw [if_neg hinternal, if_neg hinternal]
      cases e <;> rfl

/-- A name that is accepted, is accepted renamed, where the reserved names are those renamed. -/
theorem paired_checkName {reserved reserved' : ReservedNames}
    (h : ∀ n, reserved'.contains (ρ n) = reserved.contains n) (n : String) :
    Paired ρ.Fails (fun _ _ => True) (Call.checkName reserved n) (Call.checkName reserved' (ρ n)) := by
  unfold Call.checkName
  rw [ρ.blank, h]
  split
  · exact Or.inl rfl
  · split
    · exact Or.inr rfl
    · exact trivial

end Renaming

/-! ## §2. Two stores. -/

/-- **Two stores that are called over one connection**, each with a supply of its own, and how the names
of the one are written in the other. -/
structure Sides where
  ρ : Renaming
  connection : Connection
  supply : Supply
  supply' : Supply
  db : Database
  db' : Database

/-- What is drawn for the same request from one supply and from another. -/
def Supply.Draws (supply supply' : Supply) (f f' : Fresh) : Prop :=
  ∃ k, f = supply.fresh k ∧ f' = supply'.fresh k

namespace Sides

variable (S : Sides)

/-- What the two sides draw for each other. -/
abbrev Draws : Fresh → Fresh → Prop := S.supply.Draws S.supply'

/-- **Two requests are answered alike** whenever they are made: both are refused, or both are granted
and `V` holds of what is found and of the stores that are left. -/
def Answers (r r' : Request) (V : r.Found → Database → r'.Found → Database → Prop) : Prop :=
  ∀ k, (∃ e e', S.ρ.Errs e e' ∧ S.db.answer S.connection (S.supply.fresh k) r = (.error e, S.db) ∧
      S.db'.answer S.connection (S.supply'.fresh k) r' = (.error e', S.db')) ∨
    ∃ a s a' s', V a s a' s' ∧ S.db.answer S.connection (S.supply.fresh k) r = (.ok a, s) ∧
      S.db'.answer S.connection (S.supply'.fresh k) r' = (.ok a', s')

/-- Nothing was written so far, and equally many requests were made. -/
def At (s s' : Database × Nat) : Prop := s.1 = S.db ∧ s'.1 = S.db' ∧ s.2 = s'.2

/-- The outcomes of two calls: both fail and leave the stores as they were, or both succeed and `W` holds
of what they give and leave. -/
def Ends {α β : Type} (W : α → Database → β → Database → Prop) :
    Dialogue.Outcome (Except ServiceError α) (Database × Nat) →
      Dialogue.Outcome (Except ServiceError β) (Database × Nat) → Prop :=
  Call.Paired (fun e s e' s' => S.ρ.Fails e e' ∧ S.At s s')
    (fun a s b s' => W a s.1 b s'.1 ∧ s.2 = s'.2)

/-- **Two calls end alike**, however many requests and draws were made before. -/
def Calls {α β : Type} (W : α → Database → β → Database → Prop) (x : Call α) (y : Call β) : Prop :=
  ∀ s s' drawn, S.At s s' →
    S.Ends W (Call.outcome (Database.serve S.connection S.supply.fresh) S.supply.blocks x s drawn)
      (Call.outcome (Database.serve S.connection S.supply'.fresh) S.supply'.blocks y s' drawn)

/-- What a look-up finds, of stores that it leaves as they are. -/
def Found {α β : Type} (R : α → β → Prop) (a : α) (s : Database) (b : β) (s' : Database) : Prop :=
  R a b ∧ s = S.db ∧ s' = S.db'

variable {S} {α α' β β' : Type} {W : α → Database → β → Database → Prop} {R : α' → β' → Prop}

/-! ## §3. Calls, step by step. -/

theorem calls_pure {a : α} {b : β} (h : W a S.db b S.db') :
    S.Calls W (pure a : Call α) (pure b : Call β) := by
  rintro ⟨db, k⟩ ⟨db', k'⟩ drawn ⟨rfl, rfl, hk⟩
  exact Call.paired_pure ⟨h, hk⟩

theorem calls_throw {e e' : ServiceError} (h : S.ρ.Fails e e') :
    S.Calls W (throw e : Call α) (throw e' : Call β) :=
  fun _ _ _ hat => Call.paired_throw ⟨h, hat⟩

theorem calls_answer {v : Except ServiceError α'} {v' : Except ServiceError β'}
    (h : Paired S.ρ.Fails R v v') :
    S.Calls (S.Found R) (ExceptT.mk (pure v) : Call α') (ExceptT.mk (pure v') : Call β') := by
  rintro ⟨db, k⟩ ⟨db', k'⟩ drawn ⟨rfl, rfl, hk⟩
  exact Call.paired_answer (h.mono (fun e e' he => ⟨he, rfl, rfl, hk⟩) fun a b hR => ⟨⟨hR, rfl, rfl⟩, hk⟩)

theorem Calls.mono {W' : α → Database → β → Database → Prop} {x : Call α} {y : Call β}
    (h : S.Calls W x y) (hW : ∀ a s b s', W a s b s' → W' a s b s') : S.Calls W' x y :=
  fun s s' drawn hat => (h s s' drawn hat).mono fun a t b t' hab => ⟨hW a t.1 b t'.1 hab.1, hab.2⟩

/-- First both look, then both go on. -/
theorem calls_bind {x : Call α'} {y : Call β'} {f : α' → Call α} {g : β' → Call β}
    (hx : S.Calls (S.Found R) x y) (hf : ∀ a b, R a b → S.Calls W (f a) (g b)) :
    S.Calls W (x >>= f) (y >>= g) := by
  intro s s' drawn hat
  refine Call.paired_bind (hx s s' drawn hat) ?_
  rintro a b t t' drawn ⟨⟨hR, ht, ht'⟩, hk⟩
  exact hf a b hR t t' drawn ⟨ht, ht', hk⟩

theorem calls_ite {p p' : Prop} [Decidable p] [Decidable p'] {x y : Call α} {x' y' : Call β}
    (hp : p ↔ p') (hthen : p → S.Calls W x x') (helse : ¬p → S.Calls W y y') :
    S.Calls W (if p then x else y : Call α) (if p' then x' else y' : Call β) :=
  fun s s' drawn hat => Call.paired_ite hp (fun h => hthen h s s' drawn hat)
    fun h => helse h s s' drawn hat

/-- What follows a failure does not count. -/
theorem calls_throw_bind {e e' : ServiceError} {f : α' → Call α} {g : β' → Call β}
    (h : S.ρ.Fails e e') :
    S.Calls W ((throw e : Call α') >>= f) ((throw e' : Call β') >>= g) :=
  fun _ _ _ hat => Call.paired_throw_bind ⟨h, hat⟩

/-- A request whose refusal ends the call. -/
theorem calls_ofAnswer {r r' : Request} {V : r.Found → Database → r'.Found → Database → Prop}
    (h : S.Answers r r' V) :
    S.Calls V (Call.ofAnswer (Dialogue.request r)) (Call.ofAnswer (Dialogue.request r')) := by
  rintro ⟨db, k⟩ ⟨db', k'⟩ drawn ⟨rfl, rfl, rfl⟩
  refine Call.paired_ofAnswer ?_
  unfold Database.serve
  rcases h k with ⟨e, e', herr, hanswer, hanswer'⟩ | ⟨a, s, a', s', hV, hanswer, hanswer'⟩
  · simp only [hanswer, hanswer']
    exact ⟨Renaming.fails_ofRepository herr, rfl, rfl, rfl⟩
  · simp only [hanswer, hanswer']
    exact ⟨hV, trivial⟩

/-- A request, and how to go on with its answer. -/
theorem calls_request {r r' : Request} {V : r.Found → Database → r'.Found → Database → Prop}
    {f : r.Answer → Call α} {g : r'.Answer → Call β} (h : S.Answers r r' V)
    (hok : ∀ a a' s s' drawn, V a s.1 a' s'.1 → s.2 = s'.2 →
      S.Ends W (Call.outcome (Database.serve S.connection S.supply.fresh) S.supply.blocks (f (.ok a)) s
          drawn)
        (Call.outcome (Database.serve S.connection S.supply'.fresh) S.supply'.blocks (g (.ok a')) s'
          drawn))
    (herror : ∀ e e', S.ρ.Errs e e' → S.Calls W (f (.error e)) (g (.error e'))) :
    S.Calls W ((Dialogue.request r : Dialogue r.Answer) >>= f)
      ((Dialogue.request r' : Dialogue r'.Answer) >>= g) := by
  rintro ⟨db, k⟩ ⟨db', k'⟩ drawn ⟨rfl, rfl, rfl⟩
  rw [Call.outcome_request, Call.outcome_request]
  unfold Database.serve
  rcases h k with ⟨e, e', herr, hanswer, hanswer'⟩ | ⟨a, s, a', s', hV, hanswer, hanswer'⟩
  · simp only [hanswer, hanswer']
    exact herror e e' herr _ _ drawn ⟨rfl, rfl, rfl⟩
  · simp only [hanswer, hanswer']
    exact hok a a' _ _ drawn hV rfl

/-- **Failures are recorded alike**, since a record gives the length of the name only. -/
theorem calls_logged {event p n : String} {x : Call α} {y : Call β} (h : S.Calls W x y) :
    S.Calls W (Call.logged event p n x) (Call.logged event p (S.ρ n) y) :=
  fun s s' drawn hat => Call.paired_logged (h s s' drawn hat) fun _ _ _ _ hE =>
    Renaming.failureRecord_eq hE.1 event p n

/-- Successes that are recorded alike. -/
theorem calls_report {x : Call α} {y : Call β} {entry : α → Log.Record} {entry' : β → Log.Record}
    (h : S.Calls W x y) (hentry : ∀ a s b s', W a s b s' → entry a = entry' b) :
    S.Calls W
      (do let a ← x
          (Dialogue.log (entry a) : Dialogue Unit)
          return a : Call α)
      (do let b ← y
          (Dialogue.log (entry' b) : Dialogue Unit)
          return b : Call β) :=
  fun s s' drawn hat => Call.paired_report (h s s' drawn hat) fun a s b s' hW =>
    hentry a s.1 b s'.1 hW.1

/-- A record that both write on the way. -/
theorem calls_log {entry : Log.Record} {x : Call α} {y : Call β} (h : S.Calls W x y) :
    S.Calls W (do (Dialogue.log entry : Dialogue Unit); x : Call α)
      (do (Dialogue.log entry : Dialogue Unit); y : Call β) := by
  intro s s' drawn hat
  rw [Call.outcome_log, Call.outcome_log]
  exact (h s s' drawn hat).after [entry]

/-! ## §4. Requests of stores with the same locks. -/

section Requests

variable {T : Tables → Tables → Prop} {n n' : String}

theorem Answers.mono {r r' : Request} {V V' : r.Found → Database → r'.Found → Database → Prop}
    (h : S.Answers r r' V) (hV : ∀ a s a' s', V a s a' s' → V' a s a' s') : S.Answers r r' V' := by
  intro k
  rcases h k with hrefused | ⟨a, s, a', s', hgranted, hanswer⟩
  · exact Or.inl hrefused
  · exact Or.inr ⟨a, s, a', s', hV a s a' s' hgranted, hanswer⟩

/-- A look-up leaves both stores as they are. -/
theorem answers_lookup {r r' : Request} {V : r.Found → r'.Found → Prop} (hr : r.isChange = false)
    (hr' : r'.isChange = false)
    (h : ∀ k, Paired S.ρ.Errs V (S.db.answer S.connection (S.supply.fresh k) r).1
      (S.db'.answer S.connection (S.supply'.fresh k) r').1) :
    S.Answers r r' (S.Found V) := by
  intro k
  have hstate : (S.db.answer S.connection (S.supply.fresh k) r).2 = S.db :=
    Database.answer_of_lookup hr
  have hstate' : (S.db'.answer S.connection (S.supply'.fresh k) r').2 = S.db' :=
    Database.answer_of_lookup hr'
  rcases (h k).cases with ⟨e, e', hv, hv', he⟩ | ⟨a, a', hv, hv', hV⟩
  · exact Or.inl ⟨e, e', he, Prod.ext hv hstate, Prod.ext hv' hstate'⟩
  · exact Or.inr ⟨a, S.db, a', S.db', ⟨hV, rfl, rfl⟩, Prod.ext hv hstate, Prod.ext hv' hstate'⟩

theorem answers_findAlias {V : Option Alias → Option Alias → Prop} (h : S.db.Twins T S.db')
    (hT : ∀ t t', T t t' → Paired S.ρ.Errs V (Rows.findAlias t n) (Rows.findAlias t' n')) :
    S.Answers (.findAliasByName n) (.findAliasByName n') (S.Found V) :=
  answers_lookup rfl rfl fun _ => h.read S.ρ.errs_ofEngine hT

theorem answers_findByPublicId {V : Option Document → Option Document → Prop}
    (h : S.db.Twins T S.db')
    (hT : ∀ t t', T t t' → Paired S.ρ.Errs V (Rows.loadDocument t n) (Rows.loadDocument t' n')) :
    S.Answers (.findByPublicId n) (.findByPublicId n') (S.Found V) :=
  answers_lookup rfl rfl fun _ => h.snapshot S.ρ.errs_ofEngine hT

theorem answers_findByAlias {V : Option Document → Option Document → Prop} (h : S.db.Twins T S.db')
    (hT : ∀ t t', T t t' → Paired S.ρ.Errs V (Rows.findByAlias t n) (Rows.findByAlias t' n')) :
    S.Answers (.findByAlias n) (.findByAlias n') (S.Found V) :=
  answers_lookup rfl rfl fun _ => h.snapshot S.ρ.errs_ofEngine hT

/-- **A change is committed in both stores or in none.** -/
theorem writes_alike {V : Document → Database → Document → Database → Prop} {w w' : Work Document}
    (h : S.db.Twins T S.db')
    (hwork : Work.Paired S.ρ.Errs
      (fun d s d' s' => V d { S.db with committed := s } d' { S.db' with committed := s' } ∧
        (s = S.db.committed ↔ s' = S.db'.committed)) w S.db.committed w' S.db'.committed) :
    (∃ e e', S.ρ.Errs e e' ∧ S.db.write S.connection w = (.error e, S.db) ∧
        S.db'.write S.connection w' = (.error e', S.db')) ∨
      ∃ d s d' s', V d s d' s' ∧ S.db.write S.connection w = (.ok d, s) ∧
        S.db'.write S.connection w' = (.ok d', s') := by
  rcases h.write S.ρ.errs_ofEngine hwork with hrefused | ⟨d, s, d', s', hV, -, hwrite⟩
  · exact Or.inl hrefused
  · exact Or.inr ⟨d, _, d', _, hV, hwrite⟩

end Requests

/-! ## §5. The calls. -/

section Calls

open AliasService DocumentService

variable {p n : String} {reserved reserved' : ReservedNames}
  {V : Document → Database → Document → Database → Prop}

/-- **A new name is accepted by both or by none.** -/
theorem calls_checkNew (hreserved : ∀ m, reserved'.contains (S.ρ m) = reserved.contains m)
    (hfound : S.Answers (.findAliasByName n) (.findAliasByName (S.ρ n))
      (S.Found fun a a' => a'.isSome = a.isSome))
    (hstored : S.Answers (.findByPublicId n) (.findByPublicId (S.ρ n))
      (S.Found fun d d' => d'.isSome = d.isSome)) :
    S.Calls (S.Found fun _ _ => True) (checkNew reserved n) (checkNew reserved' (S.ρ n)) := by
  unfold checkNew
  refine calls_bind (calls_answer (Renaming.paired_checkName hreserved n)) fun _ _ _ => ?_
  refine calls_bind (calls_ofAnswer hfound) fun a a' ha => ?_
  refine calls_ite (by rw [ha]) (fun _ => calls_throw_bind (Or.inr rfl)) fun _ => ?_
  refine calls_bind (calls_ofAnswer hstored) fun d d' hd => ?_
  exact calls_ite (by rw [hd]) (fun _ => calls_throw (Or.inr rfl)) fun _ =>
    calls_pure ⟨trivial, rfl, rfl⟩

theorem calls_create
    (hfound : S.Answers (.findAliasByName n) (.findAliasByName (S.ρ n))
      (S.Found fun a a' => a'.isSome = a.isSome))
    (hcreate : S.Answers (.createAlias p n) (.createAlias p (S.ρ n)) V) :
    S.Calls V (AliasService.create p n) (AliasService.create p (S.ρ n)) := by
  unfold AliasService.create
  refine calls_request hcreate (fun d d' s s' drawn hd hk => Call.paired_pure ⟨hd, hk⟩) ?_
  intro e e' herr
  have herr : e' = S.ρ.onError e := herr
  subst herr
  cases e with
  | nameTaken m =>
    -- the name was taken meanwhile and is looked up once more
    refine calls_bind (calls_ofAnswer hfound) fun a a' ha => ?_
    cases a with
    | none =>
      cases a' with
      | none => exact calls_throw (Or.inr rfl)
      | some a' => cases ha
    | some a =>
      cases a' with
      | none => cases ha
      | some a' => exact calls_throw (Or.inr rfl)
  | _ => exact calls_throw (Renaming.fails_ofRepository rfl)

/-- **Adding an alias.** -/
theorem calls_add (hV : ∀ d s d' s', V d s d' s' → d.Alike S.ρ S.Draws d')
    (hreserved : ∀ m, reserved'.contains (S.ρ m) = reserved.contains m)
    (hfound : S.Answers (.findAliasByName n) (.findAliasByName (S.ρ n))
      (S.Found fun a a' => a'.isSome = a.isSome))
    (hstored : S.Answers (.findByPublicId n) (.findByPublicId (S.ρ n))
      (S.Found fun d d' => d'.isSome = d.isSome))
    (hcreate : S.Answers (.createAlias p n) (.createAlias p (S.ρ n)) V) :
    S.Calls V (add reserved p n) (add reserved' p (S.ρ n)) := by
  unfold add
  refine calls_logged (calls_bind (calls_checkNew hreserved hfound hstored) fun _ _ _ => ?_)
  refine calls_report (calls_create hfound hcreate) fun d s d' s' hgranted => ?_
  have hd := hV d s d' s' hgranted
  have hprimary : isPrimary d' (S.ρ n) = isPrimary d n := hd.isPrimary n
  rw [hd.publicId, S.ρ.lengthText_eq, hprimary]

/-- **Removing an alias.** -/
theorem calls_remove (hV : ∀ d s d' s', V d s d' s' → d.Alike S.ρ S.Draws d')
    (hdelete : S.Answers (.deleteAlias p n) (.deleteAlias p (S.ρ n)) V) :
    S.Calls V (remove p n) (remove p (S.ρ n)) := by
  unfold remove
  refine calls_logged (calls_report (calls_ofAnswer hdelete) fun d s d' s' hgranted => ?_)
  have hd := hV d s d' s' hgranted
  rw [hd.publicId, S.ρ.lengthText_eq, hd.length]

/-- Errors that only say that something is locked name no alias. -/
theorem onError_of_isBusy {ρ : Renaming} {e : RepositoryError} (h : e.isBusy = true) :
    ρ.onError e = e := by
  cases e with
  | store e => rfl
  | _ => cases h

theorem isBusy_onError (ρ : Renaming) (e : RepositoryError) : (ρ.onError e).isBusy = e.isBusy := by
  cases e <;> rfl

theorem calls_tryPromote {onBusy onBusy' : RepositoryError → Call Document}
    (hpromote : S.Answers (.promoteAlias p n) (.promoteAlias p (S.ρ n)) V)
    (hbusy : ∀ e, S.Calls V (onBusy e) (onBusy' e)) :
    S.Calls V (tryPromote p n onBusy) (tryPromote p (S.ρ n) onBusy') := by
  unfold tryPromote
  refine calls_request hpromote (fun d d' s s' drawn hd hk => Call.paired_pure ⟨hd, hk⟩) ?_
  intro e e' herr
  have herr : e' = S.ρ.onError e := herr
  subst herr
  refine calls_ite (by rw [isBusy_onError]) (fun h => ?_) fun _ =>
    calls_throw (Renaming.fails_ofRepository rfl)
  rw [onError_of_isBusy h]
  exact hbusy e

/-- Both are tried equally often. -/
theorem calls_promoteFrom (hpromote : S.Answers (.promoteAlias p n) (.promoteAlias p (S.ρ n)) V)
    (attempt left : Nat) :
    S.Calls V (promoteFrom p n attempt left) (promoteFrom p (S.ρ n) attempt left) := by
  induction left generalizing attempt with
  | zero => exact calls_tryPromote hpromote fun e => calls_throw (Or.inl rfl)
  | succ left ih => exact calls_tryPromote hpromote fun e => calls_log (ih (attempt + 1))

/-- **Making an alias primary.** -/
theorem calls_promote (hV : ∀ d s d' s', V d s d' s' → d.Alike S.ρ S.Draws d')
    (hpromote : S.Answers (.promoteAlias p n) (.promoteAlias p (S.ρ n)) V) :
    S.Calls V (promote p n) (promote p (S.ρ n)) := by
  unfold promote
  refine calls_logged (calls_report (calls_promoteFrom hpromote 1 _) fun d s d' s' hgranted => ?_)
  have hd := hV d s d' s' hgranted
  rw [hd.publicId, S.ρ.lengthText_eq, hd.version]

/-- **Viewing an alias.** -/
theorem calls_view
    (hfound : S.Answers (.findAliasByName n) (.findAliasByName (S.ρ n))
      (S.Found fun a a' => a' = a.map S.ρ.onAlias)) :
    S.Calls (S.Found fun v v' => v' = { v with name := S.ρ v.name }) (view p n) (view p (S.ρ n)) := by
  unfold view
  refine calls_logged (calls_bind (calls_ofAnswer hfound) fun a a' ha => ?_)
  subst ha
  cases a with
  | none => exact calls_throw (Or.inr rfl)
  | some a => exact calls_pure ⟨rfl, rfl, rfl⟩

/-- **Resolving a name.** -/
theorem calls_resolve
    (hstored : S.Answers (.findByPublicId n) (.findByPublicId (S.ρ n))
      (S.Found (Option.Rel (Document.Alike S.ρ S.Draws))))
    (hnamed : S.Answers (.findByAlias n) (.findByAlias (S.ρ n))
      (S.Found (Option.Rel (Document.Alike S.ρ S.Draws)))) :
    S.Calls (S.Found (Document.Alike S.ρ S.Draws)) (resolve n) (resolve (S.ρ n)) := by
  unfold resolve
  refine calls_logged (calls_bind (calls_ofAnswer hstored) fun found found' hd => ?_)
  cases hd with
  | some hd => exact calls_pure ⟨hd, rfl, rfl⟩
  | none =>
    refine calls_bind (calls_ofAnswer hnamed) fun found found' hd => ?_
    cases hd with
    | some hd => exact calls_pure ⟨hd, rfl, rfl⟩
    | none => exact calls_throw (Or.inr rfl)

end Calls

/-- **Calls that end alike write the same log**, and give and leave what is alike. -/
theorem call_of_ends {x : Call α} {y : Call β}
    (h : S.Ends W
      (Call.outcome (Database.serve S.connection S.supply.fresh) S.supply.blocks x (S.db, 0) 0)
      (Call.outcome (Database.serve S.connection S.supply'.fresh) S.supply'.blocks y (S.db', 0) 0)) :
    Paired (fun e e' => S.ρ.Fails e e' ∧ (S.db.call S.connection S.supply x).state = S.db ∧
        (S.db'.call S.connection S.supply' y).state = S.db')
      (fun a b => W a (S.db.call S.connection S.supply x).state b
        (S.db'.call S.connection S.supply' y).state)
      (S.db.call S.connection S.supply x).value (S.db'.call S.connection S.supply' y).value ∧
    (S.db'.call S.connection S.supply' y).log = (S.db.call S.connection S.supply x).log :=
  ⟨h.value.mono (fun _ _ he => ⟨he.1, he.2.1, he.2.2.1⟩) fun _ _ hab => hab.1, h.log.symm⟩

theorem Calls.ends {x : Call α} {y : Call β} (h : S.Calls W x y) :
    S.Ends W
      (Call.outcome (Database.serve S.connection S.supply.fresh) S.supply.blocks x (S.db, 0) 0)
      (Call.outcome (Database.serve S.connection S.supply'.fresh) S.supply'.blocks y (S.db', 0) 0) :=
  h (S.db, 0) (S.db', 0) 0 ⟨rfl, rfl, rfl⟩

end Sides

end Namebook
