/-
  Namebook.Proofs.Service.Conclusion
  ──────────────────────────────────
  **THE LAST ANSWER DECIDES — what a success rests on.**

  Whatever the repositories answer on the way, a call that succeeds does so by the answer to its last
  request; what was asked before granted no change, and what follows is only logged.

    • `ServiceCall.Concludes` — which answer lets a call succeed, and with what;
    • `concluded_dialogue` — each of the six calls succeeds in this way only.
-/
import Namebook.Proofs.Service.Proper

namespace Namebook

/-! ## §1. Transcripts that end with an answer. -/

namespace Exchange

/-- Whether a record was written. -/
def isRecord : Exchange → Bool
  | wrote _ => true
  | _ => false

/-- The block that was drawn. -/
def block? : Exchange → Option Block
  | drew b => some b
  | _ => none

end Exchange

/-- The block drawn last. -/
def lastDrawn? (es : List Exchange) : Option Block :=
  (es.filterMap Exchange.block?).getLast?

/-- What was drawn before does not count. -/
theorem lastDrawn?_append {b : Block} {es : List Exchange} (h : lastDrawn? es = some b)
    (pre : List Exchange) : lastDrawn? (pre ++ es) = some b := by
  unfold lastDrawn? at *
  rw [List.filterMap_append, List.getLast?_append, h]
  rfl

/-- Nothing is drawn by a request and the records after it. -/
theorem lastDrawn?_append_asked {after : List Exchange} (h : ∀ e ∈ after, e.isRecord = true)
    (before : List Exchange) (r : Request) (a : r.Answer) :
    lastDrawn? (before ++ .asked r a :: after) = lastDrawn? before := by
  have hnone : (Exchange.asked r a :: after).filterMap Exchange.block? = [] := by
    refine List.filterMap_eq_nil_iff.2 fun e he => ?_
    rcases List.mem_cons.1 he with rfl | he
    · rfl
    · cases e with
      | drew b => cases h _ he
      | _ => rfl
  unfold lastDrawn?
  rw [List.filterMap_append, hnone, List.append_nil]

namespace Call

variable {α β : Type} {C : List Exchange → (r : Request) → r.Answer → α → Prop}

/-- **A success rests on the answer to the last request**: `C` relates what happened before it, the
request, its answer and the value.  No change was granted before, and only records follow. -/
def Decided (C : List Exchange → (r : Request) → r.Answer → α → Prop) (es : List Exchange) :
    Except ServiceError α → Prop
  | .ok v => ∃ before r a after, es = before ++ .asked r a :: after ∧
      before.countP Exchange.changed = 0 ∧ (∀ e ∈ after, e.isRecord = true) ∧ C before r a v
  | .error _ => True

/-- Whatever came before `before` does not matter. -/
def Blind (C : List Exchange → (r : Request) → r.Answer → α → Prop) : Prop :=
  ∀ pre before r a v, C before r a v → C (pre ++ before) r a v

theorem decided_append {es pre : List Exchange} {v : Except ServiceError α} (hC : Blind C)
    (hpre : pre.countP Exchange.changed = 0) (h : Decided C es v) : Decided C (pre ++ es) v := by
  cases v with
  | error e => exact trivial
  | ok v =>
    obtain ⟨before, r, a, after, rfl, hbefore, hafter, hconcl⟩ := h
    refine ⟨pre ++ before, r, a, after, (List.append_assoc ..).symm, ?_, hafter,
      hC pre before r a v hconcl⟩
    rw [List.countP_append, hpre, hbefore]

/-- A success after which only records are written. -/
def Closing (b : α) (es : List Exchange) (v : Except ServiceError α) : Prop :=
  v = .ok b ∧ ∀ e ∈ es, e.isRecord = true

/-- The request that decides. -/
theorem decided_of_closing {before es : List Exchange} {r : Request} {a : r.Answer} {b : α}
    {v : Except ServiceError α} (h : Closing b es v) (hbefore : before.countP Exchange.changed = 0)
    (hconcl : C before r a b) : Decided C (before ++ .asked r a :: es) v := by
  obtain ⟨rfl, hes⟩ := h
  exact ⟨before, r, a, es, rfl, hbefore, hes, hconcl⟩

theorem closing_pure (b : α) : Ends (pure b : Call α) (Closing b) :=
  ends_pure.2 ⟨rfl, fun e he => by cases he⟩

theorem closing_report (entry : Log.Record) (b : α) :
    Call.Ends (do (Dialogue.log entry : Dialogue Unit); return b) (Closing b) := by
  rw [ends_bind, ends_log]
  refine ⟨rfl, fun e he => ?_⟩
  rw [List.mem_singleton.1 he]
  rfl

/-! ### How they compose. -/

theorem decided_of_failing {call : Call α} (h : call.Ends Failing) : call.Ends (Decided C) := by
  refine h.mono fun es v hes => ?_
  cases v with
  | ok v => exact absurd hes id
  | error e => exact trivial

theorem decided_throw (e : ServiceError) : Ends (throw e : Call α) (Decided C) :=
  decided_of_failing (failing_throw e)

theorem decided_fail (event publicId name : String) (e : ServiceError) :
    (fail event publicId name e : Call α).Ends (Decided C) :=
  decided_of_failing (failing_fail event publicId name e)

/-- First look, then act on what the look has shown. -/
theorem decided_bind {P : β → Prop} {x : Call β} {f : β → Call α} (hC : Blind C)
    (hx : x.Ends Quiet) (hpassed : x.Ends (Passed P))
    (hf : ∀ b, P b → (f b).Ends (Decided C)) : (x >>= f).Ends (Decided C) := by
  rw [ends_bind]
  refine (ends_and hx hpassed).mono fun es v hes => ?_
  obtain ⟨hquiet, hP⟩ := hes
  cases v with
  | error e => exact trivial
  | ok b => exact (hf b (hP b rfl)).mono fun es' w hes' => decided_append hC hquiet hes'

/-- A look that shows nothing of use. -/
theorem decided_quiet {x : Call β} {f : β → Call α} (hC : Blind C) (hx : x.Ends Quiet)
    (hf : ∀ b, (f b).Ends (Decided C)) : (x >>= f).Ends (Decided C) :=
  decided_bind (P := fun _ => True) hC hx (hx.mono fun _ _ _ _ _ => trivial) fun b _ => hf b

/-- A success is logged. -/
theorem decided_report {x : Call α} {entry : α → Log.Record} (hx : x.Ends (Decided C)) :
    Call.Ends (do
      let b ← x
      (Dialogue.log (entry b) : Dialogue Unit)
      return b) (Decided C) := by
  rw [ends_bind]
  refine hx.mono fun es v hes => ?_
  cases v with
  | error e => exact trivial
  | ok b =>
    obtain ⟨before, r, a, after, rfl, hbefore, hafter, hconcl⟩ := hes
    refine (closing_report (entry b) b).mono fun es' w hes' => ?_
    obtain ⟨rfl, hrecords⟩ := hes'
    rw [List.append_assoc, List.cons_append]
    refine ⟨before, r, a, after ++ es', rfl, hbefore, ?_, hconcl⟩
    intro e he
    rcases List.mem_append.1 he with he | he
    · exact hafter e he
    · exact hrecords e he

theorem decided_logged {event publicId name : String} {call : Call α}
    (h : call.Ends (Decided C)) : (logged event publicId name call).Ends (Decided C) := by
  unfold logged
  rw [ends_tryCatch]
  refine h.mono fun es v hes => ?_
  cases v with
  | ok b => exact hes
  | error e =>
    refine (failing_fail event publicId name e).mono fun es' w hes' => ?_
    cases w with
    | ok b => exact absurd hes' id
    | error e' => exact trivial

/-- A request that decides if it is granted, and if not leaves the decision to the rest. -/
theorem decided_request {r : Request} {f : r.Answer → Call α} (hC : Blind C)
    (hok : ∀ v, ∃ b, (f (.ok v)).Ends (Closing b) ∧ C [] r (.ok v) b)
    (herror : ∀ e, (f (.error e)).Ends (Decided C)) :
    Ends ((Dialogue.request r : Dialogue r.Answer) >>= f) (Decided C) := by
  rw [ends_bind, ends_request]
  intro a
  cases a with
  | ok v =>
    obtain ⟨b, hclosing, hconcl⟩ := hok v
    exact hclosing.mono fun es w hes => decided_of_closing hes rfl hconcl
  | error e => exact (herror e).mono fun es w hes => decided_append hC rfl hes

/-- A request whose refusal ends the call. -/
theorem decided_ofAnswer {r : Request} {C : List Exchange → (q : Request) → q.Answer → r.Found → Prop}
    (h : ∀ v, C [] r (.ok v) v) : Ends (ofAnswer (Dialogue.request r)) (Decided C) := by
  rw [ends_ofAnswer]
  intro a
  cases a with
  | ok v => exact ⟨[], r, .ok v, [], rfl, rfl, List.forall_mem_nil _, h v⟩
  | error e => exact trivial

/-- A look-up that decides if something is found, and else leaves the decision to the rest. -/
theorem decided_lookup {r : Request} {f : r.Found → Call α} (hC : Blind C) (hr : r.isChange = false)
    (hf : ∀ v, (∃ b, (f v).Ends (Closing b) ∧ C [] r (.ok v) b) ∨ (f v).Ends (Decided C)) :
    Ends (ofAnswer (Dialogue.request r) >>= f) (Decided C) := by
  rw [ends_bind, ends_ofAnswer]
  intro a
  cases a with
  | error e => exact trivial
  | ok v =>
    rcases hf v with ⟨b, hclosing, hconcl⟩ | hrest
    · exact hclosing.mono fun es w hes => decided_of_closing hes rfl hconcl
    · refine hrest.mono fun es w hes => decided_append hC ?_ hes
      rw [List.countP_cons, changed_asked hr]
      rfl

/-- A draw decides nothing, but what follows may rely on it. -/
theorem decided_block {f : Block → Call α}
    (h : ∀ b, (f b).Ends fun es w => Decided C ([.drew b] ++ es) w) :
    Ends ((Dialogue.block : Dialogue Block) >>= f) (Decided C) := by
  rw [ends_bind, ends_block]
  exact h

end Call

/-! ## §2. The answers that decide. -/

/-- **The answer that lets a call succeed**, and the value that the call then has.  For a creation it
is the block drawn last that names the document. -/
inductive ServiceCall.Concludes (reserved : ReservedNames) :
    (s : ServiceCall) → List Exchange → (r : Request) → r.Answer → s.Found → Prop where
  | add {p n : String} {es : List Exchange} {d : Document} :
      Call.checkName reserved n = .ok () →
      Concludes reserved (.add p n) es (.createAlias p n) (.ok d) d
  | remove {p n : String} {es : List Exchange} {d : Document} :
      Concludes reserved (.remove p n) es (.deleteAlias p n) (.ok d) d
  | promote {p n : String} {es : List Exchange} {d : Document} :
      Concludes reserved (.promote p n) es (.promoteAlias p n) (.ok d) d
  | view {p n : String} {es : List Exchange} {a : Alias} :
      Concludes reserved (.view p n) es (.findAliasByName n) (.ok (some a))
        { name := a.name, primary := a.primary, publicId := p }
  | resolveId {n : String} {es : List Exchange} {d : Document} :
      Concludes reserved (.resolve n) es (.findByPublicId n) (.ok (some d)) d
  | resolveAlias {n : String} {es : List Exchange} {d : Document} :
      Concludes reserved (.resolve n) es (.findByAlias n) (.ok (some d)) d
  | create {initial : Option String} {es : List Exchange} {b : Block} {d : Document} :
      (∀ n ∈ initial, Call.checkName reserved n = .ok ()) → lastDrawn? es = some b →
      Concludes reserved (.create initial) es (.createDocument (PublicId.encode b) initial) (.ok d) d

open Call

/-- Of what came before, only the block drawn last counts. -/
theorem ServiceCall.Concludes.mono {reserved : ReservedNames} {s : ServiceCall}
    {es es' : List Exchange} {r : Request} {a : r.Answer} {v : s.Found}
    (h : s.Concludes reserved es r a v)
    (hlast : ∀ b, lastDrawn? es = some b → lastDrawn? es' = some b) :
    s.Concludes reserved es' r a v := by
  cases h with
  | add hname => exact .add hname
  | remove => exact .remove
  | promote => exact .promote
  | view => exact .view
  | resolveId => exact .resolveId
  | resolveAlias => exact .resolveAlias
  | create hinitial hblock => exact .create hinitial (hlast _ hblock)

theorem ServiceCall.blind_concludes (reserved : ReservedNames) (s : ServiceCall) :
    Blind (s.Concludes reserved) :=
  fun pre _ _ _ _ h => h.mono fun _ hblock => lastDrawn?_append hblock pre

variable {reserved : ReservedNames}

/-! ## §3. The six calls. -/

namespace AliasService

variable {p n : String}

/-- A creation that is refused never turns into a success. -/
theorem decided_claimFailure {C : List Exchange → (r : Request) → r.Answer → Document → Prop}
    (hC : Blind C) (e : RepositoryError) : (claimFailure n e).Ends (Decided C) := by
  unfold claimFailure
  split
  · refine decided_quiet hC (quiet_lookup rfl) fun found => ?_
    split
    · exact decided_throw _
    · exact decided_throw _
  · exact decided_throw _

theorem decided_add (reserved : ReservedNames) (p n : String) :
    (add reserved p n).Ends (Decided ((ServiceCall.add p n).Concludes reserved)) := by
  have hC := (ServiceCall.add p n).blind_concludes reserved
  unfold add
  refine decided_logged (decided_bind hC (quiet_checkNew reserved n) (passed_checkNew reserved n)
    fun _ hname => decided_report ?_)
  unfold create
  refine decided_request hC (fun d => ⟨d, closing_pure d, .add hname⟩) fun e => ?_
  exact decided_claimFailure hC e

theorem decided_remove (reserved : ReservedNames) (p n : String) :
    (remove p n).Ends (Decided ((ServiceCall.remove p n).Concludes reserved)) := by
  unfold remove
  exact decided_logged (decided_report (decided_ofAnswer fun d => .remove))

/-- Each attempt at a promotion decides if it is granted. -/
theorem decided_tryPromote {onBusy : RepositoryError → Call Document}
    (h : ∀ e, (onBusy e).Ends (Decided ((ServiceCall.promote p n).Concludes reserved))) :
    (tryPromote p n onBusy).Ends (Decided ((ServiceCall.promote p n).Concludes reserved)) := by
  unfold tryPromote
  refine decided_request (ServiceCall.blind_concludes _ _)
    (fun d => ⟨d, closing_pure d, .promote⟩) fun e => ?_
  dsimp only
  split
  · exact h e
  · exact decided_throw _

theorem decided_promoteFrom (attempt left : Nat) : (promoteFrom p n attempt left).Ends
    (Decided ((ServiceCall.promote p n).Concludes reserved)) := by
  induction left generalizing attempt with
  | zero => exact decided_tryPromote fun e => decided_throw _
  | succ left ih =>
    exact decided_tryPromote fun e =>
      decided_quiet (ServiceCall.blind_concludes _ _) (quiet_log _) fun _ => ih (attempt + 1)

theorem decided_promote (reserved : ReservedNames) (p n : String) :
    (promote p n).Ends (Decided ((ServiceCall.promote p n).Concludes reserved)) := by
  unfold promote
  exact decided_logged (decided_report (decided_promoteFrom 1 _))

theorem decided_view (reserved : ReservedNames) (p n : String) :
    (view p n).Ends (Decided ((ServiceCall.view p n).Concludes reserved)) := by
  unfold view
  refine decided_logged (decided_lookup (ServiceCall.blind_concludes _ _) rfl fun found => ?_)
  cases found with
  | some a => exact Or.inl ⟨_, closing_pure _, .view⟩
  | none => exact Or.inr (decided_throw _)

end AliasService

namespace DocumentService

theorem decided_resolve (reserved : ReservedNames) (n : String) :
    (resolve n).Ends (Decided ((ServiceCall.resolve n).Concludes reserved)) := by
  have hC := (ServiceCall.resolve n).blind_concludes reserved
  unfold resolve
  refine decided_logged (decided_lookup hC rfl fun found => ?_)
  cases found with
  | some d => exact Or.inl ⟨d, closing_pure d, .resolveId⟩
  | none =>
    refine Or.inr (decided_lookup hC rfl fun found => ?_)
    cases found with
    | some d => exact Or.inl ⟨d, closing_pure d, .resolveAlias⟩
    | none => exact Or.inr (decided_throw _)

theorem decided_takenMeanwhile {C : List Exchange → (r : Request) → r.Answer → Document → Prop}
    (hC : Blind C) (p n : String) : (takenMeanwhile p n).Ends (Decided C) := by
  unfold takenMeanwhile
  exact decided_quiet hC (quiet_lookup rfl) fun found => decided_fail _ _ _ _

/-- The id that is granted is that of the last draw. -/
theorem decided_createFrom {initial : Option String}
    (hinitial : ∀ n ∈ initial, checkName reserved n = .ok ()) (attempt left : Nat) :
    (createFrom initial attempt left).Ends
      (Decided ((ServiceCall.create initial).Concludes reserved)) := by
  have hC := (ServiceCall.create initial).blind_concludes reserved
  induction left generalizing attempt with
  | zero => exact decided_fail _ _ _ _
  | succ left ih =>
    unfold createFrom
    refine decided_block fun block => ?_
    -- of the block that was drawn nothing is used but the id
    generalize hid : PublicId.encode block = publicId
    rw [ends_bind, ends_request]
    intro answer
    cases answer with
    | ok d =>
      refine (closing_report _ d).mono fun es w hes => ?_
      rw [← hid]
      exact decided_of_closing hes rfl (.create hinitial rfl)
    | error e =>
      -- a refusal changes nothing, and what follows starts afresh
      refine Ends.mono (Q := Decided ((ServiceCall.create initial).Concludes reserved)) ?_
        fun es w hes => decided_append hC rfl (decided_append hC rfl hes)
      cases e with
      | nameTaken name =>
        dsimp only
        split
        · exact decided_quiet hC (quiet_log _) fun _ => ih (attempt + 1)
        · exact decided_takenMeanwhile hC _ _
      | _ => exact decided_fail _ _ _ _

theorem decided_create (reserved : ReservedNames) (initial : Option String) :
    (create reserved initial).Ends (Decided ((ServiceCall.create initial).Concludes reserved)) := by
  unfold create
  cases initial with
  | none => exact decided_createFrom (fun n h => by cases h) 1 createAttempts
  | some name =>
    refine decided_bind (ServiceCall.blind_concludes _ _) (quiet_loggedInitial reserved name)
      (passed_loggedInitial reserved name) fun _ hname => ?_
    refine decided_createFrom ?_ 1 createAttempts
    intro n hn
    cases hn
    exact hname

end DocumentService

/-- **A service call that succeeds does so by its last answer.** -/
theorem ServiceCall.decided_dialogue (reserved : ReservedNames) (s : ServiceCall) :
    (s.dialogue reserved).Ends (Decided (s.Concludes reserved)) := by
  cases s with
  | add p n => exact AliasService.decided_add reserved p n
  | remove p n => exact AliasService.decided_remove reserved p n
  | promote p n => exact AliasService.decided_promote reserved p n
  | view p n => exact AliasService.decided_view reserved p n
  | resolve n => exact DocumentService.decided_resolve reserved n
  | create initial => exact DocumentService.decided_create reserved initial

/-- **On a store, a call that succeeds is its last answer**: the store gave it as it was at first, and
is left as this answer left it. -/
theorem Database.call_of_ok {db : Database} {c : Connection} {supply : Supply} {s : ServiceCall}
    {v : s.Found} (h : (db.call c supply (s.dialogue reserved)).value = .ok v) :
    ∃ es r a k, s.Concludes reserved es r a v ∧
      db.answer c (supply.fresh k) r = (a, (db.call c supply (s.dialogue reserved)).state) := by
  obtain ⟨es, k, hdecided, hes⟩ := Database.call_ends (s.decided_dialogue reserved) db c supply
  rw [h] at hdecided
  obtain ⟨before, r, a, after, rfl, hquiet, hrecords, hconcl⟩ := hdecided
  obtain ⟨⟨db', j⟩, hbefore, hrest⟩ := Dialogue.answered_append hes
  have hkept : db' = db := Database.answered_quiet hbefore hquiet
  subst hkept
  cases hrest with
  | asked r hafter =>
    have hnone : after.countP Exchange.changed = 0 := by
      refine List.countP_eq_zero.2 fun e he => ?_
      cases e with
      | wrote entry => exact Bool.false_ne_true
      | _ => cases hrecords _ he
    have hstate := Database.answered_quiet hafter hnone
    exact ⟨before, r, _, j, hconcl, Prod.ext rfl hstate.symm⟩

end Namebook
