/-
  Namebook.Proofs.Interleaving
  ────────────────────────────
  **MANY CALLS AT A TIME.**

  Traffic is a store with the calls that clients have begun on it.  At each turn a client begins a
  call, or one call goes on by a single exchange, or something else happens to the store; so other
  turns may come between any two requests of a call.  The history lists what happened, each time
  with the store before and after.

    • `Sound` — every exchange was answered by the store of its moment, and every call has said what
      its dialogue allows;
    • `sound_after`, `everywhere_after` — this, and what every event keeps, holds along every run.
-/
import Namebook.Proofs.History
import Namebook.Proofs.Service.Conclusion

namespace Namebook

/-! ## §1. One exchange. -/

namespace Dialogue

variable {α σ : Type}

/-- **One exchange of a dialogue**: what was said, the state of whoever answers, and what is left. -/
def step? (answer : (r : Request) → σ → r.Answer × σ) (block : Block) :
    Dialogue α → σ → Option (Exchange × σ × Dialogue α)
  | done _, _ => none
  | ask r next, s => some (.asked r (answer r s).1, (answer r s).2, next (answer r s).1)
  | draw next, s => some (.drew block, s, next block)
  | record entry next, s => some (.wrote entry, s, next)

/-- What is left can go on as the whole could. -/
theorem Ends.step {answer : (r : Request) → σ → r.Answer × σ} {block : Block}
    {d d' : Dialogue α} {s s' : σ} {e : Exchange} {Q : List Exchange → α → Prop} (h : d.Ends Q)
    (hstep : d.step? answer block s = some (e, s', d')) : d'.Ends fun es v => Q (e :: es) v := by
  cases d with
  | done a => cases hstep
  | ask r next => cases hstep; exact h (answer r s).1
  | draw next => cases hstep; exact h block
  | record entry next => cases hstep; exact h

end Dialogue

/-- An exchange happens on a store: a request is answered by it, anything else leaves it alone. -/
def Exchange.Happens (c : Connection) (fresh : Fresh) (db db' : Database) : Exchange → Prop
  | asked r a => db.answer c fresh r = (a, db')
  | drew _ => db' = db
  | wrote _ => db' = db

variable {c : Connection} {fresh : Fresh} {db db' : Database}

theorem Dialogue.happens_step {α : Type} {block : Block} {d d' : Dialogue α} {e : Exchange}
    (h : d.step? (fun r s => s.answer c fresh r) block db = some (e, db', d')) :
    e.Happens c fresh db db' := by
  cases d with
  | done a => cases h
  | ask r next => cases h; rfl
  | draw next => cases h; rfl
  | record entry next => cases h; rfl

/-- What grants no change leaves the store alone. -/
theorem Exchange.Happens.eq_of_unchanged {e : Exchange} (h : e.Happens c fresh db db')
    (hquiet : e.changed = false) : db' = db := by
  cases e with
  | drew b => exact h
  | wrote entry => exact h
  | asked r a =>
    have hstate : (db.answer c fresh r).2 = db' := congrArg Prod.snd h
    have hanswer : (db.answer c fresh r).1 = a := congrArg Prod.fst h
    rw [← hstate]
    cases a with
    | error e => exact Database.answer_of_error hanswer
    | ok v => exact Database.answer_of_lookup hquiet

/-- What happens in an exchange is the effect of a request, if anything. -/
theorem Exchange.Happens.cases {e : Exchange} (h : e.Happens c fresh db db') :
    db' = db ∨ ∃ r, db' = (Event.request c fresh r).apply db := by
  cases e with
  | drew b => exact Or.inl h
  | wrote entry => exact Or.inl h
  | asked r a => exact Or.inr ⟨r, (congrArg Prod.snd h).symm⟩

/-! ## §2. Traffic. -/

/-- A call that a client has begun over its connection, and what is left of it. -/
structure Pending where
  connection : Connection
  reserved : ReservedNames
  call : ServiceCall
  rest : Dialogue (Except ServiceError call.Found)

/-- An exchange of one of the calls, with the id and the time that its request got. -/
structure Deed where
  /-- Which call it was, in the order in which they began. -/
  call : Nat
  fresh : Fresh
  exchange : Exchange

/-- What happened at one moment, and the stores before and after. -/
structure Moment where
  /-- The exchange, if one of the calls went on. -/
  deed : Option Deed
  before : Database
  after : Database

/-- A store, the calls that were begun on it, and what has happened. -/
structure Traffic where
  store : Database
  calls : List Pending
  history : List Moment

/-- What may come next. -/
inductive Turn where
  /-- A client begins a call. -/
  | begin (c : Connection) (reserved : ReservedNames) (s : ServiceCall)
  /-- Call `i` goes on by one exchange, with this id and time for a request and this block for a
  draw. -/
  | go (i : Nat) (fresh : Fresh) (block : Block)
  /-- Something else happens. -/
  | event (e : Event)

namespace Traffic

/-- A store on which no call has begun. -/
def on (db : Database) : Traffic := { store := db, calls := [], history := [] }

/-- **One turn.** -/
def take (w : Traffic) : Turn → Traffic
  | .begin c reserved s => { w with calls := w.calls ++ [⟨c, reserved, s, s.dialogue reserved⟩] }
  | .go i fresh block =>
    match w.calls[i]? with
    | none => w
    | some p =>
      match p.rest.step? (fun r db => db.answer p.connection fresh r) block w.store with
      -- the call has come to its end
      | none => w
      | some (e, db, rest) =>
        { store := db
          calls := w.calls.set i { p with rest }
          history := w.history ++ [⟨some ⟨i, fresh, e⟩, w.store, db⟩] }
  | .event e =>
    { w with
      store := e.apply w.store
      history := w.history ++ [⟨none, w.store, e.apply w.store⟩] }

/-- Some turns, the first one first. -/
def after (w : Traffic) (turns : List Turn) : Traffic := turns.foldl take w

end Traffic

/-- Whether what happens beside the calls is allowed. -/
def Turn.isWithin (allowed : Event → Bool) : Turn → Bool
  | .event e => allowed e
  | _ => true

/-- What call `i` said at a moment. -/
def Moment.said? (i : Nat) (m : Moment) : Option Exchange :=
  match m.deed with
  | some d => if d.call = i then some d.exchange else none
  | none => none

/-- What call `i` has said. -/
def Traffic.said (w : Traffic) (i : Nat) : List Exchange := w.history.filterMap (Moment.said? i)

/-- A moment at which call `i` went on. -/
def Moment.IsOf (i : Nat) (m : Moment) : Prop := ∃ d ∈ m.deed, d.call = i

theorem Moment.said?_eq_some_iff {i : Nat} {m : Moment} {e : Exchange} :
    m.said? i = some e ↔ ∃ fresh, m.deed = some ⟨i, fresh, e⟩ := by
  unfold Moment.said?
  constructor
  · intro h
    split at h
    next d hdeed =>
      split at h
      next hcall =>
        injection h with h
        refine ⟨d.fresh, hdeed.trans ?_⟩
        rw [← hcall, ← h]
      next => cases h
    next => cases h
  · rintro ⟨fresh, hdeed⟩
    rw [hdeed]
    exact if_pos rfl

/-- Some row has the name, as its public id or as an alias. -/
def Tables.Bears (t : Tables) (name : String) : NameKind → Prop
  | .publicId => ∃ d ∈ t.documents, d.publicId = name
  | .aliasName => ∃ a ∈ t.aliases, a.name = name

instance (t : Tables) (name : String) (kind : NameKind) : Decidable (t.Bears name kind) :=
  match kind with
  | .publicId => inferInstanceAs (Decidable (∃ d ∈ t.documents, d.publicId = name))
  | .aliasName => inferInstanceAs (Decidable (∃ a ∈ t.aliases, a.name = name))

/-- At this moment a name comes into use. -/
def Moment.Takes (name : String) (kind : NameKind) (m : Moment) : Prop :=
  ¬m.before.committed.Bears name kind ∧ m.after.committed.Bears name kind

/-- At this moment a name goes out of use. -/
def Moment.GivesUp (name : String) (kind : NameKind) (m : Moment) : Prop :=
  m.before.committed.Bears name kind ∧ ¬m.after.committed.Bears name kind

/-! ## §3. What holds along a run. -/

/-- Moments that follow each other, from one store to another. -/
def Linked : Database → List Moment → Database → Prop
  | db, [], db' => db = db'
  | db, m :: ms, db' => m.before = db ∧ Linked m.after ms db'

theorem linked_append {ms ms' : List Moment} {db db' : Database} :
    Linked db (ms ++ ms') db' ↔ ∃ mid, Linked db ms mid ∧ Linked mid ms' db' := by
  induction ms generalizing db with
  | nil =>
    constructor
    · intro h; exact ⟨db, rfl, h⟩
    · rintro ⟨mid, rfl, h⟩; exact h
  | cons m ms ih =>
    constructor
    · rintro ⟨hbefore, h⟩
      obtain ⟨mid, h, h'⟩ := ih.1 h
      exact ⟨mid, ⟨hbefore, h⟩, h'⟩
    · rintro ⟨mid, ⟨hbefore, h⟩, h'⟩
      exact ⟨hbefore, ih.2 ⟨mid, h, h'⟩⟩

/-- What lies between two moments leads from the one to the other. -/
theorem Linked.between {earlier between later : List Moment} {m m' : Moment} {db db' : Database}
    (h : Linked db (earlier ++ m :: between ++ m' :: later) db') :
    Linked m.after between m'.before := by
  rw [List.append_assoc] at h
  obtain ⟨mid, -, -, h⟩ := linked_append.1 h
  obtain ⟨mid', h, rfl, -⟩ := linked_append.1 h
  exact h

/-- **What is lost on the way is lost at some moment.** -/
theorem Linked.exists_loss {P : Database → Prop} {ms : List Moment} {db db' : Database}
    (h : Linked db ms db') (hP : P db) (hlost : ¬P db') : ∃ m ∈ ms, P m.before ∧ ¬P m.after := by
  induction ms generalizing db with
  | nil =>
    have heq : db = db' := h
    rw [heq] at hP
    exact absurd hP hlost
  | cons m ms ih =>
    obtain ⟨rfl, h⟩ := h
    by_cases hafter : P m.after
    · obtain ⟨m', hmem, hloss⟩ := ih h hafter
      exact ⟨m', List.mem_cons_of_mem m hmem, hloss⟩
    · exact ⟨m, List.mem_cons_self, hP, hafter⟩

/-- What is left of a call can follow what it has said. -/
def Pending.Follows (p : Pending) (said : List Exchange) : Prop :=
  ∀ Q, (p.call.dialogue p.reserved).Ends Q → p.rest.Ends fun es v => Q (said ++ es) v

namespace Traffic

/-- What the store has now and had at every moment. -/
def Everywhere (P : Database → Prop) (w : Traffic) : Prop :=
  P w.store ∧ ∀ m ∈ w.history, P m.before ∧ P m.after

/-- **The history is what happened**: moments follow each other from the first store to the present
one, exchanges happened on the stores of their moments, and what is left of a call can follow what
it has said. -/
structure Sound (start : Database) (w : Traffic) : Prop where
  linked : Linked start w.history w.store
  deeds : ∀ m ∈ w.history, ∀ d ∈ m.deed, ∃ p, w.calls[d.call]? = some p ∧
    d.exchange.Happens p.connection d.fresh m.before m.after
  going : ∀ (i : Nat) (p : Pending), w.calls[i]? = some p → p.Follows (w.said i)

variable {w : Traffic} {start : Database}

theorem sound_on (db : Database) : (on db).Sound db where
  linked := rfl
  deeds := fun m hm => by cases hm
  going := fun i p hp => by cases hp

theorem said_concat (w : Traffic) (db : Database) (calls : List Pending) (m : Moment) (i : Nat) :
    said { store := db, calls, history := w.history ++ [m] } i
      = w.said i ++ (m.said? i).toList := by
  unfold said
  rw [List.filterMap_append]
  cases h : m.said? i with
  | none => simp [h]
  | some e => simp [h]

theorem linked_concat (h : Linked start w.history w.store) (deed : Option Deed) (db : Database) :
    Linked start (w.history ++ [⟨deed, w.store, db⟩]) db :=
  linked_append.2 ⟨w.store, h, rfl, rfl⟩

/-- A call that has not begun has said nothing. -/
theorem Sound.said_eq_nil (h : w.Sound start) {i : Nat} (hi : w.calls[i]? = none) :
    w.said i = [] := by
  unfold said
  rw [List.filterMap_eq_nil_iff]
  intro m hm
  cases hsaid : m.said? i with
  | none => rfl
  | some e =>
    obtain ⟨fresh, hdeed⟩ := Moment.said?_eq_some_iff.1 hsaid
    obtain ⟨p, hp, -⟩ := h.deeds m hm ⟨i, fresh, e⟩ hdeed
    rw [hi] at hp
    cases hp

theorem Sound.begin (h : w.Sound start) (c : Connection) (reserved : ReservedNames)
    (s : ServiceCall) : (w.take (.begin c reserved s)).Sound start where
  linked := h.linked
  deeds := by
    intro m hm d hd
    obtain ⟨p, hp, hhappens⟩ := h.deeds m hm d hd
    have hlt := (List.getElem?_eq_some_iff.1 hp).1
    exact ⟨p, (List.getElem?_append_left hlt).trans hp, hhappens⟩
  going := by
    intro i p hp
    -- either the call was there before, or it is the one that has just begun
    rcases Nat.lt_or_ge i w.calls.length with hlt | hge
    · exact h.going i p ((List.getElem?_append_left hlt).symm.trans hp)
    · have hsaid : w.said i = [] := h.said_eq_nil (List.getElem?_eq_none hge)
      have hnew : [(⟨c, reserved, s, s.dialogue reserved⟩ : Pending)][i - w.calls.length]?
          = some p := (List.getElem?_append_right hge).symm.trans hp
      have hp : p = ⟨c, reserved, s, s.dialogue reserved⟩ :=
        List.mem_singleton.1 (List.mem_of_getElem? hnew)
      rw [hp]
      show Pending.Follows _ (w.said i)
      rw [hsaid]
      exact fun Q hQ => hQ

theorem Sound.event (h : w.Sound start) (e : Event) : (w.take (.event e)).Sound start where
  linked := linked_concat h.linked none _
  deeds := by
    intro m hm d hd
    rcases List.mem_append.1 hm with hm | hm
    · exact h.deeds m hm d hd
    · rw [List.mem_singleton.1 hm] at hd
      cases hd
  going := by
    intro i p hp
    have hsaid : (w.take (.event e)).said i = w.said i := by
      unfold take
      rw [said_concat]
      exact List.append_nil _
    rw [hsaid]
    exact h.going i p hp

/-- **A call that goes on says what its dialogue allows.** -/
theorem Sound.exchange (h : w.Sound start) {i : Nat} {p : Pending} (hp : w.calls[i]? = some p)
    {fresh : Fresh} {block : Block} {e : Exchange} {db : Database}
    {rest : Dialogue (Except ServiceError p.call.Found)}
    (hstep : p.rest.step? (fun r s => s.answer p.connection fresh r) block w.store
      = some (e, db, rest)) :
    Sound start
      { store := db
        calls := w.calls.set i { p with rest }
        history := w.history ++ [⟨some ⟨i, fresh, e⟩, w.store, db⟩] } where
  linked := linked_concat h.linked _ db
  deeds := by
    intro m hm d hd
    have hset : (w.calls.set i { p with rest })[i]? = some { p with rest } :=
      List.getElem?_set_self (List.getElem?_eq_some_iff.1 hp).1
    rcases List.mem_append.1 hm with hm | hm
    · obtain ⟨q, hq, hhappens⟩ := h.deeds m hm d hd
      by_cases hcall : i = d.call
      · -- the call has gone on, over the same connection
        subst hcall
        cases hp.symm.trans hq
        exact ⟨{ p with rest }, hset, hhappens⟩
      · exact ⟨q, (List.getElem?_set_ne hcall).trans hq, hhappens⟩
    · rw [List.mem_singleton.1 hm] at hd
      cases hd
      rw [List.mem_singleton.1 hm]
      exact ⟨{ p with rest }, hset, Dialogue.happens_step hstep⟩
  going := by
    intro j q hq
    rw [said_concat]
    by_cases hj : i = j
    · subst hj
      have hset : (w.calls.set i { p with rest })[i]? = some { p with rest } :=
        List.getElem?_set_self (List.getElem?_eq_some_iff.1 hp).1
      cases hset.symm.trans hq
      have hsaid : Moment.said? i ⟨some ⟨i, fresh, e⟩, w.store, db⟩ = some e :=
        Moment.said?_eq_some_iff.2 ⟨fresh, rfl⟩
      rw [hsaid]
      intro Q hQ
      refine Dialogue.Ends.mono ((h.going i p hp Q hQ).step hstep) fun es v hes => ?_
      show Q (w.said i ++ [e] ++ es) v
      rw [List.append_assoc]
      exact hes
    · have hsaid : Moment.said? j ⟨some ⟨i, fresh, e⟩, w.store, db⟩ = none := if_neg hj
      rw [hsaid]
      show q.Follows (w.said j ++ [])
      rw [List.append_nil]
      exact h.going j q ((List.getElem?_set_ne hj).symm.trans hq)

/-- Every turn keeps the history right. -/
theorem Sound.take (h : w.Sound start) (turn : Turn) : (w.take turn).Sound start := by
  cases turn with
  | begin c reserved s => exact h.begin c reserved s
  | event e => exact h.event e
  | go i fresh block =>
    unfold Traffic.take
    dsimp only
    split
    · exact h
    next p hp =>
    split
    · exact h
    next e db rest hstep => exact h.exchange hp hstep

/-- **Along every run the history is what happened.** -/
theorem sound_after (h : w.Sound start) (turns : List Turn) : (w.after turns).Sound start := by
  induction turns generalizing w with
  | nil => exact h
  | cons turn turns ih => exact ih (h.take turn)

/-- A turn keeps what every event keeps that is allowed. -/
theorem Everywhere.take {P : Database → Prop} {allowed : Event → Bool} {turn : Turn}
    (h : w.Everywhere P) (hrequest : ∀ c fresh r, allowed (.request c fresh r) = true)
    (hP : ∀ e db, allowed e = true → P db → P (e.apply db)) (hturn : turn.isWithin allowed = true) :
    (w.take turn).Everywhere P := by
  obtain ⟨hstore, hhistory⟩ := h
  -- whatever the next store is, the present one is the one before
  have hconcat : ∀ deed db calls, P db →
      Everywhere P { store := db, calls, history := w.history ++ [⟨deed, w.store, db⟩] } := by
    intro deed db calls hdb
    refine ⟨hdb, fun m hm => ?_⟩
    rcases List.mem_append.1 hm with hm | hm
    · exact hhistory m hm
    · rw [List.mem_singleton.1 hm]
      exact ⟨hstore, hdb⟩
  cases turn with
  | begin c reserved s => exact ⟨hstore, hhistory⟩
  | event e => exact hconcat _ _ _ (hP e w.store hturn hstore)
  | go i fresh block =>
    unfold Traffic.take
    dsimp only
    split
    · exact ⟨hstore, hhistory⟩
    next p hp =>
    split
    · exact ⟨hstore, hhistory⟩
    next e db rest hstep =>
    refine hconcat _ _ _ ?_
    rcases (Dialogue.happens_step hstep).cases with heq | ⟨r, heq⟩
    · rw [heq]
      exact hstore
    · rw [heq]
      exact hP _ _ (hrequest _ _ _) hstore

/-- **What the first store has and every allowed event keeps, every store of a run has.** -/
theorem everywhere_after {P : Database → Prop} {allowed : Event → Bool} {turns : List Turn}
    (h : w.Everywhere P) (hrequest : ∀ c fresh r, allowed (.request c fresh r) = true)
    (hP : ∀ e db, allowed e = true → P db → P (e.apply db))
    (hturns : ∀ turn ∈ turns, turn.isWithin allowed = true) : (w.after turns).Everywhere P := by
  induction turns generalizing w with
  | nil => exact h
  | cons turn turns ih =>
    refine ih (h.take hrequest hP (hturns turn List.mem_cons_self)) fun turn' hmem => ?_
    exact hturns turn' (List.mem_cons_of_mem turn hmem)

theorem Everywhere.mono {P P' : Database → Prop} (h : w.Everywhere P) (hP : ∀ db, P db → P' db) :
    w.Everywhere P' :=
  ⟨hP _ h.1, fun m hm => ⟨hP _ (h.2 m hm).1, hP _ (h.2 m hm).2⟩⟩

theorem everywhere_on {P : Database → Prop} {db : Database} (h : P db) : (on db).Everywhere P :=
  ⟨h, fun m hm => by cases hm⟩

/-! ## §4. Finding a moment. -/

/-- **What a call said has its moment**, before which and after which it said the rest. -/
theorem exists_moment {ms : List Moment} {i : Nat} {e : Exchange} {before after : List Exchange}
    (h : ms.filterMap (Moment.said? i) = before ++ e :: after) :
    ∃ earlier m later fresh, ms = earlier ++ m :: later ∧ m.deed = some ⟨i, fresh, e⟩ ∧
      earlier.filterMap (Moment.said? i) = before ∧ later.filterMap (Moment.said? i) = after := by
  obtain ⟨first, rest, rfl, hbefore, hrest⟩ := List.filterMap_eq_append_iff.1 h
  obtain ⟨silent, m, later, rfl, hsilent, hsaid, hafter⟩ := List.filterMap_eq_cons_iff.1 hrest
  obtain ⟨fresh, hdeed⟩ := Moment.said?_eq_some_iff.1 hsaid
  refine ⟨first ++ silent, m, later, fresh, ?_, hdeed, ?_, hafter⟩
  · rw [List.append_assoc]
  · rw [List.filterMap_append, hbefore, List.filterMap_eq_nil_iff.2 hsilent, List.append_nil]

/-- What happens at a moment of a call. -/
theorem Sound.happens (h : w.Sound start) {i : Nat} {p : Pending} (hp : w.calls[i]? = some p)
    {m : Moment} {fresh : Fresh} {e : Exchange} (hm : m ∈ w.history)
    (hdeed : m.deed = some ⟨i, fresh, e⟩) : e.Happens p.connection fresh m.before m.after := by
  obtain ⟨q, hq, hhappens⟩ := h.deeds m hm ⟨i, fresh, e⟩ hdeed
  cases hp.symm.trans hq
  exact hhappens

/-- A call that has come to its end said what its dialogue allows. -/
theorem Sound.ends (h : w.Sound start) {i : Nat} {c : Connection} {reserved : ReservedNames}
    {s : ServiceCall} {v : Except ServiceError s.Found}
    (hdone : w.calls[i]? = some ⟨c, reserved, s, .done v⟩)
    {Q : List Exchange → Except ServiceError s.Found → Prop} (hQ : (s.dialogue reserved).Ends Q) :
    Q (w.said i) v := by
  have hend : Q (w.said i ++ []) v := h.going i _ hdone Q hQ
  rw [List.append_nil] at hend
  exact hend

/-- Of two moments of a history that are not the same, one comes first. -/
theorem order_of_moments {history : List Moment} {m m' : Moment}
    {earlier later earlier' later' : List Moment} (h : history = earlier ++ m :: later)
    (h' : history = earlier' ++ m' :: later') (hne : m ≠ m') :
    (∃ between, history = earlier ++ m :: between ++ m' :: later') ∨
      ∃ between, history = earlier' ++ m' :: between ++ m :: later := by
  rcases List.append_eq_append_iff.1 (h.symm.trans h') with ⟨as, hearlier', hm⟩ | ⟨as, hearlier, hm'⟩
  · cases as with
    | nil => exact absurd (List.cons.inj hm).1 hne
    | cons a as =>
      obtain ⟨rfl, -⟩ := List.cons.inj hm
      exact Or.inl ⟨as, hearlier' ▸ h'⟩
  · cases as with
    | nil => exact absurd (List.cons.inj hm').1.symm hne
    | cons a as =>
      obtain ⟨rfl, -⟩ := List.cons.inj hm'
      exact Or.inr ⟨as, hearlier ▸ h⟩

end Traffic

end Namebook
