/-
  Namebook.Proofs.Service.Client
  ──────────────────────────────
  **SERVICE CALLS ON A STORE.**

  `Database.call` runs a service call over one connection of a store: every request of the call is a
  transaction of its own and gets an id and a time of its own.

    • `call_cases` — a call leaves the store as it was or as one granted change left it;
    • `failed_call_keeps_database` — a call or a request that fails leaves tables and transactions
      exactly as they were.
-/
import Namebook.Proofs.Service.Settled

namespace Namebook

/-! ## §1. Calls. -/

/-- What a call draws from outside: an id and the time for each request, and blocks. -/
structure Supply where
  fresh : Nat → Fresh
  blocks : Nat → Block

/-- A call of a service.  Of a document that a caller passes only the public id counts. -/
inductive ServiceCall where
  | add (publicId name : String)
  | remove (publicId name : String)
  | promote (publicId name : String)
  | view (publicId name : String)
  | resolve (name : String)
  | create (initial : Option String)
  deriving DecidableEq

namespace ServiceCall

/-- What a call gives when it succeeds. -/
abbrev Found : ServiceCall → Type
  | view _ _ => AliasView
  | add _ _ => Document
  | remove _ _ => Document
  | promote _ _ => Document
  | resolve _ => Document
  | create _ => Document

/-- The dialogue of a call. -/
def dialogue (reserved : ReservedNames) : (s : ServiceCall) → Call s.Found
  | add p n => AliasService.add reserved p n
  | remove p n => AliasService.remove p n
  | promote p n => AliasService.promote p n
  | view p n => AliasService.view p n
  | resolve n => DocumentService.resolve n
  | create initial => DocumentService.create reserved initial

theorem settled_dialogue (reserved : ReservedNames) (s : ServiceCall) :
    (s.dialogue reserved).Ends Call.Settled := by
  cases s with
  | add p n => exact AliasService.settled_add reserved p n
  | remove p n => exact AliasService.settled_remove p n
  | promote p n => exact AliasService.settled_promote p n
  | view p n => exact AliasService.settled_view p n
  | resolve n => exact DocumentService.settled_resolve n
  | create initial => exact DocumentService.settled_create reserved initial

end ServiceCall

namespace Database

variable {α : Type}

/-- Answers the requests of a call over one connection and counts them. -/
def serve (c : Connection) (fresh : Nat → Fresh) (r : Request) (s : Database × Nat) :
    r.Answer × (Database × Nat) :=
  let (a, db) := s.1.answer c (fresh s.2) r
  (a, (db, s.2 + 1))

/-- **Runs a service call over one connection.** -/
def call (db : Database) (c : Connection) (supply : Supply) (call : Call α) :
    Dialogue.Outcome (Except ServiceError α) Database :=
  let o := (ExceptT.run call).run (serve c supply.fresh) supply.blocks (db, 0) 0
  { value := o.value, state := o.state.1, log := o.log, draws := o.draws }

/-! ## §2. What a call leaves behind. -/

variable {c : Connection} {fresh : Nat → Fresh}

/-- Where no change is granted, nothing changes. -/
theorem answered_quiet {s s' : Database × Nat} {es : List Exchange}
    (h : Dialogue.Answered (serve c fresh) s es s') (hquiet : es.countP Exchange.changed = 0) :
    s'.1 = s.1 := by
  induction h with
  | nil s => rfl
  | drew b h ih => exact ih hquiet
  | wrote entry h ih => exact ih hquiet
  | @asked r s s' es h ih =>
    rw [List.countP_cons] at hquiet
    have hrest : s'.1 = (s.1.answer c (fresh s.2) r).2 := ih (by omega)
    have hkeep : (s.1.answer c (fresh s.2) r).2 = s.1 := by
      cases hanswer : (s.1.answer c (fresh s.2) r).1 with
      | error e => exact answer_of_error hanswer
      | ok v =>
        -- what was granted is no change, or the transcript would count it
        have hlookup : r.isChange = false := by
          cases hchange : r.isChange with
          | false => rfl
          | true =>
            have hone : Exchange.changed (.asked r (serve c fresh r s).1) = true := by
              show Exchange.changed (.asked r (s.1.answer c (fresh s.2) r).1) = true
              rw [hanswer]
              exact hchange
            rw [hone] at hquiet
            simp at hquiet
        exact answer_of_lookup hlookup
    rw [hrest, hkeep]

/-- A store is left as it was, or as one of the requests left it that were made of it. -/
def ChangedOnce (c : Connection) (fresh : Nat → Fresh) (es : List Exchange) (db db' : Database) :
    Prop :=
  db' = db ∨ ∃ r a k, Exchange.asked r a ∈ es ∧ db' = (db.answer c (fresh k) r).2

theorem ChangedOnce.cons {e : Exchange} {es : List Exchange} {db db' : Database}
    (h : ChangedOnce c fresh es db db') : ChangedOnce c fresh (e :: es) db db' := by
  rcases h with hkeep | ⟨r, a, k, hmem, hstate⟩
  · exact Or.inl hkeep
  · exact Or.inr ⟨r, a, k, List.mem_cons_of_mem e hmem, hstate⟩

/-- Where one change at most is granted, it was made on the store as it was at first. -/
theorem answered_once {s s' : Database × Nat} {es : List Exchange}
    (h : Dialogue.Answered (serve c fresh) s es s') (honce : es.countP Exchange.changed ≤ 1) :
    ChangedOnce c fresh es s.1 s'.1 := by
  induction h with
  | nil s => exact Or.inl rfl
  | drew b h ih => exact (ih honce).cons
  | wrote entry h ih => exact (ih honce).cons
  | @asked r s s' es h ih =>
    rw [List.countP_cons] at honce
    by_cases hchanged : Exchange.changed (.asked r (serve c fresh r s).1) = true
    · -- the change is this one: the rest is quiet
      rw [if_pos hchanged] at honce
      have hrest := answered_quiet h (by omega)
      exact Or.inr ⟨r, _, s.2, List.mem_cons_self, hrest⟩
    · -- this one changes nothing: the rest starts from the same store
      rw [if_neg hchanged] at honce
      have hkeep : (serve c fresh r s).2.1 = s.1 := by
        have hone : Dialogue.Answered (serve c fresh) s [.asked r (serve c fresh r s).1]
            (serve c fresh r s).2 := .asked r (.nil _)
        refine answered_quiet hone ?_
        rw [List.countP_cons, if_neg hchanged]
        rfl
      have hrest := ih (by omega)
      rw [hkeep] at hrest
      exact hrest.cons

variable {db : Database} {supply : Supply} {body : Call α}

/-- A call has a transcript whose answers the store gave. -/
theorem call_ends {Q : List Exchange → Except ServiceError α → Prop} (h : body.Ends Q)
    (db : Database) (c : Connection) (supply : Supply) :
    ∃ es k, Q es (db.call c supply body).value ∧
      Dialogue.Answered (serve c supply.fresh) (db, 0) es ((db.call c supply body).state, k) := by
  obtain ⟨es, hQ, hes⟩ := Dialogue.run_ends h (serve c supply.fresh) supply.blocks (db, 0) 0
  exact ⟨es, _, hQ, hes⟩

/-- A call that fails was granted no change. -/
theorem call_of_error {e : ServiceError} (h : body.Ends Call.Settled)
    (herror : (db.call c supply body).value = .error e) : (db.call c supply body).state = db := by
  obtain ⟨es, k, hsettled, hes⟩ := call_ends h db c supply
  rw [herror] at hsettled
  exact answered_quiet hes hsettled

/-- **A call changes the store by one of its requests, or not at all.** -/
theorem call_cases {P : Request → Prop} (h : body.Ends Call.Settled)
    (hP : body.Ends fun es _ => ∀ r a, Exchange.asked r a ∈ es → P r) :
    (db.call c supply body).state = db ∨
      ∃ r k, P r ∧ (db.call c supply body).state = (db.answer c (supply.fresh k) r).2 := by
  obtain ⟨es, k, ⟨hsettled, hasked⟩, hes⟩ := call_ends (Call.ends_and h hP) db c supply
  have honce : es.countP Exchange.changed ≤ 1 := by
    cases hvalue : (db.call c supply body).value with
    | ok v => rw [hvalue] at hsettled; exact hsettled
    | error e =>
      rw [hvalue] at hsettled
      have hnone : es.countP Exchange.changed = 0 := hsettled
      omega
  rcases answered_once hes honce with hkeep | ⟨r, a, j, hmem, hstate⟩
  · exact Or.inl hkeep
  · exact Or.inr ⟨r, j, hasked r a hmem, hstate⟩

/-! ## §3. Failures. -/

/-- **A call or a request that fails changes nothing**: neither the tables nor any transaction of
any connection, whatever the store holds and whoever has transactions open. -/
theorem failed_call_keeps_database (db : Database) (c : Connection) :
    (∀ (reserved : ReservedNames) (supply : Supply) (s : ServiceCall) (e : ServiceError),
      (db.call c supply (s.dialogue reserved)).value = .error e →
        (db.call c supply (s.dialogue reserved)).state = db) ∧
    (∀ (fresh : Fresh) (r : Request) (e : RepositoryError),
      (db.answer c fresh r).1 = .error e → (db.answer c fresh r).2 = db) := by
  constructor
  · intro reserved supply s e herror
    exact call_of_error (s.settled_dialogue reserved) herror
  · intro fresh r e herror
    exact answer_of_error herror

/-- Tables that no client of the library has left so: a version at its end, an alias id that is none,
a flag out of range, and an index out of step. -/
def worn : Tables :=
  { names := [⟨"other", "alias"⟩]
    documents := [⟨"d", Int64.ofInt Integer.greatest, 0, 0⟩]
    aliases := [⟨"no id", "a", "d", 7, 0⟩]
    onePrimary := false }

/-- Ids that count up, one time, and blocks of zeros. -/
def plainSupply : Supply :=
  { fresh := fun k => ⟨⟨BitVec.ofNat 128 k⟩, 5⟩, blocks := fun _ => Vector.replicate 16 0 }

/-- The version cannot be counted up after the new row was written; and a connection that has
written in a transaction of its own cannot make a request in it. -/
theorem failed_call_keeps_worn_store :
    let free : Database := { committed := worn, held := none, readers := [2] }
    let held : Database := { free with held := some ⟨1, .immediate, Tables.empty⟩ }
    (free.call 1 plainSupply (ServiceCall.dialogue ⟨[]⟩ (.add "d" "n"))).state = free ∧
    (held.answer 1 ⟨⟨0⟩, 5⟩ (.createAlias "d" "n")).2 = held :=
  ⟨(failed_call_keeps_database _ 1).1 ⟨[]⟩ plainSupply (.add "d" "n")
      (.repository (.store (.engine (.overflow 1 "version")))) rfl,
    (failed_call_keeps_database _ 1).2 ⟨⟨0⟩, 5⟩ (.createAlias "d" "n")
      (.store (.engine .nestedTransaction)) rfl⟩

end Database

end Namebook
