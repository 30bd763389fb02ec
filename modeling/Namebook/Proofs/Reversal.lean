/-
  Namebook.Proofs.Reversal
  ────────────────────────
  **CALLS THAT TAKE EACH OTHER BACK, AND CALLS THAT HAVE NOTHING TO DO.**

  While no transaction is open and versions can be counted on, an addition is taken back by a removal
  and a promotion by a promotion: of both nothing is left but two counted changes of the document.  A
  promotion that is made again is answered as before and changes nothing.

    • `Idle.removed_after_add`, `promoted_back` — two calls in a row;
    • `Idle.call_promote_again`, `after_promotions` — a promotion once more, and any number of times;
    • `changes_take_each_other_back` — the laws, in every reachable state.
-/
import Namebook.Proofs.Repository.Reversal
import Namebook.Proofs.Change

namespace Namebook

namespace Database

open Tables

variable {db : Database} {c : Connection} {supply : Supply} {reserved : ReservedNames} {p n : String}
  {d : Document}

/-! ## §1. Back. -/

/-- **A removal takes an addition back.** -/
theorem Idle.removed_after_add (h : db.Idle) (hid : db.committed.Identity)
    (hversion : ∀ row ∈ db.committed.documents, row.publicId = p →
      row.version.toInt + 2 ≤ Integer.greatest)
    (hvalue : (db.call c supply ((ServiceCall.add p n).dialogue reserved)).value = .ok d)
    (c' : Connection) (supply' : Supply) :
    let added := db.call c supply ((ServiceCall.add p n).dialogue reserved)
    let removed := added.state.call c' supply' ((ServiceCall.remove p n).dialogue reserved)
    ∃ (d' : Document) (s : Tables), removed.value = .ok d' ∧
      removed.state = { db with committed := s } ∧
      db.committed.Restored s p (supply'.fresh 0).now := by
  intro added removed
  obtain ⟨fresh, t, hrun, hstate⟩ := granted_of_add hvalue
  obtain ⟨d', s, hback, hrestored⟩ := hid.runOn_deleteAlias_added hversion hrun (supply'.fresh 0)
  have hidle : ({ db with committed := t } : Database).Idle := ⟨h.held, h.readers⟩
  have hremoved : removed = ({ db with committed := t } : Database).call c' supply' _ :=
    congrArg (fun db : Database => db.call c' supply' (AliasService.remove p n)) hstate
  obtain ⟨hanswer, hleft⟩ := hidle.call_remove_granted c' hback
  rw [hremoved]
  exact ⟨d', s, hanswer, hleft, hrestored⟩

/-- **A promotion takes a promotion back.** -/
theorem Idle.promoted_back {x y : String} (h : db.Idle) (hid : db.committed.Identity)
    (hversion : ∀ row ∈ db.committed.documents, row.publicId = p →
      row.version.toInt + 2 ≤ Integer.greatest)
    (hvalue : (db.call c supply ((ServiceCall.promote p x).dialogue reserved)).value = .ok d)
    (hbefore : db.committed.Leads p y)
    (hafter : ¬(db.call c supply
      ((ServiceCall.promote p x).dialogue reserved)).state.committed.Leads p y)
    (c' : Connection) (supply' : Supply) :
    let moved := db.call c supply ((ServiceCall.promote p x).dialogue reserved)
    let back := moved.state.call c' supply' ((ServiceCall.promote p y).dialogue reserved)
    ∃ (d' : Document) (s : Tables), back.value = .ok d' ∧
      back.state = { db with committed := s } ∧
      db.committed.Restored s p (supply'.fresh 0).now := by
  intro moved back
  obtain ⟨fresh, t, hrun, hstate⟩ := granted_of_promote hvalue
  rw [hstate] at hafter
  obtain ⟨d', s, hback, hrestored⟩ :=
    hid.runOn_promoteAlias_back hversion hrun hbefore hafter (supply'.fresh 0)
  have hidle : ({ db with committed := t } : Database).Idle := ⟨h.held, h.readers⟩
  have hmoved : back = ({ db with committed := t } : Database).call c' supply' _ :=
    congrArg (fun db : Database => db.call c' supply' (AliasService.promote p y)) hstate
  obtain ⟨hanswer, hleft⟩ := hidle.call_promote_granted c' hback
  rw [hmoved]
  exact ⟨d', s, hanswer, hleft, hrestored⟩

/-! ## §2. Again and again. -/

/-- **A promotion made again**, by whomever, is answered as before and changes nothing. -/
theorem Idle.call_promote_again (h : db.Idle) (hid : db.committed.Identity)
    (hvalue : (db.call c supply ((ServiceCall.promote p n).dialogue reserved)).value = .ok d)
    (c' : Connection) (supply' : Supply) :
    let moved := db.call c supply ((ServiceCall.promote p n).dialogue reserved)
    let again := moved.state.call c' supply' ((ServiceCall.promote p n).dialogue reserved)
    again.value = .ok d ∧ again.state = moved.state := by
  intro moved again
  obtain ⟨fresh, t, hrun, hstate⟩ := granted_of_promote hvalue
  have hmoved : moved.state = { db with committed := t } := hstate
  have hidle : ({ db with committed := t } : Database).Idle := ⟨h.held, h.readers⟩
  have hagain : again = ({ db with committed := t } : Database).call c' supply' _ :=
    congrArg (fun db : Database => db.call c' supply' (AliasService.promote p n)) hstate
  rw [hagain, hmoved]
  exact hidle.call_promote_granted c' (hid.runOn_promoteAlias_again hrun (supply'.fresh 0))

/-- Events that all leave a state alone leave it alone together. -/
theorem after_of_fixed {events : List Event} (h : ∀ e ∈ events, e.apply db = db) :
    db.after events = db := by
  induction events with
  | nil => rfl
  | cons e events ih =>
    show (e.apply db).after events = db
    rw [h e List.mem_cons_self]
    exact ih fun e' he' => h e' (List.mem_cons_of_mem e he')

/-- The same promotion by some clients in a row. -/
def promotions (reserved : ReservedNames) (p x : String) (clients : List (Connection × Supply)) :
    List Event :=
  clients.map fun client => .call client.1 reserved client.2 (.promote p x)

/-- **Any number of repetitions** leave what the first promotion has left. -/
theorem Idle.after_promotions (h : db.Idle) (hid : db.committed.Identity)
    (hvalue : (db.call c supply ((ServiceCall.promote p n).dialogue reserved)).value = .ok d)
    (clients : List (Connection × Supply)) :
    let moved := db.call c supply ((ServiceCall.promote p n).dialogue reserved)
    moved.state.after (promotions reserved p n clients) = moved.state := by
  intro moved
  refine after_of_fixed fun e he => ?_
  obtain ⟨client, -, rfl⟩ := List.mem_map.1 he
  exact (h.call_promote_again hid hvalue client.1 client.2).2

/-! ## §3. Every reachable state. -/

/-- **Changes take each other back**, in every state that clients of the library reach, while no
transaction is open and the version of the document can be counted up twice.

  * A name that was added is removed at once: nothing is left but two counted changes.
  * A promotion that took the primary flag from another alias is made for this alias: the same.
  * A promotion that succeeded is repeated, any number of times and by any clients: the state stays
    what it was, and each repetition returns the same document. -/
theorem changes_take_each_other_back (events : List Event)
    (hlibrary : ∀ e ∈ events, e.isLibrary = true)
    (hheld : (empty.after events).held = none) (hreaders : (empty.after events).readers = [])
    (p : String) (hversion : ∀ row ∈ (empty.after events).committed.documents, row.publicId = p →
      row.version.toInt + 2 ≤ Integer.greatest)
    (c c' : Connection) (reserved : ReservedNames) (supply supply' : Supply) :
    let db := empty.after events
    let now := (supply'.fresh 0).now
    (∀ n, let added := db.call c supply ((ServiceCall.add p n).dialogue reserved)
      let removed := added.state.call c' supply' ((ServiceCall.remove p n).dialogue reserved)
      ∀ d : Document, added.value = .ok d →
        ∃ (d' : Document) (s : Tables), removed.value = .ok d' ∧
          removed.state = { db with committed := s } ∧ db.committed.Restored s p now) ∧
    (∀ x, let moved := db.call c supply ((ServiceCall.promote p x).dialogue reserved)
      ∀ d : Document, moved.value = .ok d →
        (∀ y, db.committed.Leads p y → ¬moved.state.committed.Leads p y →
          let back := moved.state.call c' supply' ((ServiceCall.promote p y).dialogue reserved)
          ∃ (d' : Document) (s : Tables), back.value = .ok d' ∧
            back.state = { db with committed := s } ∧ db.committed.Restored s p now) ∧
        (∀ clients, let db' := moved.state.after (promotions reserved p x clients)
          let again := db'.call c' supply' ((ServiceCall.promote p x).dialogue reserved)
          db' = moved.state ∧ again.value = .ok d ∧ again.state = moved.state)) := by
  intro db now
  have hidle : db.Idle := ⟨hheld, hreaders⟩
  have hid : db.committed.Identity := (identity_holds hlibrary).1
  constructor
  · intro n added removed d hvalue
    exact hidle.removed_after_add hid hversion hvalue c' supply'
  · intro x moved d hvalue
    constructor
    · intro y hbefore hafter back
      exact hidle.promoted_back hid hversion hvalue hbefore hafter c' supply'
    · intro clients db' again
      have hleft : db' = moved.state := hidle.after_promotions hid hvalue clients
      refine ⟨hleft, ?_⟩
      show (db'.call c' supply' _).value = _ ∧ (db'.call c' supply' _).state = _
      rw [hleft]
      exact hidle.call_promote_again hid hvalue c' supply'

/-- A document with two aliases, the first one primary. -/
def twoAliases : List Event :=
  [.request 1 ⟨⟨1⟩, 5⟩ (.createDocument "d" (some "a")), .request 1 ⟨⟨2⟩, 6⟩ (.createAlias "d" "b")]

/-- A third id at a later time. -/
def laterSupply : Supply :=
  { plainSupply with fresh := fun _ => ⟨⟨3⟩, 7⟩ }

theorem changes_take_each_other_back_twoAliases :
    let db := empty.after twoAliases
    (let added := db.call 1 laterSupply ((ServiceCall.add "d" "c").dialogue ⟨[]⟩)
     ∃ d : Document,
      (added.state.call 2 laterSupply ((ServiceCall.remove "d" "c").dialogue ⟨[]⟩)).value = .ok d) ∧
    (let moved := db.call 1 laterSupply ((ServiceCall.promote "d" "b").dialogue ⟨[]⟩)
     (∃ s, (moved.state.call 2 laterSupply ((ServiceCall.promote "d" "a").dialogue ⟨[]⟩)).state
        = { db with committed := s } ∧ db.committed.Restored s "d" 7) ∧
      moved.state.after (promotions ⟨[]⟩ "d" "b" [(2, laterSupply), (3, plainSupply)])
        = moved.state) := by
  have hlaws := changes_take_each_other_back twoAliases (by decide) (by decide +kernel)
    (by decide +kernel) "d" (by decide +kernel) 1 2 ⟨[]⟩ laterSupply laterSupply
  obtain ⟨d, s, hremoved, -⟩ := hlaws.1 "c" _ rfl
  obtain ⟨hback, hagain⟩ := hlaws.2 "b" _ rfl
  have hmoved : ¬((empty.after twoAliases).call 1 laterSupply
      ((ServiceCall.promote "d" "b").dialogue ⟨[]⟩)).state.committed.Leads "d" "a" := by
    rintro ⟨row, hrow, -, hset⟩
    cases hrow
    exact absurd hset (by decide)
  obtain ⟨d', s', -, hrestored⟩ := hback "a" ⟨_, rfl, rfl, rfl⟩ hmoved
  exact ⟨⟨d, hremoved⟩, ⟨s', hrestored⟩, (hagain _).1⟩

end Database

end Namebook
