/-
  Namebook.Service.Dialogue
  ─────────────────────────
  **Services as dialogues with repositories.**

  A dialogue is a tree: it ends with a value, or asks a request and goes on with the answer, or
  draws a block of entropy, or writes a log record.  Nothing is said of who answers, so one service
  can be run on a store, on a script, or one request at a time with other clients in between.
-/
import Namebook.Log
import Namebook.PublicId
import Namebook.Repository.Request

namespace Namebook

/-- A computation that talks to repositories. -/
inductive Dialogue (α : Type) where
  /-- The end. -/
  | done (a : α)
  /-- A request, and how to go on with its answer. -/
  | ask (r : Request) (next : r.Answer → Dialogue α)
  /-- A draw of entropy, and how to go on with it. -/
  | draw (next : Block → Dialogue α)
  /-- A log record, and what follows. -/
  | record (entry : Log.Record) (next : Dialogue α)

namespace Dialogue

/-! ## §1. Composition. -/

/-- Goes on with the value of a dialogue. -/
def bind {α β : Type} : Dialogue α → (α → Dialogue β) → Dialogue β
  | done a, f => f a
  | ask r next, f => ask r fun answer => (next answer).bind f
  | draw next, f => draw fun block => (next block).bind f
  | record entry next, f => record entry (next.bind f)

instance : Monad Dialogue where
  pure := done
  bind := bind

/-- Asks one request. -/
def request (r : Request) : Dialogue r.Answer := ask r done

/-- Draws one block. -/
def block : Dialogue Block := draw done

/-- Writes one record. -/
def log (entry : Log.Record) : Dialogue Unit := record entry (done ())

/-! ## §2. Running. -/

/-- What a run leaves behind. -/
structure Outcome (α σ : Type) where
  value : α
  /-- The state of whoever answered. -/
  state : σ
  /-- The records in their order. -/
  log : List Log.Record
  /-- The number of blocks drawn. -/
  draws : Nat

/-- **Runs a dialogue**: `answer` answers its requests, `blocks k` is the block of draw `k`, and
`drawn` blocks were drawn before. -/
def run {α σ : Type} (answer : (r : Request) → σ → r.Answer × σ) (blocks : Nat → Block) :
    Dialogue α → σ → Nat → Outcome α σ
  | done a, s, drawn => { value := a, state := s, log := [], draws := drawn }
  | ask r next, s, drawn =>
    let (a, s') := answer r s
    (next a).run answer blocks s' drawn
  | draw next, s, drawn => (next (blocks drawn)).run answer blocks s (drawn + 1)
  | record entry next, s, drawn =>
    let rest := next.run answer blocks s drawn
    { rest with log := entry :: rest.log }

end Dialogue

/-- The block of each draw: the listed blocks in order, then the last of them again and again. -/
def drawFrom (first : Block) (rest : List Block) (k : Nat) : Block :=
  ((first :: rest)[k]?).getD (rest.getLastD first)

end Namebook
