/-
  Namebook.Proofs.Schema.Migration
  ────────────────────────────────
  **A MIGRATION RUNS TO ITS END OR LEAVES NOTHING.**

  Inside a transaction no statement but the last one touches what is stored, so whichever statement a
  migration stops at, the store is as it was:

    • `Handle.execute_keeps`, `Handle.run_keeps` — a statement, and a run of them;
    • `Handle.transact_eq` — a transaction on a store in one equation;
    • `Handle.migrate_of_…` — what a migration does, by the version of the store.
-/
import Namebook.Proofs.Schema.Definition
import Namebook.Schema.Migration

namespace Namebook.Schema

/-! ## §1. Versions. -/

namespace Catalog

variable {c : Catalog}

theorem readVersion_of_outside (h : c.version < 0 ∨ 0x100000000 ≤ c.version) :
    c.readVersion = .error (.outOfRange c.version) := by
  unfold readVersion
  rw [if_neg (by omega)]

theorem readVersion_eq_ok_iff {version : Nat} :
    c.readVersion = .ok version ↔ c.version = version ∧ version < 0x100000000 := by
  unfold readVersion
  split
  · rw [Except.ok.injEq]
    omega
  · constructor
    · intro h
      cases h
    · intro h
      omega

end Catalog

/-! ## §2. Statements inside a transaction. -/

namespace Handle

variable {h h' : Handle} {c w : Catalog} {s : Statement} {ss : List Statement}

theorem run_cons (h : Handle) (s : Statement) (ss : List Statement) :
    h.run (s :: ss) =
      match h.execute s with
      | .error e => (.error e, h)
      | .ok h' => h'.run ss := rfl

/-- A definition works on the transaction's own copy. -/
theorem execute_define (c w : Catalog) (d : Definition) :
    execute ⟨c, some w⟩ (.define d) = (w.define d).map fun w' => ⟨c, some w'⟩ := by
  show (do return put ⟨c, some w⟩ (← w.define d)) = _
  cases w.define d <;> rfl

/-- A connection inside a transaction over the given store. -/
def Inside (h : Handle) (c : Catalog) : Prop := h.stored = c ∧ h.pending.isSome = true

/-- **No statement but the commit touches what is stored.** -/
theorem execute_keeps (hinside : h.Inside c) (hcommit : s ≠ .commit) (hs : h.execute s = .ok h') :
    h'.Inside c := by
  obtain ⟨stored, pending⟩ := h
  obtain ⟨rfl, hpending⟩ := hinside
  obtain ⟨w, rfl⟩ := Option.isSome_iff_exists.1 hpending
  cases s with
  | begin => cases hs
  | define d =>
    rw [execute_define] at hs
    cases hdefine : w.define d with
    | error e =>
      rw [hdefine] at hs
      cases hs
    | ok w' =>
      rw [hdefine] at hs
      cases hs
      exact ⟨rfl, rfl⟩
  | setVersion version =>
    cases hs
    exact ⟨rfl, rfl⟩
  | commit => exact absurd rfl hcommit

/-- **Nor does a run of them**, wherever it stops. -/
theorem run_keeps (hinside : h.Inside c) (hcommit : .commit ∉ ss) : (h.run ss).2.Inside c := by
  induction ss generalizing h with
  | nil => exact hinside
  | cons s ss ih =>
    rw [run_cons]
    cases hs : h.execute s with
    | error e => exact hinside
    | ok h' =>
      have hne : s ≠ .commit := fun heq => hcommit (heq ▸ List.mem_cons_self)
      exact ih (execute_keeps hinside hne hs) fun hmem => hcommit (List.mem_cons_of_mem s hmem)

theorem run_append (ss ss' : List Statement) (h : Handle) :
    h.run (ss ++ ss') =
      match h.run ss with
      | (.ok (), h') => h'.run ss'
      | (.error e, h') => (.error e, h') := by
  induction ss generalizing h with
  | nil => rfl
  | cons s ss ih =>
    rw [List.cons_append, run_cons, run_cons]
    cases h.execute s with
    | error e => rfl
    | ok h' => exact ih h'

theorem transact_on (c : Catalog) (ss : List Statement) :
    (on c).transact ss =
      match (Handle.mk c (some c)).run (ss ++ [.commit]) with
      | (.ok (), h) => (.ok (), h)
      | (.error e, h) => (.error e, h.rollback) := rfl

/-- **A transaction on a store**: all its statements take effect, or none does. -/
theorem transact_eq (c : Catalog) (hcommit : .commit ∉ ss) :
    (on c).transact ss =
      match (Handle.mk c (some c)).run ss with
      | (.ok (), h) => (.ok (), on h.current)
      | (.error e, _) => (.error e, on c) := by
  have hinside := run_keeps (h := ⟨c, some c⟩) ⟨rfl, rfl⟩ hcommit
  rw [transact_on, run_append]
  cases hrun : (Handle.mk c (some c)).run ss with
  | mk r h =>
    rw [hrun] at hinside
    obtain ⟨stored, pending⟩ := h
    obtain ⟨rfl, hpending⟩ := hinside
    obtain ⟨w, rfl⟩ := Option.isSome_iff_exists.1 hpending
    cases r with
    | error e => rfl
    | ok u => rfl

/-- Definitions work on the transaction's own copy. -/
theorem run_definitions (ds : List Definition) (c w : Catalog) :
    (∀ w', w.defineAll ds = .ok w' →
      (Handle.mk c (some w)).run (ds.map .define) = (.ok (), ⟨c, some w'⟩)) ∧
    (∀ e, w.defineAll ds = .error e →
      ((Handle.mk c (some w)).run (ds.map .define)).1 = .error e) := by
  induction ds generalizing w with
  | nil =>
    refine ⟨fun w' h => ?_, fun e h => ?_⟩
    · cases h
      rfl
    · cases h
  | cons d ds ih =>
    have hall : w.defineAll (d :: ds) = w.define d >>= (·.defineAll ds) := rfl
    rw [List.map_cons, run_cons, execute_define, hall]
    cases w.define d with
    | error e =>
      refine ⟨fun w' h => ?_, fun e' h => ?_⟩
      · cases h
      · cases h
        rfl
    | ok w' => exact ih w'

end Handle

/-! ## §3. The schema. -/

/-- All objects of the latest schema, in the order of their making. -/
def latestSchema : List Definition :=
  tableDefinitions ++ indexDefinitions ++ triggerDefinitions

theorem slotsApart_latestSchema : Catalog.SlotsApart latestSchema := by decide +kernel

/-- A store that is not of the latest schema is of none yet. -/
theorem upgrade_of_lt {version : Nat} (h : version < latestVersion) :
    upgrade version = latestSchema.map .define ++ [.setVersion latestVersion] := by
  have hzero : version = 0 := Nat.lt_one_iff.1 h
  rw [hzero]
  rfl

namespace Handle

variable {c c' : Catalog} {version : Nat}

/-- What brings a store to the latest schema, if its definitions are taken. -/
theorem transact_upgrade_of_ok {w : Catalog} (hlt : version < latestVersion)
    (h : c.defineAll latestSchema = .ok w) :
    (on c).transact (upgrade version) = (.ok (), on { w with version := latestVersion }) := by
  rw [upgrade_of_lt hlt, transact_eq c (by decide +kernel), run_append,
    (run_definitions latestSchema c c).1 w h]
  rfl

/-- If a definition is refused, whichever it is, nothing is left of those before it. -/
theorem transact_upgrade_of_error {e : EngineError} (hlt : version < latestVersion)
    (h : c.defineAll latestSchema = .error e) :
    (on c).transact (upgrade version) = (.error e, on c) := by
  have hrun := (run_definitions latestSchema c c).2 e h
  rw [upgrade_of_lt hlt, transact_eq c (by decide +kernel), run_append]
  cases hstop : (Handle.mk c (some c)).run (latestSchema.map .define) with
  | mk r h' =>
    rw [hstop] at hrun
    cases hrun
    rfl

/-! ## §4. Migrations, by the version of the store. -/

theorem migrate_of_outside (h : c.version < 0 ∨ 0x100000000 ≤ c.version) :
    (on c).migrate = (.error (.engine (.outOfRange c.version)), on c) := by
  unfold migrate
  rw [show (on c).current = c from rfl, Catalog.readVersion_of_outside h]

theorem migrate_of_newer (h : c.readVersion = .ok version) (hgt : latestVersion < version) :
    (on c).migrate = (.error (.unsupportedVersion version latestVersion), on c) := by
  unfold migrate
  rw [show (on c).current = c from rfl, h]
  exact if_pos hgt

theorem migrate_of_latest (h : c.readVersion = .ok latestVersion) :
    (on c).migrate = (.ok [], on c) := by
  unfold migrate
  rw [show (on c).current = c from rfl, h]
  dsimp only
  rw [if_neg (Nat.lt_irrefl _), if_pos rfl]

theorem migrate_of_older (h : c.readVersion = .ok version) (hlt : version < latestVersion) :
    (on c).migrate =
      match c.defineAll latestSchema with
      | .ok w => (.ok [migrationRecord version], on { w with version := latestVersion })
      | .error e => (.error (.engine e), on c) := by
  unfold migrate
  rw [show (on c).current = c from rfl, h]
  dsimp only
  rw [if_neg (Nat.lt_asymm hlt), if_neg (Nat.ne_of_lt hlt)]
  cases hall : c.defineAll latestSchema with
  | ok w => rw [transact_upgrade_of_ok hlt hall]
  | error e => rw [transact_upgrade_of_error hlt hall]

end Handle

end Namebook.Schema
