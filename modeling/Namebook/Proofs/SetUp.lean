/-
  Namebook.Proofs.SetUp
  ─────────────────────
  **SETTING LOGGING UP — the first success counts, and counts for good.**

  Calls that set logging up come one after another, and each finds surroundings of its own: a start
  may fail at any of them.  Whatever the calls were, logging is either not set up, or fixed by the
  first call that succeeded; from then on a call only compares.  The start reports two records, which
  are written unless the level that was asked for holds them back:

    • `SetupCall.Asks` — the target a call asks for;
    • `perform_of_active`, `perform_of_inactive`, `outcome_none_cases` — one call;
    • `after_of_active`, `after_eq_none_iff` — many calls;
    • `set_up_once`;
    • `Session.settle_files` — what is written is what the log file gets;
    • `start_goes_unwritten` — a level that holds back the records of the start.
-/
import Namebook.Logging.Session

namespace Namebook

open Namebook.Log

/-! ## §1. What is asked for. -/

/-- The names of a level. -/
def Log.Level.spellings : Level → List String
  | warn => ["warn", "warning"]
  | l => [l.name]

theorem Log.Level.ofName?_eq_some_iff {name : String} {l : Level} :
    ofName? name = some l ↔ name ∈ l.spellings := by
  constructor
  · intro h
    unfold ofName? at h
    split at h <;> cases h <;> decide
  · intro h
    cases l <;> simp only [spellings, Level.name, List.mem_cons, List.not_mem_nil, or_false] at h
    case warn =>
      obtain h | h := h <;> subst h <;> rfl
    all_goals
      subst h
      rfl

namespace Logging

/-- A level and a path name a target: its level has the lowered text among its names, and its directory
is the trimmed path, which starts at the root. -/
structure Target.Named (t : Target) (level path : String) : Prop where
  level : lowered level ∈ t.level.spellings
  directory : t.directory.path = Text.trim path
  absolute : Path.isAbsolute (Text.trim path) = true

theorem normaliseLevel_eq_ok_iff {level : String} {l : Level} :
    normaliseLevel level = .ok l ↔ lowered level ∈ l.spellings := by
  rw [← Level.ofName?_eq_some_iff]
  unfold normaliseLevel
  cases Level.ofName? (lowered level) with
  | some l' => rw [Except.ok.injEq, Option.some.injEq]
  | none =>
    exact iff_of_false nofun nofun

theorem normaliseDirectory_eq_ok_iff {path : String} {d : Directory} :
    normaliseDirectory path = .ok d ↔
      d.path = Text.trim path ∧ Path.isAbsolute (Text.trim path) = true := by
  unfold normaliseDirectory
  by_cases hempty : Text.trim path = ""
  · -- the empty path does not start at the root
    rw [if_pos hempty, hempty]
    exact iff_of_false nofun fun h => nomatch h.2
  · rw [if_neg hempty]
    by_cases habsolute : Path.isAbsolute (Text.trim path) = true
    · rw [if_pos habsolute, and_iff_left habsolute, Except.ok.injEq]
      constructor
      · intro h
        rw [← h]
      · intro h
        cases d
        exact congrArg Directory.mk h.symm
    · rw [if_neg habsolute]
      exact iff_of_false nofun fun h => habsolute h.2

theorem normalise_eq_ok_iff {level path : String} {t : Target} :
    normalise level path = .ok t ↔ t.Named level path := by
  have hnamed : t.Named level path ↔
      normaliseLevel level = .ok t.level ∧ normaliseDirectory path = .ok t.directory := by
    rw [normaliseLevel_eq_ok_iff, normaliseDirectory_eq_ok_iff]
    exact ⟨fun h => ⟨h.level, h.directory, h.absolute⟩, fun h => ⟨h.1, h.2.1, h.2.2⟩⟩
  rw [hnamed]
  unfold normalise
  cases normaliseLevel level with
  | error e => exact iff_of_false nofun fun h => nomatch h.1
  | ok l =>
    cases normaliseDirectory path with
    | error e => exact iff_of_false nofun fun h => nomatch h.2
    | ok d =>
      constructor
      · intro h
        cases h
        exact ⟨rfl, rfl⟩
      · intro ⟨hlevel, hdirectory⟩
        cases hlevel
        cases hdirectory
        rfl

/-! ## §2. One call. -/

/-- A call that sets logging up. -/
inductive SetupCall where
  /-- For a level and a directory. -/
  | direct (level path : String)
  /-- As configured, where there need not be a directory. -/
  | configured (level : String) (path : Option RawPath)

variable {σ : Type}

/-- Carries a call out; the answer is whether logging is set up. -/
def SetupCall.perform (start : Start σ) (active : Option Target) (s : σ) :
    SetupCall → Outcome σ Bool
  | direct level path => (init start active s level path).map fun _ => true
  | configured level path => initConfigured start active s level path

/-- A call asks for a target. -/
inductive SetupCall.Asks (t : Target) : SetupCall → Prop
  | direct {level path : String} (h : t.Named level path) : Asks t (.direct level path)
  | configured {level path : String} (h : t.Named level path) :
      Asks t (.configured level (some (.text path)))

/-- A call without a directory. -/
def SetupCall.Idle (call : SetupCall) : Prop :=
  ∃ level, call = .configured level none

/-- The records of an outcome that are written: those that pass the level. -/
def Outcome.written {α : Type} (o : Outcome σ α) : List Record :=
  match o.active with
  | none => []
  | some t => t.passing o.log

/-- A call has no directory, or it asks for a target, or it asks for nothing proper. -/
theorem SetupCall.kinds (call : SetupCall) :
    call.Idle ∨ (∃ t, call.Asks t) ∨ ¬ call.Idle ∧ ∀ t, ¬ call.Asks t := by
  by_cases hidle : call.Idle
  · exact Or.inl hidle
  · by_cases hasks : ∃ t, call.Asks t
    · exact Or.inr (Or.inl hasks)
    · exact Or.inr (Or.inr ⟨hidle, fun t ht => hasks ⟨t, ht⟩⟩)

variable {start : Start σ} {active : Option Target} {s s' : σ} {call : SetupCall} {t a : Target}

/-- Where two targets agree; a difference of directories comes before one of levels. -/
theorem agree_eq (a t : Target) :
    a.agree t =
      if Path.components a.directory.path ≠ Path.components t.directory.path then
        .error (.directoryFixed a.directory t.directory)
      else if a.level ≠ t.level then .error (.levelFixed a.level t.level)
      else .ok () := by
  unfold Target.agree Directory.same
  simp only [← decide_not, decide_eq_true_eq, ne_eq]

theorem agree_self (t : Target) : t.agree t = .ok () := by
  rw [agree_eq, if_neg fun h => h rfl, if_neg fun h => h rfl]

/-- A call that asks for a target is an `init` for it. -/
theorem SetupCall.Asks.perform_eq (start : Start σ) (h : call.Asks t) : ∃ level path,
    normalise level path = .ok t ∧ ∀ active s,
      call.perform start active s = (init start active s level path).map fun _ => true := by
  cases h with
  | direct h => exact ⟨_, _, normalise_eq_ok_iff.2 h, fun _ _ => rfl⟩
  | configured h => exact ⟨_, _, normalise_eq_ok_iff.2 h, fun _ _ => rfl⟩

/-- **Without a directory nothing happens.** -/
theorem perform_of_idle (h : call.Idle) :
    call.perform start active s = .unchanged active s (.ok false) := by
  obtain ⟨level, rfl⟩ := h
  rfl

/-- **A call that asks for nothing proper fails and changes nothing.** -/
theorem perform_of_improper (start : Start σ) (active : Option Target) (s : σ)
    (hidle : ¬ call.Idle) (h : ∀ t, ¬ call.Asks t) :
    ∃ e, call.perform start active s = .unchanged active s (.error e) := by
  have hinit : ∀ level path, (∀ t, ¬ Target.Named t level path) → ∃ e,
      (init start active s level path).map (fun _ => true) = .unchanged active s (.error e) := by
    intro level path hnamed
    cases hnormal : normalise level path with
    | ok t => exact absurd (normalise_eq_ok_iff.1 hnormal) (hnamed t)
    | error e =>
      refine ⟨e, ?_⟩
      unfold init
      rw [hnormal]
      rfl
  match call, hidle, h with
  | .direct level path, _, h => exact hinit level path fun t hnamed => h t (.direct hnamed)
  | .configured level none, hidle, _ => exact absurd ⟨level, rfl⟩ hidle
  | .configured level (some (.undecodable shown)), _, _ => exact ⟨_, rfl⟩
  | .configured level (some (.text path)), _, h =>
    exact hinit level path fun t hnamed => h t (.configured hnamed)

/-- **Once logging is set up, a call compares and changes nothing.** -/
theorem perform_of_active (h : call.Asks t) :
    call.perform start (some a) s
      = .unchanged (some a) s ((a.agree t).map fun _ => true) := by
  obtain ⟨level, path, hnormal, hperform⟩ := h.perform_eq start
  rw [hperform]
  unfold init
  rw [hnormal]
  rfl

/-- **Before that, a call starts the log**: it reports the records of the start and fixes its target, or
the start fails. -/
theorem perform_of_inactive (h : call.Asks t) :
    call.perform start none s =
      match start t s with
      | (.ok (), s') =>
        { value := .ok true, active := some t, surroundings := s', log := t.startRecords }
      | (.error fault, s') => .unchanged none s' (.error (.startFailed t.directory fault)) := by
  obtain ⟨level, path, hnormal, hperform⟩ := h.perform_eq start
  rw [hperform]
  unfold init
  rw [hnormal]
  dsimp only
  rcases start t s with ⟨⟨fault⟩ | ⟨⟩, s'⟩
  · rfl
  · dsimp only
    rw [agree_self]
    rfl

/-! ## §3. Many calls. -/

/-- A call in the surroundings that it finds. -/
structure Moment (σ : Type) where
  surroundings : σ
  call : SetupCall

/-- What a call does at its moment. -/
def Moment.outcome (start : Start σ) (active : Option Target) (m : Moment σ) : Outcome σ Bool :=
  m.call.perform start active m.surroundings

/-- What calls do, one after another. -/
def outcomes (start : Start σ) : Option Target → List (Moment σ) → List (Outcome σ Bool)
  | _, [] => []
  | active, m :: ms =>
    m.outcome start active :: outcomes start (m.outcome start active).active ms

/-- The target after calls. -/
def after (start : Start σ) : Option Target → List (Moment σ) → Option Target
  | active, [] => active
  | active, m :: ms => after start (m.outcome start active).active ms

/-- The records that calls report. -/
def reported (start : Start σ) (active : Option Target) (ms : List (Moment σ)) : List Record :=
  (outcomes start active ms).flatMap (·.log)

/-- The records that calls write. -/
def written (start : Start σ) (active : Option Target) (ms : List (Moment σ)) : List Record :=
  (outcomes start active ms).flatMap (·.written)

variable {m : Moment σ} {ms : List (Moment σ)}

/-- A call does not move a target that is fixed, and reports nothing. -/
theorem outcome_some (start : Start σ) (m : Moment σ) (a : Target) :
    (m.outcome start (some a)).active = some a ∧ (m.outcome start (some a)).log = [] := by
  unfold Moment.outcome
  rcases m.call.kinds with hidle | ⟨t, hasks⟩ | ⟨hidle, himproper⟩
  · rw [perform_of_idle hidle]
    exact ⟨rfl, rfl⟩
  · rw [perform_of_active hasks]
    exact ⟨rfl, rfl⟩
  · obtain ⟨e, he⟩ := perform_of_improper start (some a) m.surroundings hidle himproper
    rw [he]
    exact ⟨rfl, rfl⟩

/-- **Without a target a call succeeds and fixes the target it asks for, or it leaves none.** -/
theorem outcome_none_cases (start : Start σ) (m : Moment σ) :
    (∃ t s', m.call.Asks t ∧ m.outcome start none =
        { value := .ok true, active := some t, surroundings := s', log := t.startRecords }) ∨
    ((m.outcome start none).value ≠ .ok true ∧ (m.outcome start none).active = none ∧
      (m.outcome start none).log = []) := by
  unfold Moment.outcome
  rcases m.call.kinds with hidle | ⟨t, hasks⟩ | ⟨hidle, himproper⟩
  · rw [perform_of_idle hidle]
    exact Or.inr ⟨nofun, rfl, rfl⟩
  · rw [perform_of_inactive hasks]
    rcases start t m.surroundings with ⟨⟨fault⟩ | ⟨⟩, s'⟩
    · exact Or.inr ⟨nofun, rfl, rfl⟩
    · exact Or.inl ⟨t, s', hasks, rfl⟩
  · obtain ⟨e, he⟩ := perform_of_improper start none m.surroundings hidle himproper
    rw [he]
    exact Or.inr ⟨nofun, rfl, rfl⟩

theorem outcomes_append (start : Start σ) (active : Option Target) (ms ns : List (Moment σ)) :
    outcomes start active (ms ++ ns)
      = outcomes start active ms ++ outcomes start (after start active ms) ns := by
  induction ms generalizing active with
  | nil => rfl
  | cons m ms ih => exact congrArg (m.outcome start active :: ·) (ih _)

theorem after_append (start : Start σ) (active : Option Target) (ms ns : List (Moment σ)) :
    after start active (ms ++ ns) = after start (after start active ms) ns := by
  induction ms generalizing active with
  | nil => rfl
  | cons m ms ih => exact ih _

/-- **A target that is fixed stays, and nothing is reported any more.** -/
theorem after_of_active (start : Start σ) (ms : List (Moment σ)) (a : Target) :
    after start (some a) ms = some a ∧ ∀ o ∈ outcomes start (some a) ms, o.log = [] := by
  induction ms with
  | nil => exact ⟨rfl, fun o ho => absurd ho List.not_mem_nil⟩
  | cons m ms ih =>
    obtain ⟨hactive, hlog⟩ := outcome_some start m a
    unfold after outcomes
    rw [hactive]
    refine ⟨ih.1, fun o ho => ?_⟩
    cases List.mem_cons.1 ho with
    | inl heq => exact heq ▸ hlog
    | inr hlater => exact ih.2 o hlater

/-- **Logging is not set up as long as no call has succeeded**, and until then nothing is reported. -/
theorem after_eq_none_iff :
    after start none ms = none ↔ ∀ o ∈ outcomes start none ms, o.value ≠ .ok true := by
  induction ms with
  | nil => exact ⟨fun _ o ho => absurd ho List.not_mem_nil, fun _ => rfl⟩
  | cons m ms ih =>
    unfold after outcomes
    rw [List.forall_mem_cons]
    rcases outcome_none_cases start m with ⟨t, s', -, hok⟩ | ⟨hvalue, hnone, -⟩
    · rw [hok]
      dsimp only
      rw [(after_of_active start ms t).1]
      constructor
      · intro h
        cases h
      · intro h
        exact absurd rfl h.1
    · rw [hnone, ih]
      exact ⟨fun h => ⟨hvalue, h⟩, fun h => h.2⟩

theorem log_of_after_eq_none (h : after start none ms = none) :
    ∀ o ∈ outcomes start none ms, o.log = [] := by
  induction ms with
  | nil => exact fun o ho => absurd ho List.not_mem_nil
  | cons m ms ih =>
    unfold after at h
    unfold outcomes
    rcases outcome_none_cases start m with ⟨t, s', -, hok⟩ | ⟨-, hnone, hlog⟩
    · rw [hok] at h
      dsimp only at h
      rw [(after_of_active start ms t).1] at h
      cases h
    · rw [hnone] at h ⊢
      rw [List.forall_mem_cons]
      exact ⟨hlog, ih h⟩

/-- Outcomes that report nothing write nothing. -/
theorem flatMap_of_quiet {os : List (Outcome σ Bool)} (h : ∀ o ∈ os, o.log = []) :
    os.flatMap (·.log) = [] ∧ os.flatMap (·.written) = [] := by
  refine ⟨List.flatMap_eq_nil_iff.2 h, List.flatMap_eq_nil_iff.2 fun o ho => ?_⟩
  unfold Outcome.written
  rw [h o ho]
  cases o.active with
  | none => rfl
  | some t => rfl

/-- **Of the two records of the start, both are written or none**, as the level has it. -/
theorem passing_startRecords (t : Target) :
    t.passing t.startRecords
      = if t.level = .warn ∨ t.level = .error then [] else t.startRecords := by
  obtain ⟨level, directory⟩ := t
  cases level <;> rfl

/-! ## §4. The set-up of a run. -/

/-- **The first success decides.**  Its target stays whatever is called later, and over the whole run the
records of the start are reported once. -/
theorem after_of_first {before : List (Moment σ)} {first : Moment σ} (later : List (Moment σ))
    (hbefore : after start none before = none)
    (hfirst : (first.outcome start none).value = .ok true) :
    ∃ t, first.call.Asks t ∧ after start none (before ++ first :: later) = some t ∧
      reported start none (before ++ first :: later) = t.startRecords ∧
      written start none (before ++ first :: later) = t.passing t.startRecords := by
  rcases outcome_none_cases start first with ⟨t, s', hasks, hok⟩ | ⟨hvalue, -⟩
  · obtain ⟨hstays, hquiet⟩ := after_of_active start later t
    obtain ⟨hreported, hwritten⟩ := flatMap_of_quiet (log_of_after_eq_none hbefore)
    obtain ⟨hreported', hwritten'⟩ := flatMap_of_quiet hquiet
    refine ⟨t, hasks, ?_, ?_, ?_⟩
    · rw [after_append, hbefore, after, hok, hstays]
    · rw [reported, outcomes_append, hbefore, outcomes, hok, List.flatMap_append,
        List.flatMap_cons, hreported, hreported', List.nil_append, List.append_nil]
    · rw [written, outcomes_append, hbefore, outcomes, hok, List.flatMap_append,
        List.flatMap_cons, hwritten, hwritten', List.nil_append, List.append_nil]
      rfl
  · exact absurd hfirst hvalue

/-- **Setting logging up**, by any calls in any surroundings.  A call without a directory answers so and
one that asks for nothing proper fails, both without a change.  As long as no call has succeeded
logging is not set up, nothing is written, and a call succeeds exactly if its start does.  The first
success fixes the target for good; over the whole run its two records are reported once, and they are
written unless its level holds them back.  Afterwards a call changes nothing and succeeds exactly if it
asks for the same level and a directory of the same components; another directory is reported before
another level. -/
theorem set_up_once (start : Start σ) (ms : List (Moment σ)) (m : Moment σ) :
    let active := after start none ms
    let o := m.outcome start active
    (m.call.Idle → o = .unchanged active m.surroundings (.ok false)) ∧
    (¬ m.call.Idle → (∀ t, ¬ m.call.Asks t) →
      ∃ e, o = .unchanged active m.surroundings (.error e)) ∧
    (active = none ↔ ∀ o' ∈ outcomes start none ms, o'.value ≠ .ok true) ∧
    (active = none → reported start none ms = [] ∧ written start none ms = []) ∧
    (∀ t s', active = none → m.call.Asks t → start t m.surroundings = (.ok (), s') →
      o = { value := .ok true, active := some t, surroundings := s', log := t.startRecords }) ∧
    (∀ t s' fault, active = none → m.call.Asks t → start t m.surroundings = (.error fault, s') →
      o = .unchanged none s' (.error (.startFailed t.directory fault))) ∧
    (∀ before first later, ms = before ++ first :: later → after start none before = none →
      (first.outcome start none).value = .ok true → ∃ t, first.call.Asks t ∧ active = some t ∧
        reported start none ms = t.startRecords ∧
        written start none ms
          = if t.level = .warn ∨ t.level = .error then [] else t.startRecords) ∧
    (∀ a t, active = some a → m.call.Asks t →
      o.active = active ∧ o.surroundings = m.surroundings ∧ o.log = [] ∧
      (o.value = .ok true ↔
        a.level = t.level ∧ Path.components a.directory.path = Path.components t.directory.path) ∧
      (Path.components a.directory.path ≠ Path.components t.directory.path →
        o.value = .error (.directoryFixed a.directory t.directory)) ∧
      (Path.components a.directory.path = Path.components t.directory.path → a.level ≠ t.level →
        o.value = .error (.levelFixed a.level t.level))) := by
  refine ⟨perform_of_idle, perform_of_improper start _ _, after_eq_none_iff,
    fun hnone => flatMap_of_quiet (log_of_after_eq_none hnone), ?_, ?_, ?_, ?_⟩
  · intro t s' hnone hasks hstart
    rw [hnone, Moment.outcome, perform_of_inactive hasks, hstart]
  · intro t s' fault hnone hasks hstart
    rw [hnone, Moment.outcome, perform_of_inactive hasks, hstart]
  · intro before first later hms hbefore hfirst
    obtain ⟨t, hasks, hafter, hreported, hwritten⟩ := after_of_first later hbefore hfirst
    rw [hms, hwritten, passing_startRecords]
    exact ⟨t, hasks, hafter, hreported, rfl⟩
  · intro a t hactive hasks
    rw [hactive, Moment.outcome, perform_of_active hasks, agree_eq]
    refine ⟨rfl, rfl, rfl, ?_, ?_, ?_⟩
    · by_cases hdirectory :
          Path.components a.directory.path = Path.components t.directory.path
      · by_cases hlevel : a.level = t.level
        · rw [if_neg (not_not_intro hdirectory), if_neg (not_not_intro hlevel)]
          exact ⟨fun _ => ⟨hlevel, hdirectory⟩, fun _ => rfl⟩
        · rw [if_neg (not_not_intro hdirectory), if_pos hlevel]
          exact ⟨nofun, fun h => absurd h.1 hlevel⟩
      · rw [if_pos hdirectory]
        exact ⟨nofun, fun h => absurd h.2 hdirectory⟩
    · intro hdirectory
      rw [if_pos hdirectory]
      rfl
    · intro hdirectory hlevel
      rw [if_neg (not_not_intro hdirectory), if_pos hlevel]
      rfl

/-- A start that fails as often as the surroundings say. -/
def reluctant : Start Nat
  | _, 0 => (.ok (), 0)
  | _, n + 1 => (.error (.directory "No space left on device (os error 28)"), n)

/-- A bad level, a relative directory, no directory, a start that fails, and a success. -/
def attempts : List (Moment Nat) :=
  [⟨0, .direct "loud" "/log"⟩, ⟨0, .direct "info" "log"⟩, ⟨0, .configured "info" none⟩,
   ⟨1, .direct "debug" "/log"⟩, ⟨0, .configured " INFO" (some (.text "/var//log "))⟩]

/-- The last attempt succeeds, and its target is kept against a later call for another directory and
another level. -/
theorem set_up_once_attempts :
    written reluctant none attempts = Target.startRecords ⟨.info, ⟨"/var//log"⟩⟩ ∧
    (Moment.outcome reluctant (after reluctant none attempts)
      ⟨5, .direct "Info" "/var/./log/"⟩).value = .ok true ∧
    (Moment.outcome reluctant (after reluctant none attempts) ⟨0, .direct "warning" "/tmp"⟩).value
      = .error (.directoryFixed ⟨"/var//log"⟩ ⟨"/tmp"⟩) := by
  have hactive : after reluctant none attempts = some ⟨.info, ⟨"/var//log"⟩⟩ := by rfl
  obtain ⟨-, -, -, -, -, -, hfirst, hsame⟩ :=
    set_up_once reluctant attempts ⟨5, .direct "Info" "/var/./log/"⟩
  obtain ⟨-, -, -, -, -, -, -, hother⟩ :=
    set_up_once reluctant attempts ⟨0, .direct "warning" "/tmp"⟩
  refine ⟨?_, ?_, ?_⟩
  · obtain ⟨t, -, hafter, -, hwritten⟩ := hfirst (attempts.take 4)
      ⟨0, .configured " INFO" (some (.text "/var//log "))⟩ [] (by rfl) (by rfl) (by rfl)
    cases hactive.symm.trans hafter
    exact hwritten
  · obtain ⟨-, -, -, hvalue, -⟩ := hsame _ ⟨.info, ⟨"/var/./log/"⟩⟩ hactive
      (.direct ⟨by decide, by rfl, by rfl⟩)
    exact hvalue.2 ⟨rfl, by decide⟩
  · obtain ⟨-, -, -, -, hdirectory, -⟩ := hother _ ⟨.warn, ⟨"/tmp"⟩⟩ hactive
      (.direct ⟨by decide, by rfl, by rfl⟩)
    exact hdirectory (by decide)

/-! ## §5. The files of a session. -/

/-- **A session appends what an outcome writes** to the log of the target. -/
theorem Session.settle_files {α : Type} (o : Outcome FileTree α) :
    (settle o).2.files = match o.active with
      | none => o.surroundings
      | some t =>
        o.surroundings.appendLines t.directory.path currentLog (o.written.map (·.line)) := by
  obtain ⟨value, active, files, log⟩ := o
  cases active <;> rfl

/-- **A start can go unwritten.**  The first success with level `error` fixes its target and reports the
two records of the start, and not even the log file appears. -/
theorem start_goes_unwritten :
    let p := (Session.fresh .root).init "error" "/log"
    p.1 = .ok () ∧ p.2.active = some ⟨.error, ⟨"/log"⟩⟩ ∧
      (init Session.start none .root "error" "/log").log = Target.startRecords ⟨.error, ⟨"/log"⟩⟩ ∧
      p.2.lines? "/log" = none := by
  refine ⟨by rfl, by rfl, by rfl, by rfl⟩

end Logging

end Namebook
