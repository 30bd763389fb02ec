/-
  Namebook.Proofs.Configuration
  ─────────────────────────────
  **CONFIGURATION — four settings, each from a variable of its own.**

  A setting is the default if its variable is missing or blank, and else what the trimmed value reads
  as; nothing else is looked at.  The list of names that are configured is read run by run, so exactly
  the runs of its variable are forbidden:

    • `Setting.Follows` — what a setting depends on;
    • `contains_reservedNames_iff` — which names are reserved;
    • `configuration_follows_variables`.
-/
import Namebook.Config
import Namebook.Proofs.NameList
import Namebook.Proofs.Service.Forbidding
import Namebook.Proofs.Service.Paired

namespace Namebook

namespace CoreConfig

variable {α : Type} {lookup lookup' : String → Option String} {raw : String}

/-! ## §1. One setting. -/

/-- A setting: its variable, its field, and what a value stands for. -/
structure Setting (α : Type) where
  key : String
  field : CoreConfig → α
  read : String → α

/-- The trimmed value of the variable, empty if it is missing. -/
def Setting.value (x : Setting α) (lookup : String → Option String) : String :=
  ((lookup x.key).map Text.trim).getD ""

/-- **What a setting depends on**: a missing and a blank variable give the default, another one what its
trimmed value stands for, and environments with the same trimmed value give the same. -/
structure Setting.Follows (x : Setting α) : Prop where
  missing : ∀ lookup, lookup x.key = none → x.field (ofLookup lookup) = x.field .default
  blank : ∀ lookup raw, lookup x.key = some raw → Text.isBlank raw = true →
    x.field (ofLookup lookup) = x.field .default
  given : ∀ lookup raw, lookup x.key = some raw → Text.isBlank raw = false →
    x.field (ofLookup lookup) = x.read (Text.trim raw)
  own : ∀ lookup lookup', x.value lookup = x.value lookup' →
    x.field (ofLookup lookup) = x.field (ofLookup lookup')

/-- A variable counts if its trimmed value is not empty. -/
theorem setting?_eq (x : Setting α) (lookup : String → Option String) :
    setting? lookup x.key = if x.value lookup = "" then none else some (x.value lookup) := by
  unfold setting? Setting.value
  cases lookup x.key with
  | none => rfl
  | some raw =>
    rw [Option.map_some, Option.getD_some, Option.filter_some]
    by_cases h : Text.trim raw = ""
    · rw [h]
      rfl
    · rw [if_neg h, if_pos (decide_eq_true h)]

/-- A setting that is read off its variable alone. -/
theorem Setting.follows {x : Setting α} (h : ∀ lookup, x.field (ofLookup lookup)
    = ((setting? lookup x.key).map x.read).getD (x.field .default)) : x.Follows := by
  have hempty : ∀ lookup, x.value lookup = "" → x.field (ofLookup lookup) = x.field .default := by
    intro lookup hvalue
    rw [h, setting?_eq, if_pos hvalue]
    rfl
  have hvalue : ∀ {lookup raw}, lookup x.key = some raw → x.value lookup = Text.trim raw := by
    intro lookup raw hkey
    unfold value
    rw [hkey]
    rfl
  refine ⟨fun lookup hkey => hempty lookup ?_, fun lookup raw hkey hblank => hempty lookup ?_,
    fun lookup raw hkey hblank => ?_, fun lookup lookup' hsame => ?_⟩
  · unfold value
    rw [hkey]
    rfl
  · rw [hvalue hkey, Text.trim_eq_empty_iff]
    exact hblank
  · have hne : Text.trim raw ≠ "" := by
      rw [ne_eq, Text.trim_eq_empty_iff, hblank]
      exact Bool.false_ne_true
    rw [h, setting?_eq, hvalue hkey, if_neg hne]
    rfl
  · rw [h, h, setting?_eq, setting?_eq, hsame]

/-! ## §2. The four settings. -/

/-- The file that holds the store. -/
def storeSetting : Setting (Option String) := ⟨dbPathKey, dbPath, some⟩

/-- The level of logging. -/
def levelSetting : Setting String := ⟨logLevelKey, logLevel, id⟩

/-- The directory of the log files. -/
def directorySetting : Setting (Option String) := ⟨logDirKey, logDir, some⟩

/-- The reserved names. -/
def namesSetting : Setting (List String) := ⟨forbiddenNamesKey, forbiddenNames, NameList.parse⟩

theorem follows_storeSetting : storeSetting.Follows := by
  refine Setting.follows fun lookup => ?_
  show setting? lookup dbPathKey = ((setting? lookup dbPathKey).map some).getD none
  cases setting? lookup dbPathKey <;> rfl

theorem follows_levelSetting : levelSetting.Follows := by
  refine Setting.follows fun lookup => ?_
  show (setting? lookup logLevelKey).getD _ = ((setting? lookup logLevelKey).map id).getD _
  cases setting? lookup logLevelKey <;> rfl

theorem follows_directorySetting : directorySetting.Follows := by
  refine Setting.follows fun lookup => ?_
  show setting? lookup logDirKey = ((setting? lookup logDirKey).map some).getD none
  cases setting? lookup logDirKey <;> rfl

theorem follows_namesSetting : namesSetting.Follows :=
  Setting.follows fun _ => rfl

/-! ## §3. The reserved names. -/

/-- A name is one of the runs of a text. -/
def IsRunOf (raw name : String) : Prop :=
  ∃ i j, NameList.IsRun raw.toList i j ∧ name = String.ofList (NameList.slice raw.toList i j)

/-- **Reserved are exactly the runs of the variable**, where it is not blank. -/
theorem contains_reservedNames_iff {name : String} (hkey : lookup forbiddenNamesKey = some raw)
    (hblank : Text.isBlank raw = false) :
    (ofLookup lookup).reservedNames.contains name = true ↔ IsRunOf raw name := by
  have hnames := follows_namesSetting.given lookup raw hkey hblank
  dsimp only [namesSetting] at hnames
  unfold reservedNames IsRunOf
  rw [ReservedNames.contains_ofList, hnames, NameList.parse_trim, NameList.mem_parse_iff]

/-- Runs are never blank, so being reserved is being forbidden. -/
theorem isForbidden_iff {name : String} (hkey : lookup forbiddenNamesKey = some raw)
    (hblank : Text.isBlank raw = false) :
    Call.IsForbidden (ofLookup lookup).reservedNames name ↔ IsRunOf raw name := by
  unfold Call.IsForbidden
  rw [contains_reservedNames_iff hkey hblank]
  constructor
  · intro h
    exact h.2
  · intro h
    exact ⟨(NameList.isName_of_mem_parse (NameList.mem_parse_iff.2 h)).not_blank, h⟩

/-- **Lists of names and configuration.**  The names of a list are the maximal runs of its text from
left to right; so names are recovered whatever separators are written between and around them, and a
parsed list joined with commas is parsed again as it is.  Each of the four settings follows its own
variable.  Where the list of names is not blank, its runs and nothing else are reserved, and whoever
answers, adding an alias and creating a document with one forbid exactly these names. -/
theorem configuration_follows_variables :
    (∀ raw, ∃ spans : List (Nat × Nat), spans.Pairwise (fun p q => p.2 < q.1) ∧
      (∀ i j, (i, j) ∈ spans ↔ NameList.IsRun raw.toList i j) ∧ NameList.parse raw
        = spans.map fun p => String.ofList (NameList.slice raw.toList p.1 p.2)) ∧
    (∀ lead parts, NameList.IsGap lead →
      (∀ p ∈ parts, NameList.IsName p.1 ∧ NameList.IsGap p.2) →
      (∀ p ∈ parts.dropLast, p.2 ≠ "") →
      NameList.parse (NameList.written lead parts) = parts.map Prod.fst) ∧
    (∀ raw, NameList.parse (",".intercalate (NameList.parse raw)) = NameList.parse raw) ∧
    storeSetting.Follows ∧ levelSetting.Follows ∧ directorySetting.Follows ∧
    namesSetting.Follows ∧
    ∀ lookup raw, lookup forbiddenNamesKey = some raw → Text.isBlank raw = false → ∀ name,
      let reserved := (ofLookup lookup).reservedNames
      (reserved.contains name = true ↔ IsRunOf raw name) ∧
      ∀ (σ : Type) (answer : (r : Request) → σ → r.Answer × σ) (blocks : Nat → Block) (s : σ)
        (drawn : Nat) (m : String),
        (∀ p, (Call.outcome answer blocks (AliasService.add reserved p name) s drawn).value
          = .error (.forbiddenName m) ↔ m = name ∧ IsRunOf raw name) ∧
        ((Call.outcome answer blocks (DocumentService.create reserved (some name)) s drawn).value
          = .error (.forbiddenName m) ↔ m = name ∧ IsRunOf raw name) ∧
        (Call.outcome answer blocks (DocumentService.create reserved none) s drawn).value
          ≠ .error (.forbiddenName m) := by
  refine ⟨NameList.parse_eq, fun lead parts => NameList.parse_written, fun raw => ?_,
    follows_storeSetting, follows_levelSetting, follows_directorySetting, follows_namesSetting, ?_⟩
  · exact NameList.parse_intercalate (by decide) (by decide) fun n hn =>
      NameList.isName_of_mem_parse hn
  · intro lookup raw hkey hblank name
    refine ⟨contains_reservedNames_iff hkey hblank, fun σ answer blocks s drawn m => ?_⟩
    rw [← isForbidden_iff hkey hblank]
    refine ⟨fun p => ?_, ?_, fun h => ?_⟩
    · exact Dialogue.ends_transcript answer blocks s drawn
        (AliasService.forbidding_add _ p name) m
    · exact Dialogue.ends_transcript answer blocks s drawn
        (DocumentService.forbidding_create _ name) m
    · exact ((Dialogue.ends_transcript answer blocks s drawn
        (DocumentService.forbidding_create_none _ name) m).1 h).2

/-- An environment with a list of names that is hard to read, and a blank level. -/
def crowded : String → Option String := fun key =>
  if key = forbiddenNamesKey then some "\u3000notes,,\u00a0wiki\t,\n"
  else if key = logLevelKey then some " \t"
  else none

/-- The two names are recovered, the level is the default, and whoever answers, an alias `wiki` is
forbidden and an alias `Wiki` is not. -/
theorem configuration_follows_variables_crowded :
    NameList.parse "\u3000notes,,\u00a0wiki\t,\n" = ["notes", "wiki"] ∧
    (ofLookup crowded).logLevel = defaultLogLevel ∧
    ∀ (answer : (r : Request) → Unit → r.Answer × Unit) (blocks : Nat → Block),
      (Call.outcome answer blocks (AliasService.add (ofLookup crowded).reservedNames "d" "wiki")
        () 0).value = .error (.forbiddenName "wiki") ∧
      (Call.outcome answer blocks (AliasService.add (ofLookup crowded).reservedNames "d" "Wiki")
        () 0).value ≠ .error (.forbiddenName "Wiki") := by
  obtain ⟨-, hwritten, -, -, hlevel, -, -, hforbidden⟩ := configuration_follows_variables
  refine ⟨?_, hlevel.blank crowded " \t" (by decide) (by decide), fun answer blocks => ⟨?_, ?_⟩⟩
  · exact hwritten "\u3000" [("notes", ",,\u00a0"), ("wiki", "\t,\n")] (by decide) (by decide)
      (by decide)
  · obtain ⟨hreserved, hcalls⟩ := hforbidden crowded _ rfl (by decide) "wiki"
    exact ((hcalls Unit answer blocks () 0 "wiki").1 "d").2 ⟨rfl, hreserved.1 (by decide)⟩
  · obtain ⟨hreserved, hcalls⟩ := hforbidden crowded _ rfl (by decide) "Wiki"
    intro hvalue
    exact absurd (hreserved.2 (((hcalls Unit answer blocks () 0 "Wiki").1 "d").1 hvalue).2)
      (by decide)

end CoreConfig

end Namebook
