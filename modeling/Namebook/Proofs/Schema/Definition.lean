/-
  Namebook.Proofs.Schema.Definition
  ─────────────────────────────────
  **DEFINITIONS ONLY ADD — what is there stays, what is missing is made.**

  A definition is taken or refused; a definition that is taken adds its object if no object has its
  slot, and nothing otherwise.  Definitions with slots of their own do not interfere, so a list of them
  adds exactly those objects that were missing at the start:

    • `Catalog.define_eq_ok_iff` — one definition;
    • `Catalog.defineAll_eq_ok_iff` — a list of them;
    • `Catalog.has_completed` — afterwards every slot is filled.
-/
import Namebook.Schema.Definition

namespace Namebook.Schema

/-! ## §1. Slots. -/

theorem sameName_iff {a b : String} : sameName a b = true ↔ folded a = folded b :=
  decide_eq_true_iff

theorem sameName_self (a : String) : sameName a a = true := sameName_iff.2 rfl

namespace Definition

/-- Whether two definitions are about the same object: one of the same kind and name. -/
def sameSlot : Definition → Definition → Bool
  | table n _, table m _ => sameName n m
  | index i, index j => sameName i.name j.name
  | trigger t, trigger u => sameName t.name u.name
  | _, _ => false

theorem sameSlot_self (d : Definition) : d.sameSlot d = true := by
  cases d with
  | table n _ => exact sameName_self n
  | index i => exact sameName_self i.name
  | trigger t => exact sameName_self t.name

/-- The table that a definition makes. -/
def table? : Definition → Option Table
  | table name columns => some { name, columns, rows := [] }
  | _ => none

/-- The index that a definition makes. -/
def index? : Definition → Option Index
  | index i => some i
  | _ => none

/-- The trigger that a definition makes. -/
def trigger? : Definition → Option Trigger
  | trigger t => some t
  | _ => none

theorem table?_eq_some_iff {d : Definition} {t : Table} :
    d.table? = some t ↔ d = .table t.name t.columns ∧ t.rows = [] := by
  constructor
  · intro h
    cases d with
    | table name columns =>
      cases h
      exact ⟨rfl, rfl⟩
    | index i => cases h
    | trigger u => cases h
  · intro ⟨h, hrows⟩
    subst h
    show some { name := t.name, columns := t.columns, rows := [] } = some t
    rw [← hrows]

theorem index?_eq_some_iff {d : Definition} {i : Index} : d.index? = some i ↔ d = .index i := by
  cases d <;> simp [index?]

theorem trigger?_eq_some_iff {d : Definition} {t : Trigger} :
    d.trigger? = some t ↔ d = .trigger t := by
  cases d <;> simp [trigger?]

end Definition

namespace Catalog

variable {c c' : Catalog} {d : Definition} {ds : List Definition}

/-! ## §2. One definition. -/

/-- Whether the slot of a definition is filled.  A view fills the slot of a table of its name. -/
def has (c : Catalog) : Definition → Bool
  | .table name _ => c.hasRelation name
  | .index i => c.hasIndex i.name
  | .trigger t => c.hasTrigger t.name

/-- The store with the object of a definition. -/
def add (c : Catalog) : Definition → Catalog
  | .table name columns => { c with tables := c.tables ++ [{ name, columns, rows := [] }] }
  | .index i => { c with indexes := c.indexes ++ [i] }
  | .trigger t => { c with triggers := c.triggers ++ [t] }

/-- **What a store must be like to take a definition.**  A new table needs a name that no index has; an
index needs a table, a name that no table or view has, and, where it is new, columns and rows that fit;
a new trigger needs a table that is no view. -/
def Takes (c : Catalog) : Definition → Prop
  | .table name _ => c.hasRelation name = true ∨ c.hasIndex name = false
  | .index i =>
    ∃ t, c.table? i.table = some t ∧ c.hasRelation i.name = false ∧
      (c.hasIndex i.name = true ∨
        (∀ column ∈ i.columns, t.hasColumn column = true) ∧ t.satisfies i = true)
  | .trigger t =>
    c.hasRelation t.table = true ∧ (c.hasTrigger t.name = true ∨ c.hasView t.table = false)

/-- The store once a definition was taken. -/
def made (c : Catalog) (d : Definition) : Catalog := if c.has d then c else c.add d

theorem made_of_has (h : c.has d = true) : c.made d = c := if_pos h

theorem made_of_missing (h : c.has d = false) : c.made d = c.add d :=
  if_neg (by rw [h]; exact Bool.false_ne_true)

/-- A definition that is accepted. -/
theorem accepted {w : Catalog} (htakes : c.Takes d) (hmade : c.made d = w) :
    (.ok w : Except EngineError Catalog) = .ok c' ↔ c.Takes d ∧ c' = c.made d := by
  rw [hmade, Except.ok.injEq, eq_comm]
  exact (and_iff_right htakes).symm

/-- A definition that is refused. -/
theorem refused {e : EngineError} (hrefuses : ¬ c.Takes d) :
    (.error e : Except EngineError Catalog) = .ok c' ↔ c.Takes d ∧ c' = c.made d := by
  constructor
  · intro h
    cases h
  · intro h
    exact absurd h.1 hrefuses

theorem defineTable_eq_ok_iff {name : String} {columns : List Column} :
    c.defineTable name columns = .ok c' ↔
      c.Takes (.table name columns) ∧ c' = c.made (.table name columns) := by
  unfold defineTable
  by_cases hrelation : c.hasRelation name = true
  · rw [if_pos hrelation]
    exact accepted (Or.inl hrelation) (made_of_has hrelation)
  rw [if_neg hrelation]
  by_cases hindex : c.hasIndex name = true
  · rw [if_pos hindex]
    refine refused fun htakes => ?_
    rcases htakes with h | h
    · exact hrelation h
    · exact absurd (h.symm.trans hindex) Bool.false_ne_true
  · rw [if_neg hindex]
    exact accepted (Or.inr (Bool.not_eq_true _ ▸ hindex))
      (made_of_missing (Bool.not_eq_true _ ▸ hrelation))

/-- What a new index asks of the columns of its table. -/
theorem find?_missing_eq_none_iff {t : Table} {columns : List String} :
    columns.find? (!t.hasColumn ·) = none ↔ ∀ column ∈ columns, t.hasColumn column = true := by
  rw [List.find?_eq_none]
  simp

theorem defineIndex_eq_ok_iff {i : Index} :
    c.defineIndex i = .ok c' ↔ c.Takes (.index i) ∧ c' = c.made (.index i) := by
  unfold defineIndex
  cases htable : c.table? i.table with
  | none =>
    have hrefuses : ¬ c.Takes (.index i) := by
      intro ⟨t, ht, _⟩
      rw [htable] at ht
      cases ht
    dsimp only
    split
    · exact refused hrefuses
    · exact refused hrefuses
  | some t =>
    -- whatever the definition asks of its table it asks of this one
    have hthe : ∀ {t'}, c.table? i.table = some t' → t' = t := fun h =>
      Option.some.inj (h.symm.trans htable)
    dsimp only
    by_cases hrelation : c.hasRelation i.name = true
    · rw [if_pos hrelation]
      refine refused fun ⟨_, _, h, _⟩ => ?_
      exact absurd (h.symm.trans hrelation) Bool.false_ne_true
    rw [if_neg hrelation]
    have hname : c.hasRelation i.name = false := Bool.not_eq_true _ ▸ hrelation
    by_cases hindex : c.hasIndex i.name = true
    · rw [if_pos hindex]
      exact accepted ⟨t, htable, hname, Or.inl hindex⟩ (made_of_has hindex)
    rw [if_neg hindex]
    cases hcolumn : i.columns.find? (!t.hasColumn ·) with
    | some column =>
      refine refused fun ⟨t', ht', _, hfits⟩ => ?_
      obtain rfl := hthe ht'
      have hcolumns := find?_missing_eq_none_iff.2 (hfits.resolve_left hindex).1
      rw [hcolumn] at hcolumns
      cases hcolumns
    | none =>
      dsimp only
      by_cases hrows : t.satisfies i = true
      · rw [if_pos hrows]
        exact accepted ⟨t, htable, hname, Or.inr ⟨find?_missing_eq_none_iff.1 hcolumn, hrows⟩⟩
          (made_of_missing (Bool.not_eq_true _ ▸ hindex))
      · rw [if_neg hrows]
        refine refused fun ⟨t', ht', _, hfits⟩ => ?_
        obtain rfl := hthe ht'
        exact hrows (hfits.resolve_left hindex).2

theorem defineTrigger_eq_ok_iff {t : Trigger} :
    c.defineTrigger t = .ok c' ↔ c.Takes (.trigger t) ∧ c' = c.made (.trigger t) := by
  unfold defineTrigger
  by_cases hrelation : c.hasRelation t.table = true
  · rw [hrelation, Bool.not_true, if_neg Bool.false_ne_true]
    by_cases htrigger : c.hasTrigger t.name = true
    · rw [if_pos htrigger]
      exact accepted ⟨hrelation, Or.inl htrigger⟩ (made_of_has htrigger)
    rw [if_neg htrigger]
    by_cases hview : c.hasView t.table = true
    · rw [if_pos hview]
      refine refused fun ⟨_, h⟩ => ?_
      rcases h with h | h
      · exact htrigger h
      · exact absurd (h.symm.trans hview) Bool.false_ne_true
    · rw [if_neg hview]
      exact accepted ⟨hrelation, Or.inr (Bool.not_eq_true _ ▸ hview)⟩
        (made_of_missing (Bool.not_eq_true _ ▸ htrigger))
  · rw [Bool.not_eq_true] at hrelation
    rw [hrelation, Bool.not_false, if_pos rfl]
    refine refused fun ⟨h, _⟩ => ?_
    exact absurd (hrelation.symm.trans h) Bool.false_ne_true

/-- **A definition is taken or refused; taken, it adds what is missing.** -/
theorem define_eq_ok_iff : c.define d = .ok c' ↔ c.Takes d ∧ c' = c.made d := by
  cases d with
  | table name columns => exact defineTable_eq_ok_iff
  | index i => exact defineIndex_eq_ok_iff
  | trigger t => exact defineTrigger_eq_ok_iff

/-! ## §3. Which slots are filled. -/

theorem hasRelation_add (c : Catalog) (d : Definition) (name : String) :
    (c.add d).hasRelation name = (c.hasRelation name || d.sameSlot (.table name [])) := by
  cases d with
  | table n columns =>
    have htable : ((c.add (.table n columns)).table? name).isSome
        = ((c.table? name).isSome || sameName n name) := by
      unfold table? add
      rw [List.find?_append, Option.isSome_or, List.find?_singleton]
      cases sameName n name <;> rfl
    unfold hasRelation
    rw [htable, Bool.or_assoc, Bool.or_comm (sameName n name), ← Bool.or_assoc]
    rfl
  | index i => exact (Bool.or_false _).symm
  | trigger t => exact (Bool.or_false _).symm

/-- An object fills its own slot and no other. -/
theorem has_add (c : Catalog) (d e : Definition) : (c.add d).has e = (c.has e || d.sameSlot e) := by
  cases e with
  | table name columns =>
    rw [has, has, hasRelation_add]
    cases d <;> rfl
  | index j =>
    cases d with
    | index i => exact List.any_append.trans (by simp [has, hasIndex, Definition.sameSlot])
    | table n columns => exact (Bool.or_false _).symm
    | trigger t => exact (Bool.or_false _).symm
  | trigger u =>
    cases d with
    | trigger t => exact List.any_append.trans (by simp [has, hasTrigger, Definition.sameSlot])
    | table n columns => exact (Bool.or_false _).symm
    | index i => exact (Bool.or_false _).symm

theorem has_foldl_add (ds : List Definition) (c : Catalog) (e : Definition) :
    (ds.foldl add c).has e = (c.has e || ds.any (·.sameSlot e)) := by
  induction ds generalizing c with
  | nil => exact (Bool.or_false _).symm
  | cons d ds ih => rw [List.foldl_cons, ih, has_add, List.any_cons, Bool.or_assoc]

/-- The store with the objects of some definitions. -/
theorem foldl_add (ds : List Definition) (c : Catalog) :
    ds.foldl add c = { c with
      tables := c.tables ++ ds.filterMap Definition.table?
      indexes := c.indexes ++ ds.filterMap Definition.index?
      triggers := c.triggers ++ ds.filterMap Definition.trigger? } := by
  induction ds generalizing c with
  | nil => simp
  | cons d ds ih =>
    rw [List.foldl_cons, ih]
    cases d <;> simp [add, List.filterMap_cons, Definition.table?, Definition.index?,
      Definition.trigger?]

/-! ## §4. A list of definitions. -/

/-- **The store with the objects that are missing.** -/
def completed (c : Catalog) (ds : List Definition) : Catalog :=
  (ds.filter (!c.has ·)).foldl add c

/-- Each definition is taken by what those before it have made of the store. -/
def TakesAll (c : Catalog) (ds : List Definition) : Prop :=
  ∀ before d after, ds = before ++ d :: after → (c.completed before).Takes d

/-- Every slot that is filled by one of the definitions is filled afterwards. -/
theorem has_completed (h : d ∈ ds) : (c.completed ds).has d = true := by
  unfold completed
  rw [has_foldl_add]
  cases hthere : c.has d with
  | true => rfl
  | false =>
    have hmem : d ∈ ds.filter (!c.has ·) := List.mem_filter.2 ⟨h, by rw [hthere]; rfl⟩
    rw [Bool.false_or]
    exact List.any_eq_true.2 ⟨d, hmem, d.sameSlot_self⟩

/-- The definitions do not share slots. -/
abbrev SlotsApart (ds : List Definition) : Prop :=
  ds.Pairwise fun d e => d.sameSlot e = false

/-- What is made first does not count for definitions with other slots. -/
theorem completed_cons (h : ∀ e ∈ ds, d.sameSlot e = false) :
    c.completed (d :: ds) = (c.made d).completed ds := by
  have hsame : ds.filter (!(c.add d).has ·) = ds.filter (!c.has ·) := by
    apply List.filter_congr
    intro e he
    rw [has_add, h e he, Bool.or_false]
  unfold completed made
  cases hthere : c.has d with
  | true => rw [List.filter_cons_of_neg (by rw [hthere]; decide), if_pos rfl]
  | false =>
    rw [List.filter_cons_of_pos (by rw [hthere]; rfl), if_neg Bool.false_ne_true, hsame]
    rfl

/-- The first definition comes first. -/
theorem takesAll_cons_iff (h : SlotsApart (d :: ds)) :
    c.TakesAll (d :: ds) ↔ c.Takes d ∧ (c.made d).TakesAll ds := by
  have hfirst : ∀ {before e after}, ds = before ++ e :: after →
      c.completed (d :: before) = (c.made d).completed before := by
    intro before e after hsplit
    refine completed_cons fun x hx => ?_
    exact (List.pairwise_cons.1 h).1 x (hsplit ▸ List.mem_append_left _ hx)
  constructor
  · intro hall
    refine ⟨hall [] d ds rfl, ?_⟩
    intro before e after hsplit
    rw [← hfirst hsplit]
    exact hall (d :: before) e after (by rw [hsplit]; rfl)
  · intro ⟨hd, hall⟩ before e after hsplit
    cases before with
    | nil =>
      obtain ⟨rfl, rfl⟩ := List.cons.inj hsplit
      exact hd
    | cons d' before =>
      obtain ⟨rfl, hrest⟩ := List.cons.inj hsplit
      rw [hfirst hrest]
      exact hall before e after hrest

/-- **Definitions with slots of their own add exactly what was missing at the start.** -/
theorem defineAll_eq_ok_iff (h : SlotsApart ds) :
    c.defineAll ds = .ok c' ↔ c.TakesAll ds ∧ c' = c.completed ds := by
  induction ds generalizing c with
  | nil =>
    constructor
    · intro hdone
      cases hdone
      exact ⟨fun before d after hsplit => by simp at hsplit, rfl⟩
    · intro ⟨_, hdone⟩
      rw [hdone]
      rfl
  | cons d ds ih =>
    have hrest : SlotsApart ds := (List.pairwise_cons.1 h).2
    rw [takesAll_cons_iff h, completed_cons (List.pairwise_cons.1 h).1]
    show (do (← c.define d).defineAll ds) = _ ↔ _
    cases hdefine : c.define d with
    | error e =>
      constructor
      · intro hdone
        cases hdone
      · intro ⟨⟨hd, _⟩, _⟩
        have htaken := define_eq_ok_iff.2 ⟨hd, rfl⟩
        rw [hdefine] at htaken
        cases htaken
    | ok w =>
      obtain ⟨hd, rfl⟩ := define_eq_ok_iff.1 hdefine
      show (c.made d).defineAll ds = _ ↔ _
      rw [ih hrest, and_assoc]
      exact (and_iff_right hd).symm

end Catalog

end Namebook.Schema
