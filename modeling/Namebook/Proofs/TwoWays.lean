/-
  Namebook.Proofs.TwoWays
  ───────────────────────
  **TWO WAYS TO A DOCUMENT WITH AN ALIAS.**

  A document can be created with its first alias, or without one and given the alias next.  The two
  services check the name in ways of their own, and one is told position and flag that the other
  derives.  The ways agree nevertheless, as long as no draw spells the alias:

    • `Tables.aliasAdded_created` — the tables that the second way leaves;
    • `ways_to_alias_agree` — one succeeds if the other does, they leave the same store but for the
      version, the times and the alias id, and they refuse a name for the same reason.
-/
import Namebook.Proofs.Drawing
import Namebook.Proofs.Change

namespace Namebook

/-! ## §1. A new document. -/

namespace Tables

variable {t : Tables} {bare fresh : Fresh} {p n : String} {reserved : ReservedNames}

/-- The tables with a new document and its only alias. -/
def withNamed (t : Tables) (row : DocumentRow) (id : Uuid) (n : String) : Tables :=
  (t.withDocument row).withAlias ⟨id.render, n, row.publicId, 1, 0⟩

theorem alias?_created_none (t : Tables) (bare : Fresh) (p n : String) :
    (t.created bare p none).alias? n = t.alias? n := by
  rw [created_none]
  rfl

theorem aliasesOf_created_none (t : Tables) (bare : Fresh) (p q : String) :
    (t.created bare p none).aliasesOf q = t.aliasesOf q := by
  rw [created_none]
  rfl

/-- No other document is found for a new one. -/
theorem document?_created_of_ne (hne : p ≠ n) (t : Tables) (bare : Fresh) :
    (t.created bare p none).document? n = t.document? n := by
  have hother : (p == n) = false := beq_eq_false_iff_ne.2 hne
  show (t.documents ++ [(⟨p, 0, bare.now, bare.now⟩ : DocumentRow)]).find? (·.publicId == n) = _
  rw [List.find?_append, List.find?_singleton, hother]
  exact Option.or_none

/-- **A new document changes no verdict** but that on its own id. -/
theorem check_created (reserved : ReservedNames) (h : t.Indexed)
    (h' : (t.created bare p none).Indexed) (hne : p ≠ n) :
    (t.created bare p none).book.check reserved n = t.book.check reserved n := by
  rw [Database.check_book h', Database.check_book h, alias?_created_none,
    document?_created_of_ne hne]

/-- Counting a change of a new document shows in its row alone. -/
theorem touched_withDocument (row : DocumentRow) (hnew : ∀ e ∈ t.documents, e.publicId ≠ row.publicId)
    (now version : Int64) :
    (t.withDocument row).touched row.publicId now version
      = t.withDocument (counted row now version) := by
  have hold : (t.documents.map fun e => if e.publicId == row.publicId then counted e now version
      else e) = t.documents := by
    refine (List.map_congr_left fun e he => ?_).trans (List.map_id _)
    rw [if_neg fun heq => hnew e he (beq_iff_eq.1 heq)]
    rfl
  have hdocuments : ((t.withDocument row).touched row.publicId now version).documents
      = t.documents ++ [counted row now version] := by
    show ((t.documents ++ [row]).map fun e => if e.publicId == row.publicId then
      counted e now version else e) = _
    rw [List.map_append, hold, List.map_singleton, if_pos (beq_self_eq_true _)]
  exact congrArg (fun documents => ({ t.withDocument row with documents } : Tables)) hdocuments

/-- **What the second way leaves**: the document with its version counted up, and its alias as the
first way writes it. -/
theorem aliasAdded_created (hnew : ∀ e ∈ t.documents, e.publicId ≠ p) (hnothing : t.aliasesOf p = []) :
    (t.created bare p none).aliasAdded fresh p n 0 1
      = t.withNamed ⟨p, 1, bare.now, fresh.now⟩ fresh.id n := by
  have hrow : (t.withDocument ⟨p, 0, bare.now, bare.now⟩).newAlias fresh p n 0
      = ⟨fresh.id.render, n, p, 1, 0⟩ := by
    have hfirst : ((t.withDocument ⟨p, 0, bare.now, bare.now⟩).aliasesOf p).isEmpty = true :=
      List.isEmpty_iff.2 hnothing
    unfold newAlias
    rw [hfirst]
    rfl
  rw [created_none]
  unfold aliasAdded
  rw [hrow]
  show ((t.withDocument ⟨p, 0, bare.now, bare.now⟩).touched p fresh.now 1).withAlias _ = _
  rw [touched_withDocument ⟨p, 0, bare.now, bare.now⟩ hnew]
  rfl

/-- **The first alias of a new document is granted.** -/
theorem Identity.runOn_createAlias_created (h : t.Identity) (hvacant : t.Vacant none p)
    (hnamed : Text.isBlank p = false) (hne : p ≠ n) (hfree : ∀ m ∈ t.names, m.name ≠ n)
    (hfresh : ∀ a ∈ t.aliases, a.id ≠ fresh.id.render) :
    (Work.createAlias fresh p n).runOn (t.created bare p none)
      = (.ok { publicId := p
               aliases := [{ id := fresh.id, name := n, primary := true, document := p }]
               version := 1
               createdAt := bare.now
               updatedAt := fresh.now },
          t.withNamed ⟨p, 1, bare.now, fresh.now⟩ fresh.id n) := by
  have hnew := (h.unclaimed_iff.1 hvacant.unclaimed).1
  have hnothing := h.toIndexed.aliasesOf_of_missing hnew
  have hcreated : (t.created bare p none).Identity :=
    h.created hvacant hnamed (fun m hm => by cases hm) fun hsome => absurd rfl hsome
  have hrow : (t.created bare p none).document? p = some ⟨p, 0, bare.now, bare.now⟩ :=
    hcreated.document?_eq_some_iff.2 ⟨List.mem_append_right _ (List.mem_singleton.2 rfl), rfl⟩
  have hunclaimed : ∀ m ∈ (t.created bare p none).names, m.name ≠ n := by
    intro m hm
    rcases List.mem_append.1 hm with hm | hm
    · exact hfree m hm
    · rw [List.mem_singleton.1 hm]
      exact hne
  have hids : ∀ a ∈ (t.created bare p none).aliases, a.id ≠ fresh.id.render := by
    rw [created_none]
    exact hfresh
  have hposition : Rows.nextPosition (t.created bare p none) p = .ok 0 := by
    unfold Rows.nextPosition
    rw [aliasesOf_created_none, hnothing]
    rfl
  have hrun := hcreated.runOn_createAlias hrow hunclaimed hids hposition
    (show (1 : Int64).toInt = (0 : Int64).toInt + 1 by decide)
  have haliases : (t.withNamed ⟨p, 1, bare.now, fresh.now⟩ fresh.id n).aliasesOf p
      = [⟨fresh.id.render, n, p, 1, 0⟩] := by
    have hown : [(⟨fresh.id.render, n, p, 1, 0⟩ : AliasRow)].filter (·.document == p)
        = [⟨fresh.id.render, n, p, 1, 0⟩] := by simp
    unfold withNamed
    rw [aliasesOf_withAlias, hown]
    show t.aliasesOf p ++ _ = _
    rw [hnothing, List.nil_append]
  rw [hrun, aliasAdded_created hnew hnothing]
  refine congrArg (fun d : Document => (Except.ok d, _)) ?_
  exact documentOf_of_sole ⟨p, 1, bare.now, fresh.now⟩ haliases

end Tables

/-! ## §2. Two calls. -/

namespace Database

open Tables DocumentService

variable {db : Database} {c : Connection} {supply : Supply} {reserved : ReservedNames} {p n : String}
  {d : Document}

/-- An id that is not the name of the alias is vacant with it if it is vacant without it. -/
theorem vacant_some_iff {t : Tables} (hapart : p ≠ n) : t.Vacant (some n) p ↔ t.Vacant none p :=
  ⟨fun h => ⟨h.unclaimed, fun heq => by cases heq⟩,
    fun h => ⟨h.unclaimed, fun heq => hapart (Option.some.inj heq).symm⟩⟩

/-- A new document, with its alias added to it afterwards. -/
def completed (bare fresh : Fresh) (p n : String) : Document :=
  { Document.created fresh p (some n) with version := 1, createdAt := bare.now }

/-- Adding the alias to the new document: the check is that of the tables before it. -/
theorem Idle.call_add_created (h : db.Idle) (hid : db.committed.Identity) (bare : Fresh)
    (hvacant : db.committed.Vacant none p) (hnamed : Text.isBlank p = false) (hapart : p ≠ n)
    (c : Connection) (supply : Supply) (reserved : ReservedNames)
    (hfresh : ∀ k, ∀ a ∈ db.committed.aliases, a.id ≠ (supply.fresh k).id.render) :
    let t := db.committed
    let fresh := supply.fresh 2
    let o := ({ db with committed := t.created bare p none } : Database).call c supply
      (AliasService.add reserved p n)
    (∀ e, t.book.check reserved n = .error e → o.value = .error e) ∧
    (t.book.check reserved n = .ok () → o.value = .ok (completed bare fresh p n) ∧
      o.state = { db with committed := t.withNamed ⟨p, 1, bare.now, fresh.now⟩ fresh.id n }) := by
  intro t fresh o
  have hidle : ({ db with committed := t.created bare p none } : Database).Idle :=
    ⟨h.held, h.readers⟩
  have hcreated : (t.created bare p none).Identity :=
    hid.created hvacant hnamed (fun m hm => by cases hm) fun hsome => absurd rfl hsome
  have hsame := check_created reserved hid.toIndexed hcreated.toIndexed hapart
  constructor
  · intro e hcheck
    exact hidle.call_add_refused hcreated c supply (hsame.trans hcheck)
  · intro hcheck
    have hunclaimed := unclaimed_of_check hid.toIndexed hcheck
    exact hidle.call_add_granted hcreated c (hsame.trans hcheck)
      (hid.runOn_createAlias_created hvacant hnamed hapart hunclaimed (hfresh 2))

/-- What a call of a service gives and leaves. -/
abbrev Gives := Dialogue.Outcome (Except ServiceError Document) Database

/-- **Both ways are refused for one reason, or both are granted.**  The first way is one call, the
second a call that gives a bare document and one that adds the alias to it. -/
inductive WaysAgree (db : Database) (n : String) (whole bare : Gives) (added : Document → Gives) :
    Prop where
  | refused (e : ServiceError) : whole.value = .error e →
      (∀ d : Document, bare.value = .ok d → (added d).value = .error e) →
      WaysAgree db n whole bare added
  | granted (p : String) (f f₁ f₂ : Fresh) : whole.value = .ok (Document.created f p (some n)) →
      whole.state = { db with
        committed := db.committed.withNamed ⟨p, 0, f.now, f.now⟩ f.id n } →
      bare.value = .ok (Document.created f₁ p none) →
      (added (Document.created f₁ p none)).value = .ok (completed f₁ f₂ p n) →
      (added (Document.created f₁ p none)).state = { db with
        committed := db.committed.withNamed ⟨p, 1, f₁.now, f₂.now⟩ f₂.id n } →
      WaysAgree db n whole bare added

variable {supply' supply'' : Supply}

/-- Where a draw is vacant there is a bare document; whether it gets the alias is up to the check, and
so is the first way. -/
theorem Idle.waysAgree_of_vacant (h : db.Idle) (hid : db.committed.Identity)
    (c c' c'' : Connection) (reserved : ReservedNames)
    (hdraws : ∀ k < 3, drawnId supply' k = drawnId supply k)
    (hapart : ∀ k < 3, drawnId supply k ≠ n)
    (hfresh : ∀ k, ∀ a ∈ db.committed.aliases, a.id ≠ (supply.fresh k).id.render)
    (hfresh' : ∀ k, ∀ a ∈ db.committed.aliases, a.id ≠ (supply''.fresh k).id.render) {k : Nat}
    (hk : k < 3) (hvacant : db.committed.Vacant none (drawnId supply k))
    (htaken : ∀ j < k, ¬db.committed.Vacant none (drawnId supply j)) :
    let bare := db.call c' supply' (create reserved none)
    WaysAgree db n (db.call c supply (create reserved (some n))) bare
      fun d => bare.state.call c'' supply'' (AliasService.add reserved d.publicId n) := by
  intro bare
  have hlt : ∀ j < k, j < 3 := fun j hj => Nat.lt_trans hj hk
  obtain ⟨i', hbare⟩ := h.call_create_vacant hid c' supply' reserved none
    (fun m hm => by cases hm) (fun hsome => absurd rfl hsome) hk ((hdraws k hk).symm ▸ hvacant)
    fun j hj => (hdraws j (hlt j hj)).symm ▸ htaken j hj
  rw [hdraws k hk] at hbare
  have hmade : bare.value = .ok (Document.created (supply'.fresh i') (drawnId supply k) none) :=
    congrArg (·.value) hbare
  have hstate : bare.state = { db with
      committed := db.committed.created (supply'.fresh i') (drawnId supply k) none } :=
    congrArg (·.state) hbare
  obtain ⟨hrefused, hgranted⟩ := h.call_add_created hid (supply'.fresh i') hvacant
    (PublicId.isBlank_encode _) (hapart k hk) c'' supply'' reserved hfresh'
  rw [← hstate] at hrefused hgranted
  cases hcheck : db.committed.book.check reserved n with
  | error e =>
    refine .refused e (congrArg (·.value) (h.call_create_refused hid c supply hcheck)) ?_
    intro d hd
    rw [← Except.ok.inj (hmade.symm.trans hd)]
    exact hrefused e hcheck
  | ok =>
    obtain ⟨i, hwhole⟩ := h.call_create_vacant hid c supply reserved (some n)
      (fun m hm => Option.some.inj hm ▸ hcheck) (fun _ => hfresh) hk
      ((vacant_some_iff (hapart k hk)).2 hvacant)
      fun j hj => mt (vacant_some_iff (hapart j (hlt j hj))).1 (htaken j hj)
    obtain ⟨hvalue, hleft⟩ := hgranted hcheck
    refine .granted (drawnId supply k) (supply.fresh i) (supply'.fresh i') (supply''.fresh 2)
      (congrArg (·.value) hwhole) ?_ hmade hvalue hleft
    rw [withNamed, ← created_some]
    exact congrArg (·.state) hwhole

/-- Where no draw is vacant both ways fail, whatever the check says. -/
theorem Idle.waysAgree_of_taken (h : db.Idle) (hid : db.committed.Identity)
    (c c' c'' : Connection) (reserved : ReservedNames)
    (hdraws : ∀ k < 3, drawnId supply' k = drawnId supply k)
    (hapart : ∀ k < 3, drawnId supply k ≠ n)
    (htaken : ∀ j < 3, ¬db.committed.Vacant none (drawnId supply j)) :
    let bare := db.call c' supply' (create reserved none)
    WaysAgree db n (db.call c supply (create reserved (some n))) bare
      fun d => bare.state.call c'' supply'' (AliasService.add reserved d.publicId n) := by
  intro bare
  have hbare : bare.value = .error exhausted :=
    congrArg (·.value) (h.call_create_none hid c' supply' reserved none
      (fun m hm => by cases hm) fun j hj => (hdraws j hj).symm ▸ htaken j hj)
  have hnothing : ∀ (e : ServiceError) (d : Document), bare.value = .ok d →
      (bare.state.call c'' supply'' (AliasService.add reserved d.publicId n)).value = .error e := by
    intro e d hd
    cases hbare.symm.trans hd
  cases hcheck : db.committed.book.check reserved n with
  | error e =>
    exact .refused e (congrArg (·.value) (h.call_create_refused hid c supply hcheck)) (hnothing e)
  | ok =>
    refine .refused exhausted ?_ (hnothing exhausted)
    exact congrArg (·.value) (h.call_create_none hid c supply reserved (some n)
      (fun m hm => Option.some.inj hm ▸ hcheck)
      fun j hj => mt (vacant_some_iff (hapart j hj)).1 (htaken j hj))

/-! ## §3. Every reachable state. -/

/-- **Two ways to a document with an alias agree**, in every state that clients of the library reach,
while no transaction is open: creating it with the alias, and creating it bare from the same draws and
adding the alias, if no draw gives the name of the alias for an id.  The first succeeds exactly if the
second does.  Both leave the store as it was but for the new document and its primary alias at position
0, under the same public id; only its version, its times and the id of the alias differ.  And once the
bare document is there, both refuse the name by the same error. -/
theorem ways_to_alias_agree (events : List Event)
    (hlibrary : ∀ e ∈ events, e.isLibrary = true)
    (hheld : (empty.after events).held = none) (hreaders : (empty.after events).readers = [])
    (c c' c'' : Connection) (reserved : ReservedNames) (supply supply' supply'' : Supply) (n : String)
    (hdraws : ∀ k < 3, supply'.blocks k = supply.blocks k)
    (hapart : ∀ k < 3, drawnId supply k ≠ n)
    (hfresh : ∀ k, ∀ a ∈ (empty.after events).committed.aliases,
      a.id ≠ (supply.fresh k).id.render ∧ a.id ≠ (supply''.fresh k).id.render) :
    let db := empty.after events
    let t := db.committed
    let whole := db.call c supply ((ServiceCall.create (some n)).dialogue reserved)
    let bare := db.call c' supply' ((ServiceCall.create none).dialogue reserved)
    let added := fun d : Document =>
      bare.state.call c'' supply'' ((ServiceCall.add d.publicId n).dialogue reserved)
    ((∃ d : Document, whole.value = .ok d) ↔
      ∃ d d' : Document, bare.value = .ok d ∧ (added d).value = .ok d') ∧
    (∀ d : Document, bare.value = .ok d → ∀ d₁ d₂ : Document,
      whole.value = .ok d₁ → (added d).value = .ok d₂ →
      ∃ f f₁ f₂ : Fresh,
        d₁ = Document.created f d.publicId (some n) ∧ d₂ = completed f₁ f₂ d.publicId n ∧
        whole.state = { db with committed := t.withNamed ⟨d.publicId, 0, f.now, f.now⟩ f.id n } ∧
        (added d).state =
          { db with committed := t.withNamed ⟨d.publicId, 1, f₁.now, f₂.now⟩ f₂.id n }) ∧
    (∀ d : Document, bare.value = .ok d → ∀ e,
      whole.value = .error e ↔ (added d).value = .error e) := by
  intro db t whole bare added
  have hidle : db.Idle := ⟨hheld, hreaders⟩
  have hid : db.committed.Identity := (identity_holds hlibrary).1
  have hsame : ∀ k < 3, drawnId supply' k = drawnId supply k :=
    fun k hk => congrArg PublicId.encode (hdraws k hk)
  have hagree : WaysAgree db n whole bare added := by
    rcases first_vacant_or_none (fun k => t.Vacant none (drawnId supply k)) 3 with
      ⟨k, hk, hvacant, htaken⟩ | htaken
    · exact hidle.waysAgree_of_vacant hid c c' c'' reserved hsame hapart
        (fun k a ha => (hfresh k a ha).1) (fun k a ha => (hfresh k a ha).2) hk hvacant htaken
    · exact hidle.waysAgree_of_taken hid c c' c'' reserved hsame hapart htaken
  cases hagree with
  | refused e hwhole hadded =>
    refine ⟨⟨?_, ?_⟩, ?_, ?_⟩
    · rintro ⟨d, hd⟩
      cases hwhole.symm.trans hd
    · rintro ⟨d, d', hd, hd'⟩
      cases (hadded d hd).symm.trans hd'
    · intro d _ d₁ _ hd₁
      cases hwhole.symm.trans hd₁
    · intro d hd e'
      exact ⟨fun h => (hadded d hd).trans (hwhole.symm.trans h),
        fun h => hwhole.trans ((hadded d hd).symm.trans h)⟩
  | granted p f f₁ f₂ hwhole hleft hbare hadded hleft' =>
    refine ⟨⟨fun _ => ⟨_, _, hbare, hadded⟩, fun _ => ⟨_, hwhole⟩⟩, ?_, ?_⟩
    · intro d hd d₁ d₂ hd₁ hd₂
      obtain rfl := Except.ok.inj (hbare.symm.trans hd)
      exact ⟨f, f₁, f₂, (Except.ok.inj (hwhole.symm.trans hd₁)).symm,
        (Except.ok.inj (hadded.symm.trans hd₂)).symm, hleft, hleft'⟩
    · intro d hd e
      obtain rfl := Except.ok.inj (hbare.symm.trans hd)
      exact ⟨fun h => (by cases hwhole.symm.trans h), fun h => (by cases hadded.symm.trans h)⟩

/-- One document with an alias. -/
def aliasRun : List Event :=
  [.request 1 ⟨⟨1⟩, 5⟩ (.createDocument "d" (some "a"))]

/-- One id at one time, and blocks of zeros. -/
def steadySupply : Supply :=
  { plainSupply with fresh := fun _ => ⟨⟨2⟩, 6⟩ }

/-- A free name is granted on both ways, and a taken one refused for the same reason. -/
theorem ways_to_alias_agree_aliasRun :
    let bare := (empty.after aliasRun).call 2 steadySupply ((ServiceCall.create none).dialogue ⟨[]⟩)
    ∃ d : Document, bare.value = .ok d ∧
      (∃ d' : Document, (bare.state.call 3 steadySupply
        ((ServiceCall.add d.publicId "z").dialogue ⟨[]⟩)).value = .ok d') ∧
      (bare.state.call 3 steadySupply ((ServiceCall.add d.publicId "a").dialogue ⟨[]⟩)).value
        = .error (.alreadyExists "a" .aliasName) := by
  intro bare
  have hid : ∀ a ∈ (empty.after aliasRun).committed.aliases, a.id ≠ (Uuid.mk 2).render := by
    decide +kernel
  have hagree := fun n hapart => ways_to_alias_agree aliasRun (by decide) (by decide +kernel)
    (by decide +kernel) 2 2 3 ⟨[]⟩ steadySupply steadySupply steadySupply n (fun _ _ => rfl) hapart
    fun _ a ha => ⟨hid a ha, hid a ha⟩
  obtain ⟨⟨hgranted, -⟩, -⟩ := hagree "z" (by decide +kernel)
  obtain ⟨-, -, hrefused⟩ := hagree "a" (by decide +kernel)
  obtain ⟨d, d', hd, hd'⟩ := hgranted ⟨_, rfl⟩
  exact ⟨d, hd, ⟨d', hd'⟩, (hrefused d hd _).1 rfl⟩

end Database

end Namebook
