/-
  Namebook.Proofs.Rejection
  ─────────────────────────
  **IS A REJECTED NAME REALLY IN USE? — what interleaving does to the reason.**

  A call that rejects a name says in which half of the namespace the name is in use.  While other
  clients act between its requests, this is true at some moment of the call, with one exception:

    • `rejection_names_holder` — the name was in the other half when a change was refused for it, and
      went out of use before the look that should tell which half it was;
    • `released_name_is_misnamed` — this happens.
-/
import Namebook.Proofs.Concurrency
import Namebook.Proofs.Refinement
import Namebook.Proofs.Repository.Refusal
import Namebook.Proofs.Service.Grounds

namespace Namebook

/-! ## §1. Between transactions. -/

/-- What clients do in one step: calls, requests, deletions of documents; no transaction stays open. -/
def Event.isAtomic : Event → Bool
  | call _ _ _ _ => true
  | request _ _ _ => true
  | change _ rules ch => ch.isDeletion rules
  | _ => false

theorem Event.isLibrary_of_isAtomic {e : Event} (h : e.isAtomic = true) : e.isLibrary = true := by
  cases e with
  | change c rules ch => exact h
  | _ => rfl

namespace Database

variable {db : Database} {c : Connection} {fresh : Fresh}

theorem Idle.answer (h : db.Idle) (c : Connection) (fresh : Fresh) (r : Request) :
    (db.answer c fresh r).2.Idle := by
  rcases answer_cases db c fresh r with hkeep | ⟨w, d, t, -, -, -, hstate⟩
  · rw [hkeep]
    exact h
  · rw [hstate]
    exact ⟨h.held, h.readers⟩

/-- Who has no transaction open has none to write in. -/
theorem Idle.upgrade_eq (h : db.Idle) (c : Connection) : db.upgrade c = db := by
  unfold upgrade
  rw [h.held, h.readers]
  rfl

theorem Idle.execute (h : db.Idle) (c : Connection) (rules : Rules) (ch : RowChange) :
    (db.execute c rules ch).2.Idle := by
  unfold Database.execute
  rw [h.upgrade_eq]
  unfold executeHeld
  rw [h.held, h.readers]
  dsimp only
  cases db.committed.change rules ch with
  | error e => exact h
  | ok r =>
    dsimp only
    split
    · exact h
    · exact ⟨rfl, rfl⟩

/-- **Such steps open no transaction.** -/
theorem Idle.apply (h : db.Idle) {e : Event} (hatomic : e.isAtomic = true) : (e.apply db).Idle := by
  cases e with
  | call c reserved supply s =>
    rcases call_cases (s.settled_dialogue reserved) (s.proper_dialogue reserved) with
      hkeep | ⟨r, k, -, hstate⟩
    · show Idle (db.call c supply (s.dialogue reserved)).state
      rw [hkeep]
      exact h
    · show Idle (db.call c supply (s.dialogue reserved)).state
      rw [hstate]
      exact h.answer _ _ _
  | request c fresh r => exact h.answer c fresh r
  | change c rules ch => exact h.execute c rules ch
  | _ => cases hatomic

/-! ## §2. What an answer says of the store. -/

variable {n : String} {k : NameKind} {r : Request} {a : r.Answer}

/-- A name that is found is in use. -/
theorem Idle.bears_of_finds (h : db.Idle) (hid : db.committed.Identity) (hfinds : Finds n k r a)
    (hanswer : (db.answer c fresh r).1 = a) : db.committed.Bears n k := by
  cases hfinds with
  | byName =>
    rw [h.answer_findAliasByName hid] at hanswer
    obtain ⟨row, hrow, -⟩ := Option.map_eq_some_iff.1 (Except.ok.inj hanswer)
    obtain ⟨hmem, hname⟩ := Tables.mem_of_alias? hrow
    exact ⟨row, hmem, hname⟩
  | byOwner =>
    rw [h.answer_findByAlias hid] at hanswer
    obtain ⟨row, hrow, -⟩ := Option.bind_eq_some_iff.1 (Except.ok.inj hanswer)
    obtain ⟨hmem, hname⟩ := Tables.mem_of_alias? hrow
    exact ⟨row, hmem, hname⟩
  | byId =>
    rw [h.answer_findByPublicId hid] at hanswer
    obtain ⟨row, hrow, -⟩ := Option.map_eq_some_iff.1 (Except.ok.inj hanswer)
    obtain ⟨hmem, hname⟩ := Tables.mem_of_document? hrow
    exact ⟨row, hmem, hname⟩

/-- A name that is not found is not in use. -/
theorem Idle.not_bears_of_misses (h : db.Idle) (hid : db.committed.Identity)
    (hmisses : Misses n k r a) (hanswer : (db.answer c fresh r).1 = a) :
    ¬db.committed.Bears n k := by
  cases hmisses with
  | byName =>
    rw [h.answer_findAliasByName hid] at hanswer
    have hnone := Option.map_eq_none_iff.1 (Except.ok.inj hanswer)
    rintro ⟨row, hmem, hname⟩
    exact find?_key_eq_none_iff.1 hnone row hmem hname
  | byId =>
    rw [h.answer_findByPublicId hid] at hanswer
    have hnone := Option.map_eq_none_iff.1 (Except.ok.inj hanswer)
    rintro ⟨row, hmem, hname⟩
    exact find?_key_eq_none_iff.1 hnone row hmem hname

/-- What is in use is in one of the two halves. -/
theorem bears_of_inUse {t : Tables} (h : t.Claims) (huse : Rows.InUse t n) (k : NameKind) :
    t.Bears n k ∨ t.Bears n k.other := by
  have hsome : t.Bears n .publicId ∨ t.Bears n .aliasName := by
    rcases huse with ⟨m, hm, rfl⟩ | ⟨row, hmem, hname⟩
    · rcases h.mem_names_iff.1 hm with ⟨d, hd, rfl⟩ | ⟨row, hmem, rfl⟩
      · exact Or.inl ⟨d, hd, rfl⟩
      · exact Or.inr ⟨row, hmem, rfl⟩
    · exact Or.inr ⟨row, hmem, hname⟩
  cases k with
  | publicId => exact hsome
  | aliasName => exact hsome.symm

/-- A name for which a change was refused is in use. -/
theorem inUse_of_refuses (hrefuses : Refuses n r a) (hanswer : (db.answer c fresh r).1 = a) :
    Rows.InUse db.committed n := by
  cases hrefuses with
  | @newAlias p m =>
    have hblames := write_blames (c := c) (Work.createAlias_blames fresh p n db.committed)
      fun e => Or.inl
    have hwrite : (db.write c (Work.createAlias fresh p n)).1 = .error (.nameTaken m) := hanswer
    rw [hwrite] at hblames
    rcases hblames with hfault | ⟨hmissing, -⟩ | ⟨-, huse⟩
    · cases hfault
    · cases hmissing
    · exact huse
  | @newDocument p initial hne =>
    have hblames := write_blames (c := c) (Work.createDocument_blames fresh p initial db.committed)
      fun e => Or.inl
    have hwrite : (db.write c (Work.createDocument fresh p initial)).1 = .error (.nameTaken n) :=
      hanswer
    rw [hwrite] at hblames
    rcases hblames with hfault | htaken | ⟨m, -, htaken, huse⟩
    · cases hfault
    · injection htaken with htaken
      exact absurd htaken hne
    · injection htaken with htaken
      rw [htaken]
      exact huse

end Database

/-! ## §3. Every run. -/

namespace Traffic

variable {w : Traffic} {start : Database} {n : String} {k : NameKind}

/-- **The grounds of a rejection, on a store.**  What was seen was there.  What was inferred was in
one of the two halves when the change was refused; if it was in the other one, it had gone out of use
when it was looked for there. -/
theorem Sound.holder (h : w.Sound start)
    (horder : w.Everywhere fun db => db.Idle ∧ db.committed.Identity) {i : Nat} {p : Pending}
    (hp : w.calls[i]? = some p) (hgrounds : Grounds n k (w.said i)) :
    (∃ m ∈ w.history, m.IsOf i ∧ m.before.committed.Bears n k) ∨
    ∃ earlier refused between look later,
      w.history = earlier ++ refused :: between ++ look :: later ∧ refused.IsOf i ∧ look.IsOf i ∧
      refused.before.committed.Bears n k.other ∧ ∃ l ∈ between, l.GivesUp n k.other := by
  generalize hsaid : w.said i = es at hgrounds
  cases hgrounds with
  | seen before after hfinds =>
    obtain ⟨earlier, m, later, fresh, hhistory, hdeed, -⟩ := exists_moment hsaid
    have hmem : m ∈ w.history := by
      rw [hhistory]
      exact List.mem_append_right _ List.mem_cons_self
    obtain ⟨hidle, hid⟩ := (horder.2 m hmem).1
    have hanswer := h.happens hp hmem hdeed
    exact Or.inl ⟨m, hmem, ⟨_, hdeed, rfl⟩,
      hidle.bears_of_finds hid hfinds (congrArg Prod.fst hanswer)⟩
  | blamed before after hlookup =>
    obtain ⟨earlier, m, later, fresh, hhistory, hdeed, -⟩ := exists_moment hsaid
    have hmem : m ∈ w.history := by
      rw [hhistory]
      exact List.mem_append_right _ List.mem_cons_self
    -- look-ups do not fail so
    have hblames := Database.lookup_blames m.before p.connection fresh hlookup
    rw [congrArg Prod.fst (h.happens hp hmem hdeed)] at hblames
    cases hblames
  | inferred before after hrefuses hmisses =>
    obtain ⟨earlier, m, rest, fresh, hhistory, hdeed, -, hrest⟩ := exists_moment hsaid
    obtain ⟨between, look, later, fresh', rfl, hdeed', -⟩ :=
      exists_moment (hrest.trans (List.nil_append _).symm)
    have hmem : m ∈ w.history := by
      rw [hhistory]
      exact List.mem_append_right _ List.mem_cons_self
    have hmem' : look ∈ w.history := by
      rw [hhistory]
      exact List.mem_append_right _ (List.mem_cons_of_mem m
        (List.mem_append_right _ List.mem_cons_self))
    have hhappens := h.happens hp hmem hdeed
    have huse := Database.inUse_of_refuses hrefuses (congrArg Prod.fst hhappens)
    rcases Database.bears_of_inUse (horder.2 m hmem).1.2.toClaims huse k with hbears | hbears
    · exact Or.inl ⟨m, hmem, ⟨_, hdeed, rfl⟩, hbears⟩
    · have hkept : m.after = m.before := by
        refine hhappens.eq_of_unchanged ?_
        cases hrefuses <;> rfl
      obtain ⟨hidle, hid⟩ := (horder.2 look hmem').1
      have hgone := hidle.not_bears_of_misses hid hmisses
        (congrArg Prod.fst (h.happens hp hmem' hdeed'))
      have horder : w.history = earlier ++ m :: between ++ look :: later := by
        rw [hhistory, List.append_assoc]
        rfl
      have hlink := h.linked
      rw [horder] at hlink
      have hloss := hlink.between.exists_loss (P := fun db => db.committed.Bears n k.other)
        (by rw [hkept]; exact hbears) hgone
      exact Or.inr ⟨earlier, m, between, look, later, horder, ⟨_, hdeed, rfl⟩, ⟨_, hdeed', rfl⟩,
        hbears, hloss⟩

/-- **When a rejected name is in use where the rejection says.**  Clients of the library have acted in
any order, and no transaction is open; now calls of services interleave with requests and deletions of
documents.  When adding an alias or creating a document rejects a name as being in one half of the
namespace, then at one moment of that call it was there; or else it was in the other half when the
change was refused, and was given up there before the call looked for it. -/
theorem rejection_names_holder (events : List Event) (hevents : ∀ e ∈ events, e.isLibrary = true)
    (hheld : (Database.empty.after events).held = none)
    (hreaders : (Database.empty.after events).readers = [])
    (turns : List Turn) (hturns : ∀ turn ∈ turns, turn.isWithin Event.isAtomic = true) :
    let w := (on (Database.empty.after events)).after turns
    ∀ (i : Nat) (c : Connection) (reserved : ReservedNames) (s : ServiceCall) (n : String)
      (k : NameKind), s.isAdding = true →
      w.calls[i]? = some ⟨c, reserved, s, .done (.error (.alreadyExists n k))⟩ →
      (∃ m ∈ w.history, m.IsOf i ∧ m.before.committed.Bears n k) ∨
      ∃ earlier refused between look later,
        w.history = earlier ++ refused :: between ++ look :: later ∧ refused.IsOf i ∧ look.IsOf i ∧
        refused.before.committed.Bears n k.other ∧ ∃ l ∈ between, l.GivesUp n k.other := by
  intro w i c reserved s n k hadding hdone
  have hsound : w.Sound (Database.empty.after events) := sound_after (sound_on _) turns
  have hstart : (Database.empty.after events).Idle ∧
      (Database.empty.after events).Holds Tables.Identity :=
    ⟨⟨hheld, hreaders⟩, Database.identity_holds hevents⟩
  have horder : w.Everywhere fun db => db.Idle ∧ db.Holds Tables.Identity := by
    refine everywhere_after (everywhere_on hstart) (fun _ _ _ => rfl) ?_ hturns
    intro e db hatomic h
    refine ⟨h.1.apply hatomic, (e.steps_apply db).holds (fun t t' ht => ?_) h.2⟩
    exact Event.identity_writes (Event.isLibrary_of_isAtomic hatomic) ht
  exact hsound.holder (horder.mono fun db h => ⟨h.1, h.2.1⟩) hdone
    (hsound.ends hdone (s.founded_dialogue reserved hadding) n k rfl)

/-- A client finds a name free; another client adds it; the first one is refused; the other removes
it; the first one looks again. -/
def nameReleased : List Turn :=
  let fresh (k : Nat) : Fresh := ⟨⟨BitVec.ofNat 128 k⟩, 5⟩
  let block : Block := Vector.replicate 16 0
  [.begin 1 ⟨[]⟩ (.add "d" "x"), .go 0 (fresh 1) block, .go 0 (fresh 2) block,
   .event (.request 2 (fresh 3) (.createAlias "e" "x")), .go 0 (fresh 4) block,
   .event (.request 2 (fresh 5) (.deleteAlias "e" "x")), .go 0 (fresh 6) block,
   .go 0 (fresh 7) block]

/-- The name went out of use as an alias between the refusal and the look. -/
theorem rejection_names_holder_nameReleased :
    let w := (on (Database.empty.after twoDocuments)).after nameReleased
    ∃ l ∈ w.history, l.GivesUp "x" .aliasName := by
  intro w
  have hdone : w.calls[0]?
      = some ⟨1, ⟨[]⟩, .add "d" "x", .done (.error (.alreadyExists "x" .publicId))⟩ := rfl
  have hnever : ∀ m ∈ w.history, ¬m.before.committed.Bears "x" .publicId := by decide +kernel
  rcases rejection_names_holder twoDocuments (by decide) (by decide +kernel) (by decide +kernel)
    nameReleased (by decide) 0 1 ⟨[]⟩ (.add "d" "x") "x" .publicId rfl hdone with
    ⟨m, hm, -, hbears⟩ | ⟨earlier, refused, between, look, later, hhistory, -, -, -, l, hl, hgone⟩
  · exact absurd hbears (hnever m hm)
  · refine ⟨l, ?_, hgone⟩
    show l ∈ w.history
    rw [hhistory]
    exact List.mem_append_left _ (List.mem_append_right _ (List.mem_cons_of_mem refused hl))

/-- **A name can be rejected as a public id that never was one.** -/
theorem released_name_is_misnamed :
    let w := (on (Database.empty.after twoDocuments)).after nameReleased
    w.calls[0]? = some ⟨1, ⟨[]⟩, .add "d" "x", .done (.error (.alreadyExists "x" .publicId))⟩ ∧
    ∀ m ∈ w.history, ¬m.before.committed.Bears "x" .publicId ∧
      ¬m.after.committed.Bears "x" .publicId :=
  ⟨rfl, by decide +kernel⟩

end Traffic

end Namebook
