/-
  Namebook.Proofs.Concurrency
  ───────────────────────────
  **CALLS ACT AT ONCE — however they interleave.**

  Clients of the library run calls side by side, and between two requests of a call anything else
  may happen to the store.  Still every call that succeeds acts as if it ran alone at the moment of
  its last request:

    • `Sound.decisive` — the moment at which a call that succeeded was decided;
    • `calls_act_at_once` — every store on the way is in order, and every success is that of the whole
      call run alone at its moment; no name is added twice unless it was given up in between, and no
      primary alias goes before the others.
-/
import Namebook.Proofs.Identity
import Namebook.Proofs.Interleaving
import Namebook.Proofs.Service.Alone

namespace Namebook

/-! ## §1. The moment that decides. -/

namespace Traffic

variable {w : Traffic} {start : Database} {i : Nat} {c : Connection} {reserved : ReservedNames}
  {s : ServiceCall} {v : s.Found}

/-- A moment of a call at which it was granted nothing leaves the store alone. -/
theorem Sound.keeps (h : w.Sound start) {m : Moment} (hm : m ∈ w.history)
    (hquiet : ∀ e, m.said? i = some e → e.changed = false) (hof : m.IsOf i) :
    m.after = m.before := by
  obtain ⟨d, hd, rfl⟩ := hof
  obtain ⟨p, -, hhappens⟩ := h.deeds m hm d hd
  exact hhappens.eq_of_unchanged (hquiet d.exchange (Moment.said?_eq_some_iff.2 ⟨d.fresh, hd⟩))

/-- **A call that succeeded was decided at the moment of its last request**: there the store gave the
answer that lets it succeed, and at no other moment did the call change anything. -/
theorem Sound.decisive (h : w.Sound start)
    (hdone : w.calls[i]? = some ⟨c, reserved, s, .done (.ok v)⟩) :
    ∃ earlier m later fresh r a, w.history = earlier ++ m :: later ∧
      m.deed = some ⟨i, fresh, .asked r a⟩ ∧
      (∀ m' ∈ later, ∀ fresh' r' a', m'.deed ≠ some ⟨i, fresh', .asked r' a'⟩) ∧
      (∀ m' ∈ earlier ++ later, m'.IsOf i → m'.after = m'.before) ∧
      m.before.answer c fresh r = (a, m.after) ∧ s.Concludes reserved (w.said i) r a v := by
  obtain ⟨before, r, a, after, hsaid, hquiet, hrecords, hconcl⟩ :=
    h.ends hdone (s.decided_dialogue reserved)
  obtain ⟨earlier, m, later, fresh, hhistory, hdeed, hearlier, hlater⟩ := exists_moment hsaid
  have hmem : m ∈ w.history := by
    rw [hhistory]
    exact List.mem_append_right _ List.mem_cons_self
  have hrecord : ∀ m' ∈ later, ∀ e, m'.said? i = some e → e.isRecord = true := by
    intro m' hm' e he
    refine hrecords e ?_
    rw [← hlater]
    exact List.mem_filterMap.2 ⟨m', hm', he⟩
  have hconcl' : s.Concludes reserved (w.said i) r a v := by
    rw [hsaid]
    exact hconcl.mono fun b hb => (lastDrawn?_append_asked hrecords before r a).trans hb
  refine ⟨earlier, m, later, fresh, r, a, hhistory, hdeed, ?_, ?_, h.happens hdone hmem hdeed,
    hconcl'⟩
  · intro m' hm' fresh' r' a' hasked
    cases hrecord m' hm' _ (Moment.said?_eq_some_iff.2 ⟨fresh', hasked⟩)
  · intro m' hm' hof
    have hm : m' ∈ w.history := by
      rw [hhistory]
      rcases List.mem_append.1 hm' with hm' | hm'
      · exact List.mem_append_left _ hm'
      · exact List.mem_append_right _ (List.mem_cons_of_mem m hm')
    refine h.keeps hm (fun e he => ?_) hof
    rcases List.mem_append.1 hm' with hm' | hm'
    · have hmem : e ∈ before := hearlier ▸ List.mem_filterMap.2 ⟨m', hm', he⟩
      exact Bool.eq_false_iff.2 (List.countP_eq_zero.1 hquiet e hmem)
    · have hrec := hrecord m' hm' e he
      cases e with
      | wrote entry => rfl
      | _ => cases hrec

/-- **Every success is that of the whole call run alone**, on the store of its moment, with the id and
the time of its last request and the block drawn last. -/
theorem Sound.alone (h : w.Sound start) (hclaims : w.Everywhere fun db => db.committed.Claims)
    (hdone : w.calls[i]? = some ⟨c, reserved, s, .done (.ok v)⟩) :
    ∃ earlier m later fresh r a, w.history = earlier ++ m :: later ∧
      m.deed = some ⟨i, fresh, .asked r a⟩ ∧
      (∀ m' ∈ later, ∀ fresh' r' a', m'.deed ≠ some ⟨i, fresh', .asked r' a'⟩) ∧
      (∀ m' ∈ earlier ++ later, m'.IsOf i → m'.after = m'.before) ∧
      ∀ supply : Supply, (∀ k, supply.fresh k = fresh) →
        (∀ b ∈ lastDrawn? (w.said i), supply.blocks 0 = b) →
        let alone := m.before.call c supply (s.dialogue reserved)
        alone.value = .ok v ∧ alone.state = m.after ∧ alone.draws ≤ 1 := by
  obtain ⟨earlier, m, later, fresh, r, a, hhistory, hdeed, hlast, hkeeps, hanswer, hconcl⟩ :=
    h.decisive hdone
  refine ⟨earlier, m, later, fresh, r, a, hhistory, hdeed, hlast, hkeeps, ?_⟩
  intro supply hfresh hblock alone
  have hmem : m ∈ w.history := by
    rw [hhistory]
    exact List.mem_append_right _ List.mem_cons_self
  have halone := Database.call_of_concludes (hclaims.2 m hmem).1 hconcl
    (congrArg Prod.fst hanswer) hfresh hblock
  rw [congrArg Prod.snd hanswer] at halone
  exact halone

end Traffic

/-! ## §2. Adding and removing. -/

/-- Calls that add an alias: to a document, or as the first one of a new document. -/
def ServiceCall.Adds (n : String) : ServiceCall → Prop
  | add _ m => m = n
  | create initial => initial = some n
  | _ => False

variable {db db' : Database} {c : Connection} {fresh : Fresh} {p n : String} {d : Document}

/-- A granted alias is in use from then on. -/
theorem bears_createAlias (h : db.answer c fresh (.createAlias p n) = (.ok d, db')) :
    db'.committed.Bears n .aliasName := by
  obtain ⟨t, -, hrun, hstate⟩ := Database.write_of_ok (congrArg Prod.fst h)
  have hdb : db' = { db with committed := t } := (congrArg Prod.snd h).symm.trans hstate
  obtain ⟨-, -, position, row, version, -, -, -, -, rfl, -⟩ := Work.createAlias_eq_ok_iff.1 hrun
  rw [hdb]
  exact ⟨db.committed.newAlias fresh p n position, List.mem_append_right _ (List.mem_singleton_self _),
    rfl⟩

theorem bears_createDocument
    (h : db.answer c fresh (.createDocument p (some n)) = (.ok d, db')) :
    db'.committed.Bears n .aliasName := by
  obtain ⟨t, -, hrun, hstate⟩ := Database.write_of_ok (congrArg Prod.fst h)
  have hdb : db' = { db with committed := t } := (congrArg Prod.snd h).symm.trans hstate
  obtain ⟨-, -, -, -, -, rfl, -⟩ := Work.createDocument_some_eq_ok_iff.1 hrun
  rw [hdb]
  exact ⟨_, List.mem_append_right _ (List.mem_singleton_self _), rfl⟩

/-- A free name is no alias. -/
theorem Tables.Free.not_bears {t : Tables} (h : t.Free n) : ¬t.Bears n .aliasName := by
  rintro ⟨a, ha, hname⟩
  exact find?_key_eq_none_iff.1 h.noAlias a ha hname

/-- **The answer that lets an alias be added brings its name into use.** -/
theorem ServiceCall.Concludes.takes {reserved : ReservedNames} {s : ServiceCall}
    {es : List Exchange} {r : Request} {a : r.Answer} {v : s.Found}
    (h : s.Concludes reserved es r a v) (hclaims : db.committed.Claims)
    (hanswer : db.answer c fresh r = (a, db')) (hadds : s.Adds n) :
    ¬db.committed.Bears n .aliasName ∧ db'.committed.Bears n .aliasName := by
  cases h with
  | add hname =>
    cases hadds
    exact ⟨(Database.free_of_createAlias hclaims (congrArg Prod.fst hanswer)).not_bears,
      bears_createAlias hanswer⟩
  | create hinitial hblock =>
    cases hadds
    exact ⟨(Database.free_of_createDocument hclaims (congrArg Prod.fst hanswer)).not_bears,
      bears_createDocument hanswer⟩
  | _ => cases hadds

/-- **A primary alias is removed only as the last one of its document.** -/
theorem sole_of_deleteAlias (hid : db.committed.Identity)
    (h : (db.answer c fresh (.deleteAlias p n)).1 = .ok d) {a : AliasRow}
    (ha : a ∈ db.committed.aliases) (hname : a.name = n) (hprimary : a.flag = 1) {b : AliasRow}
    (hb : b ∈ db.committed.aliases) (hdoc : b.document = p) : b = a := by
  obtain ⟨t, -, hrun, -⟩ := Database.write_of_ok h
  obtain ⟨-, x, row, version, howned, hsole, -⟩ := Work.deleteAlias_eq_ok_iff.1 hrun
  obtain ⟨a', ha', hadoc, rfl⟩ := hid.ownedAlias_eq_ok_iff.1 howned
  have hfound : db.committed.alias? n = some a := hid.alias?_eq_some_iff.2 ⟨ha, hname⟩
  cases hfound.symm.trans ha'
  have hlength : (db.committed.aliasesOf p).length ≤ 1 := by
    by_contra hmany
    exact hsole ⟨beq_iff_eq.2 hprimary, by omega⟩
  -- both rows are in a list of one
  have hmem := Tables.mem_aliasesOf.2 ⟨ha, hadoc⟩
  have hmem' := Tables.mem_aliasesOf.2 ⟨hb, hdoc⟩
  obtain ⟨x, hx⟩ := List.length_eq_one_iff.1
    (Nat.le_antisymm hlength (List.length_pos_of_mem hmem))
  rw [hx] at hmem hmem'
  rw [List.mem_singleton.1 hmem, List.mem_singleton.1 hmem']

namespace Traffic

variable {w : Traffic} {start : Database}

/-- **A name is added once.**  Where two calls added it, it was given up in between. -/
theorem Sound.given_up (h : w.Sound start) (hclaims : w.Everywhere fun db => db.committed.Claims)
    {i j : Nat} {c c' : Connection} {reserved reserved' : ReservedNames} {s s' : ServiceCall}
    {v : s.Found} {v' : s'.Found} (hne : i ≠ j)
    (hi : w.calls[i]? = some ⟨c, reserved, s, .done (.ok v)⟩)
    (hj : w.calls[j]? = some ⟨c', reserved', s', .done (.ok v')⟩)
    (hadds : s.Adds n) (hadds' : s'.Adds n) :
    ∃ earlier m between m' later, w.history = earlier ++ m :: between ++ m' :: later ∧
      (m.IsOf i ∧ m'.IsOf j ∨ m.IsOf j ∧ m'.IsOf i) ∧
      m.Takes n .aliasName ∧ (∃ l ∈ between, l.GivesUp n .aliasName) ∧ m'.Takes n .aliasName := by
  obtain ⟨earlier, m, later, fresh, r, a, hhistory, hdeed, -, -, hanswer, hconcl⟩ := h.decisive hi
  obtain ⟨earlier', m', later', fresh', r', a', hhistory', hdeed', -, -, hanswer', hconcl'⟩ :=
    h.decisive hj
  have hmem : m ∈ w.history := by
    rw [hhistory]
    exact List.mem_append_right _ List.mem_cons_self
  have hmem' : m' ∈ w.history := by
    rw [hhistory']
    exact List.mem_append_right _ List.mem_cons_self
  have htakes : m.Takes n .aliasName := hconcl.takes (hclaims.2 m hmem).1 hanswer hadds
  have htakes' : m'.Takes n .aliasName := hconcl'.takes (hclaims.2 m' hmem').1 hanswer' hadds'
  have hof : m.IsOf i := ⟨_, hdeed, rfl⟩
  have hof' : m'.IsOf j := ⟨_, hdeed', rfl⟩
  have hdistinct : m ≠ m' := by
    rintro rfl
    cases hdeed.symm.trans hdeed'
    exact hne rfl
  -- whichever came first, the name was in use after it and not before the other
  have hlink := h.linked
  rcases order_of_moments hhistory hhistory' hdistinct with ⟨between, horder⟩ | ⟨between, horder⟩
  · rw [horder] at hlink
    have hloss := hlink.between.exists_loss (P := fun db => db.committed.Bears n .aliasName)
      htakes.2 htakes'.1
    exact ⟨earlier, m, between, m', later', horder, Or.inl ⟨hof, hof'⟩, htakes, hloss, htakes'⟩
  · rw [horder] at hlink
    have hloss := hlink.between.exists_loss (P := fun db => db.committed.Bears n .aliasName)
      htakes'.2 htakes.1
    exact ⟨earlier', m', between, m, later, horder, Or.inr ⟨hof', hof⟩, htakes', hloss, htakes⟩

/-! ## §3. Every run. -/

/-- What clients of the library do keeps the invariant in every store of a run. -/
theorem identity_everywhere {events : List Event} (hevents : ∀ e ∈ events, e.isLibrary = true)
    {turns : List Turn} (hturns : ∀ turn ∈ turns, turn.isWithin Event.isLibrary = true) :
    ((on (Database.empty.after events)).after turns).Everywhere
      fun db => db.Holds Tables.Identity := by
  refine everywhere_after (everywhere_on (Database.identity_holds hevents)) (fun _ _ _ => rfl) ?_
    hturns
  intro e db hlibrary h
  exact (e.steps_apply db).holds (fun t t' ht => Event.identity_writes hlibrary ht) h

/-- **Interleaved calls act at once.**  Clients of the library have acted in any order; now any
number of clients make calls of services, over any connections, whose requests interleave in any way,
with anything else that clients of the library do in between.  Then every store on the way is in
order.  Every call that succeeds has the value and the effect that the whole call has if it runs alone
on the store of one moment, that of its last request, with the block drawn last as its first and only
draw, and at no other moment it changes anything.  If two calls add one name, then a moment in between
gives the name up.  And a primary alias is removed only where no other alias of the document is
committed. -/
theorem calls_act_at_once (events : List Event) (hevents : ∀ e ∈ events, e.isLibrary = true)
    (turns : List Turn) (hturns : ∀ turn ∈ turns, turn.isWithin Event.isLibrary = true) :
    let w := (on (Database.empty.after events)).after turns
    (w.Everywhere fun db => db.Holds fun t =>
      (∀ d ∈ t.documents, t.aliasesOf d.publicId ≠ [] →
        (t.aliasesOf d.publicId).countP (·.flag == 1) = 1) ∧
      t.documents.Pairwise (fun d e => d.publicId ≠ e.publicId) ∧
      t.aliases.Pairwise (fun a b => a.name ≠ b.name) ∧
      (∀ d ∈ t.documents, ∀ a ∈ t.aliases, d.publicId ≠ a.name) ∧
      (∀ a ∈ t.aliases, t.hasDocument a.document = true)) ∧
    (∀ (i : Nat) (c : Connection) (reserved : ReservedNames) (s : ServiceCall) (v : s.Found),
      w.calls[i]? = some ⟨c, reserved, s, .done (.ok v)⟩ →
      ∃ earlier m later fresh r a, w.history = earlier ++ m :: later ∧
        m.deed = some ⟨i, fresh, .asked r a⟩ ∧
        (∀ m' ∈ later, ∀ fresh' r' a', m'.deed ≠ some ⟨i, fresh', .asked r' a'⟩) ∧
        (∀ m' ∈ earlier ++ later, m'.IsOf i → m'.after = m'.before) ∧
        ∀ supply : Supply, (∀ k, supply.fresh k = fresh) →
          (∀ b ∈ lastDrawn? (w.said i), supply.blocks 0 = b) →
          let alone := m.before.call c supply (s.dialogue reserved)
          alone.value = .ok v ∧ alone.state = m.after ∧ alone.draws ≤ 1) ∧
    (∀ (n : String) (i j : Nat) (c c' : Connection) (reserved reserved' : ReservedNames)
      (s s' : ServiceCall) (v : s.Found) (v' : s'.Found), i ≠ j → s.Adds n → s'.Adds n →
      w.calls[i]? = some ⟨c, reserved, s, .done (.ok v)⟩ →
      w.calls[j]? = some ⟨c', reserved', s', .done (.ok v')⟩ →
      ∃ earlier m between m' later, w.history = earlier ++ m :: between ++ m' :: later ∧
        (m.IsOf i ∧ m'.IsOf j ∨ m.IsOf j ∧ m'.IsOf i) ∧
        m.Takes n .aliasName ∧ (∃ l ∈ between, l.GivesUp n .aliasName) ∧
        m'.Takes n .aliasName) ∧
    (∀ (i : Nat) (c : Connection) (reserved : ReservedNames) (p n : String) (d : Document),
      w.calls[i]? = some ⟨c, reserved, .remove p n, .done (.ok d)⟩ →
      ∃ m ∈ w.history, (∃ fresh, m.deed = some ⟨i, fresh, .asked (.deleteAlias p n) (.ok d)⟩) ∧
        ∀ a ∈ m.before.committed.aliases, a.name = n → a.flag = 1 →
          ∀ b ∈ m.before.committed.aliases, b.document = p → b = a) := by
  intro w
  have hsound : w.Sound (Database.empty.after events) := sound_after (sound_on _) turns
  have hid : w.Everywhere fun db => db.Holds Tables.Identity := identity_everywhere hevents hturns
  have hclaims : w.Everywhere fun db => db.committed.Claims :=
    hid.mono fun db h => h.1.toClaims
  refine ⟨hid.mono fun db h => h.mono fun t ht => ?_, ?_, ?_, ?_⟩
  · exact ⟨fun d _ => ht.primaries_eq_one, ht.publicIds, ht.aliasNames,
      fun d hd a ha => ht.publicId_ne_name hd ha, ht.owners⟩
  · intro i c reserved s v hdone
    exact hsound.alone hclaims hdone
  · intro n i j c c' reserved reserved' s s' v v' hne hadds hadds' hi hj
    exact hsound.given_up hclaims hne hi hj hadds hadds'
  · intro i c reserved p n d hdone
    obtain ⟨earlier, m, later, fresh, r, a, hhistory, hdeed, -, -, hanswer, hconcl⟩ :=
      hsound.decisive hdone
    have hmem : m ∈ w.history := by
      rw [hhistory]
      exact List.mem_append_right _ List.mem_cons_self
    cases hconcl
    refine ⟨m, hmem, ⟨fresh, hdeed⟩, fun a ha hname hprimary b hb hdoc => ?_⟩
    exact sole_of_deleteAlias (hid.2 m hmem).1.1 (congrArg Prod.fst hanswer) ha hname hprimary hb
      hdoc

/-- Two documents, made before. -/
def twoDocuments : List Event :=
  [.request 1 ⟨⟨1⟩, 5⟩ (.createDocument "d" none), .request 1 ⟨⟨2⟩, 5⟩ (.createDocument "e" none)]

/-- Two clients look up one name side by side and find it free.  The one adds it; a third client
removes it; then the other adds it. -/
def oneNameTwice : List Turn :=
  let fresh (k : Nat) : Fresh := ⟨⟨BitVec.ofNat 128 k⟩, 5⟩
  let block : Block := Vector.replicate 16 0
  [.begin 1 ⟨[]⟩ (.add "d" "x"), .begin 2 ⟨[]⟩ (.add "e" "x"),
   .go 0 (fresh 1) block, .go 1 (fresh 2) block, .go 0 (fresh 3) block, .go 1 (fresh 4) block,
   .go 0 (fresh 5) block, .go 0 (fresh 6) block,
   .event (.request 3 (fresh 7) (.deleteAlias "d" "x")),
   .go 1 (fresh 8) block, .go 1 (fresh 9) block]

theorem calls_act_at_once_oneNameTwice :
    let w := (on (Database.empty.after twoDocuments)).after oneNameTwice
    w.store.committed.aliases.map (fun a => (a.document, a.name)) = [("e", "x")] ∧
    ∃ l ∈ w.history, l.GivesUp "x" .aliasName := by
  intro w
  refine ⟨by decide +kernel, ?_⟩
  obtain ⟨d, hd⟩ : ∃ d, w.calls[0]? = some ⟨1, ⟨[]⟩, .add "d" "x", .done (.ok d)⟩ := ⟨_, rfl⟩
  obtain ⟨e, he⟩ : ∃ e, w.calls[1]? = some ⟨2, ⟨[]⟩, .add "e" "x", .done (.ok e)⟩ := ⟨_, rfl⟩
  obtain ⟨earlier, m, between, m', later, hhistory, -, -, ⟨l, hl, hgone⟩, -⟩ :=
    (calls_act_at_once twoDocuments (by decide) oneNameTwice (by decide)).2.2.1 "x" 0 1 1 2 ⟨[]⟩
      ⟨[]⟩ (.add "d" "x") (.add "e" "x") d e (by decide) rfl rfl hd he
  refine ⟨l, ?_, hgone⟩
  show l ∈ w.history
  rw [hhistory]
  exact List.mem_append_left _ (List.mem_append_right _ (List.mem_cons_of_mem m hl))

end Traffic

end Namebook
