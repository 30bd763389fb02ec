/-
  Namebook.Proofs.Counters
  ────────────────────────
  **COUNTERS NEVER WRAP — versions and positions at any height.**

  Other programs may leave versions and positions anywhere in the range of stored integers.  What the
  library counts is counted exactly, or the request is refused and nothing changes.

    • `Database.answer_stopped` — a request whose work never succeeds;
    • `Database.counters_never_wrap` — additions, removals and promotions on any database.
-/
import Namebook.Proofs.Repository.Counters
import Namebook.Proofs.Service.Client

namespace Namebook

namespace Database

open Tables

variable {db : Database} {c : Connection} {fresh : Fresh}

/-! ## §1. Requests. -/

/-- A change whose work never succeeds is refused. -/
theorem answer_stopped {Q : RepositoryError → Prop} {r : Request} {w : Work Document}
    (hwork : r.work? fresh = some w) (h : w.Blames Q db.committed) (hQ : ∀ e, Q (.ofEngine e))
    (hok : ∀ d t, w.runOn db.committed ≠ (.ok d, t)) :
    ∃ e, db.answer c fresh r = (.error e, db) ∧ Q e := by
  have hstopped := write_stopped (c := c) h hQ hok
  cases r with
  | createAlias p n => cases hwork; exact hstopped
  | deleteAlias p n => cases hwork; exact hstopped
  | promoteAlias p n => cases hwork; exact hstopped
  | createDocument p initial => cases hwork; exact hstopped
  | _ => cases hwork

/-- Work that leaves the tables as they are needs no commit, so readers do not stand in its way. -/
theorem write_of_unchanged {α : Type} {body : Work α} {a : α} (hheld : db.held = none)
    (hreads : c ∉ db.readers) (hrun : body.runOn db.committed = (.ok a, db.committed)) :
    db.write c body = (.ok a, db) := by
  rw [write_eq, begin_immediate_eq_ok_iff.2 ⟨hheld, hreads, rfl⟩]
  dsimp only
  rw [hrun]
  dsimp only
  rw [if_neg fun hwait => hwait.2 rfl]

/-- Only changes need a sum. -/
theorem work?_of_exceeds {t : Tables} {r : Request} (h : t.Exceeds r) (fresh : Fresh) :
    ∃ w, r.work? fresh = some w := by
  cases h with
  | version hcounts _ _ => cases hcounts <;> exact ⟨_, rfl⟩
  | position _ _ => exact ⟨_, rfl⟩

/-! ## §2. What is counted. -/

/-- **Counters never wrap.**  The database is arbitrary.  An addition, a removal and a promotion that
moves the primary flag count the version up by exactly one when they succeed.  An alias that is added
gets a position beyond all others of its document, zero if there are none, and is the last one of the
returned document.  A request that needs a sum beyond the greatest integer never succeeds: an earlier
check has refused it or it ends with an error of the store, and the database is left as it was.  A
promotion of the primary alias of a document that can be loaded needs no sum and succeeds. -/
theorem counters_never_wrap (db : Database) (c : Connection) (fresh : Fresh) :
    (∀ p r d, db.committed.Counts p r → r.document? (db.answer c fresh r).1 = some d →
      ∃ row row', Counted db.committed (db.answer c fresh r).2.committed p d row row') ∧
    (∀ p n d after, db.answer c fresh (.createAlias p n) = (.ok d, after) →
      ∃ row, Appended db.committed after.committed p n d row) ∧
    (∀ r, db.committed.Exceeds r → ∃ e, db.answer c fresh r = (.error e, db) ∧
      ((∃ s, e = .store s) ∨ db.committed.Prevented r e)) ∧
    (∀ p n d row, db.held = none → c ∉ db.readers →
      Rows.loadDocument db.committed p = .ok (some d) → db.committed.alias? n = some row →
      row.document = p → row.flag = 1 → db.answer c fresh (.promoteAlias p n) = (.ok d, db)) := by
  refine ⟨fun p r d hcounts hd => ?_, fun p n d after hanswer => ?_, fun r hexceeds => ?_,
    fun p n d row hheld hreads hload hfound howner hflag => ?_⟩
  · obtain ⟨w, hwork⟩ : ∃ w, r.work? fresh = some w := by cases hcounts <;> exact ⟨_, rfl⟩
    exact Work.counted hcounts hwork (Request.runOn_of_answer hwork rfl hd)
  · exact Work.appended (Request.runOn_of_answer rfl hanswer rfl)
  · obtain ⟨w, hwork⟩ := work?_of_exceeds hexceeds fresh
    exact answer_stopped hwork (Work.stopped hexceeds hwork) (fun e => Or.inl ⟨_, rfl⟩)
      fun d t => Work.ne_ok_of_exceeds hexceeds hwork
  · exact write_of_unchanged hheld hreads (Work.promoteAlias_of_primary hload hfound howner hflag)

/-- Documents whose counters stand at the greatest integer, below zero, and nowhere yet. -/
def brimming : Database :=
  { empty with
    committed :=
      { names := [⟨"full", "public_id"⟩, ⟨"a", "alias"⟩, ⟨"b", "alias"⟩, ⟨"high", "public_id"⟩,
          ⟨"c", "alias"⟩, ⟨"low", "public_id"⟩, ⟨"d", "alias"⟩, ⟨"bare", "public_id"⟩]
        documents := [⟨"full", Int64.ofInt Integer.greatest, 0, 0⟩, ⟨"high", 0, 0, 0⟩,
          ⟨"low", -3, 0, 0⟩, ⟨"bare", 8, 0, 0⟩]
        aliases :=
          [⟨"00000000-0000-0000-0000-000000000001", "a", "full", 1, 0⟩,
            ⟨"00000000-0000-0000-0000-000000000002", "b", "full", 0, 1⟩,
            ⟨"00000000-0000-0000-0000-000000000003", "c", "high", 1, Int64.ofInt Integer.greatest⟩,
            ⟨"00000000-0000-0000-0000-000000000004", "d", "low", 1, -7⟩]
        onePrimary := true } }

/-- On this store a version goes from -3 to -2 and a position from -7 to -6; a first alias stands at
zero; every other addition, removal or promotion is refused, but for one that moves no flag. -/
theorem counters_of_brimming :
    (∃ d after, brimming.answer 1 (plainSupply.fresh 5) (.createAlias "low" "n") = (.ok d, after) ∧
      d.version.toInt = -2 ∧ ∃ row ∈ after.committed.aliasesOf "low", row.position.toInt = -6) ∧
    (∃ d after, brimming.answer 1 (plainSupply.fresh 5) (.createAlias "bare" "n") = (.ok d, after) ∧
      ∃ row ∈ after.committed.aliasesOf "bare", row.position = 0) ∧
    (∀ r ∈ [Request.createAlias "full" "n", .deleteAlias "full" "b", .promoteAlias "full" "b",
        .createAlias "high" "n"],
      ∃ e, brimming.answer 1 (plainSupply.fresh 5) r = (.error e, brimming)) ∧
    ∃ d, brimming.answer 1 (plainSupply.fresh 5) (.promoteAlias "full" "a") = (.ok d, brimming) := by
  obtain ⟨hcounted, happended, hstopped, hkept⟩ := counters_never_wrap brimming 1 (plainSupply.fresh 5)
  have hfull : ∀ r, brimming.committed.Counts "full" r → brimming.committed.Exceeds r :=
    fun r hcounts => .version hcounts rfl (by decide)
  obtain ⟨d, after, hlow⟩ : ∃ d after,
      brimming.answer 1 (plainSupply.fresh 5) (.createAlias "low" "n") = (.ok d, after) := ⟨_, _, rfl⟩
  obtain ⟨d', after', hbare⟩ : ∃ d after,
      brimming.answer 1 (plainSupply.fresh 5) (.createAlias "bare" "n") = (.ok d, after) := ⟨_, _, rfl⟩
  obtain ⟨stored, hload⟩ : ∃ d, Rows.loadDocument brimming.committed "full" = .ok (some d) :=
    ⟨_, rfl⟩
  refine ⟨⟨d, after, hlow, ?_, ?_⟩, ⟨d', after', hbare, ?_⟩, fun r hr => ?_, stored, ?_⟩
  · obtain ⟨row, row', hbefore, -, hexact, -, hversion⟩ :=
      hcounted "low" (.createAlias "low" "n") d (.added "n") (by rw [hlow]; rfl)
    have hrow : row = ⟨"low", -3, 0, 0⟩ := (Option.some.inj hbefore).symm
    rw [hversion, hexact, hrow]
    decide
  · obtain ⟨row, hrows, -, -, -, hnext, -⟩ := happended "low" "n" d after hlow
    obtain ⟨b, hb, hposition⟩ := hnext (by decide)
    refine ⟨row, hrows ▸ List.mem_append_right _ (List.mem_singleton_self row), ?_⟩
    have hseven : ∀ b ∈ brimming.committed.aliasesOf "low", b.position.toInt = -7 := by decide
    rw [hposition, hseven b hb]
    rfl
  · obtain ⟨row, hrows, -, -, hfirst, -, -⟩ := happended "bare" "n" d' after' hbare
    exact ⟨row, hrows ▸ List.mem_append_right _ (List.mem_singleton_self row), hfirst (by decide)⟩
  · have hexceeds : brimming.committed.Exceeds r := by
      simp only [List.mem_cons, List.not_mem_nil, or_false] at hr
      rcases hr with rfl | rfl | rfl | rfl
      · exact hfull _ (.added "n")
      · exact hfull _ (.removed "b")
      · exact hfull _ (.moved rfl (by decide))
      · exact .position (a := ⟨"00000000-0000-0000-0000-000000000003", "c", "high", 1,
          Int64.ofInt Integer.greatest⟩) (by decide) (by decide)
    obtain ⟨e, he, -⟩ := hstopped r hexceeds
    exact ⟨e, he⟩
  · exact hkept "full" "a" stored _ rfl List.not_mem_nil hload rfl rfl rfl

end Database

end Namebook
