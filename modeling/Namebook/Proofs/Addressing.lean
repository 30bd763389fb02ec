/-
  Namebook.Proofs.Addressing
  ──────────────────────────
  **WHAT A SUCCESS MEANS — where ids are spelled as the library spells them.**

  Other programs may store alias ids in any spelling that can be read.  A removal or a promotion that
  succeeds has done what it says exactly if the alias that it names is stored under the canonical
  spelling of its id; otherwise it has counted a change that it did not make, or made another one.

    • `Database.success_rests_on_spelling` — removals and promotions that succeed;
    • `Database.success_without_effect` — a store in order on which both succeed in vain.
-/
import Namebook.Proofs.Repository.Addressing

namespace Namebook

namespace Database

open Tables

variable {db : Database} {c : Connection} {supply : Supply} {reserved : ReservedNames} {p n : String}
  {d : Document}

/-- A removal that succeeds was granted by the store. -/
theorem runOn_of_remove
    (h : (db.call c supply ((ServiceCall.remove p n).dialogue reserved)).value = .ok d) :
    ∃ fresh, (Work.deleteAlias fresh p n).runOn db.committed =
      (.ok d, (db.call c supply ((ServiceCall.remove p n).dialogue reserved)).state.committed) := by
  obtain ⟨es, r, a, k, hconcl, hanswer⟩ := call_of_ok h
  cases hconcl
  exact ⟨supply.fresh k, Request.runOn_of_answer rfl hanswer rfl⟩

/-- A promotion that succeeds was granted by the store. -/
theorem runOn_of_promote
    (h : (db.call c supply ((ServiceCall.promote p n).dialogue reserved)).value = .ok d) :
    ∃ fresh, (Work.promoteAlias fresh p n).runOn db.committed =
      (.ok d, (db.call c supply ((ServiceCall.promote p n).dialogue reserved)).state.committed) := by
  obtain ⟨es, r, a, k, hconcl, hanswer⟩ := call_of_ok h
  cases hconcl
  exact ⟨supply.fresh k, Request.runOn_of_answer rfl hanswer rfl⟩

/-- **What a success means.**  The store is arbitrary but for its unique columns.  A removal that
succeeds deletes what is stored under the canonical spelling of the alias's id.  The alias is gone
exactly if it was stored so; then its claim is gone too and nothing else, no claim of its name is left
where the index is in step, and the returned document has one alias fewer.  A promotion that succeeds
has made the alias primary, in the store and in the returned document, exactly if it was stored so or
was primary already; it never touches an alias of another document. -/
theorem success_rests_on_spelling (db : Database) (h : db.committed.Unique) (c : Connection)
    (supply : Supply) (reserved : ReservedNames) (p n : String) :
    (let o := db.call c supply ((ServiceCall.remove p n).dialogue reserved)
     ∀ d : Document, o.value = .ok d → ∃ row u, db.committed.alias? n = some row ∧
      row.document = p ∧ Uuid.parse? row.id = some u ∧
      o.state.committed.aliases = db.committed.aliases.filter (·.id != u.render) ∧
      (o.state.committed.alias? n = none ↔ row.id = u.render) ∧
      (row.id = u.render →
        db.committed.Released o.state.committed n ∧
        (db.committed.Claims → ∀ m ∈ o.state.committed.names, m.name ≠ n) ∧
        d.aliases.length + 1 = (db.committed.aliasesOf p).length)) ∧
    (let o := db.call c supply ((ServiceCall.promote p n).dialogue reserved)
     ∀ d : Document, o.value = .ok d → ∃ row u, db.committed.alias? n = some row ∧
      row.document = p ∧ Uuid.parse? row.id = some u ∧
      ((∃ after, o.state.committed.alias? n = some after ∧ after.flag = 1) ↔
        row.flag = 1 ∨ row.id = u.render) ∧
      (d.primaryAlias?.map (·.name) = some n ↔ row.flag = 1 ∨ row.id = u.render) ∧
      ∀ q, q ≠ p → o.state.committed.aliasesOf q = db.committed.aliasesOf q) := by
  constructor
  · intro o d hvalue
    obtain ⟨fresh, hrun⟩ := runOn_of_remove hvalue
    obtain ⟨a, row, hrow, haliases, hgone, hcanonical⟩ := Work.deleteAlias_addresses h hrun
    refine ⟨row, a.id, hrow.found, hrow.owner, hrow.id, haliases, hgone, fun hid => ?_⟩
    obtain ⟨hreleased, hfewer⟩ := hcanonical hid
    exact ⟨hreleased, fun hclaims => hreleased.unclaimed hclaims hrow.mem hrow.name, hfewer⟩
  · intro o d hvalue
    obtain ⟨fresh, hrun⟩ := runOn_of_promote hvalue
    obtain ⟨a, row, hrow, hstored, hreturned, hothers⟩ := Work.promoteAlias_addresses h hrun
    exact ⟨row, a.id, hrow.found, hrow.owner, hrow.id, hstored, hreturned, hothers⟩

/-- A document in order whose second alias has its id in capitals; the third alias, if there is one,
has the same id in the canonical spelling. -/
def respelled (aliases : Nat) : Database :=
  let rows : List AliasRow :=
    [⟨"00000000-0000-0000-0000-000000000001", "a", "d", 1, 0⟩,
      ⟨"00000000-0000-0000-0000-00000000000A", "b", "d", 0, 1⟩,
      ⟨"00000000-0000-0000-0000-00000000000a", "c", "d", 0, 2⟩].take aliases
  { empty with
    committed :=
      { names := ⟨"d", "public_id"⟩ :: rows.map fun row => ⟨row.name, "alias"⟩
        documents := [⟨"d", 0, 0, 0⟩]
        aliases := rows
        onePrimary := true } }

theorem success_rests_on_spelling_respelled :
    (respelled 3).committed.Unique ∧
    (let o := (respelled 3).call 1 plainSupply ((ServiceCall.remove "d" "c").dialogue ⟨[]⟩)
     o.state.committed.alias? "c" = none ∧ ∀ m ∈ o.state.committed.names, m.name ≠ "c") ∧
    (let o := (respelled 3).call 1 plainSupply ((ServiceCall.promote "d" "b").dialogue ⟨[]⟩)
     ¬∃ after, o.state.committed.alias? "b" = some after ∧ after.flag = 1) := by
  have hunique : (respelled 3).committed.Unique := ⟨by decide, by decide, by decide⟩
  have hclaims : (respelled 3).committed.Claims := ⟨by decide, by decide⟩
  obtain ⟨hremove, -⟩ :=
    success_rests_on_spelling (respelled 3) hunique 1 plainSupply ⟨[]⟩ "d" "c"
  obtain ⟨-, hpromote⟩ :=
    success_rests_on_spelling (respelled 3) hunique 1 plainSupply ⟨[]⟩ "d" "b"
  refine ⟨hunique, ?_, ?_⟩
  · obtain ⟨row, u, hrow, -, hid, -, hgone, hcanonical⟩ := hremove _ rfl
    cases hrow
    have hu : (Uuid.parse? "00000000-0000-0000-0000-00000000000a").map Uuid.render
        = some "00000000-0000-0000-0000-00000000000a" := by decide
    rw [hid] at hu
    have hspelled := (Option.some.inj hu).symm
    exact ⟨hgone.2 hspelled, (hcanonical hspelled).2.1 hclaims⟩
  · obtain ⟨row, u, hrow, -, hid, hstored, -⟩ := hpromote _ rfl
    cases hrow
    have hu : (Uuid.parse? "00000000-0000-0000-0000-00000000000A").map Uuid.render
        = some "00000000-0000-0000-0000-00000000000a" := by decide
    rw [hid] at hu
    intro _ hprimary
    rcases hstored.1 hprimary with hflag | hspelled
    · exact absurd hflag (by decide)
    · exact absurd (hspelled.trans (Option.some.inj hu)) (by decide)

/-- **A success without effect.**  All rules of the store are kept, every id can be read and every
document is without fault.  The alias in capitals is removed with success and stays, and its document
has as many aliases as before.  Where another alias has the same id in the canonical spelling, it is
this one that goes or becomes primary. -/
theorem success_without_effect :
    (∀ k ∈ [2, 3], (respelled k).committed.Indexed ∧
      (∀ a ∈ (respelled k).committed.aliases, (Uuid.parse? a.id).isSome = true) ∧
      ∃ d, Rows.loadDocument (respelled k).committed "d" = .ok (some d)) ∧
    (let o := (respelled 2).call 1 plainSupply ((ServiceCall.remove "d" "b").dialogue ⟨[]⟩)
     ∃ d : Document, o.value = .ok d ∧ d.names = ["a", "b"] ∧
      o.state.committed.aliases = (respelled 2).committed.aliases) ∧
    (let o := (respelled 3).call 1 plainSupply ((ServiceCall.remove "d" "b").dialogue ⟨[]⟩)
     ∃ d : Document, o.value = .ok d ∧ d.names = ["a", "b"]) ∧
    (let o := (respelled 3).call 1 plainSupply ((ServiceCall.promote "d" "b").dialogue ⟨[]⟩)
     ∃ d : Document, o.value = .ok d ∧ d.primaryAlias?.map (·.name) = some "c") := by
  refine ⟨fun k hk => ?_, ⟨_, rfl, by decide, by decide⟩, ⟨_, rfl, by decide⟩, ⟨_, rfl, by decide⟩⟩
  have hk : k = 2 ∨ k = 3 := by simpa using hk
  rcases hk with rfl | rfl
  · exact ⟨⟨⟨by decide, by decide⟩, by decide, by decide, rfl, by decide⟩, by decide, ⟨_, rfl⟩⟩
  · exact ⟨⟨⟨by decide, by decide⟩, by decide, by decide, rfl, by decide⟩, by decide, ⟨_, rfl⟩⟩

end Database

end Namebook
