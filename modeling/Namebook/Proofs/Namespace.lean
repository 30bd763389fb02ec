/-
  Namebook.Proofs.Namespace
  ─────────────────────────
  **ONE NAMESPACE — no run gives a name to two holders.**

  Any clients may act in any order: services, repositories, and other programs that insert, delete
  and edit rows of documents and aliases under the rules of the store.  As long as nobody edits the
  name index itself or drops the index of primary aliases, the name index is exactly the list of
  public ids and alias names, in the committed tables and in every open transaction.

    • `index_after` — the name index, owners and primaries in every reachable state, and rows that
      keep what they are known by from one state to the next.
-/
import Namebook.Proofs.History
import Namebook.Proofs.Repository.Effect

namespace Namebook

/-- Events of clients that keep to the rules and leave the indexes alone. -/
def Event.sparesIndex : Event → Bool
  | change _ rules ch => decide (rules = Rules.all) && ch.sparesIndex
  | _ => true

namespace Event

open Tables

theorem indexed_grants {fresh : Fresh} {r : Request} {t t' : Tables} (h : t.Indexed)
    (hgrants : Grants fresh r t t') : t'.Indexed := by
  obtain ⟨w, d, hwork, hrun⟩ := hgrants
  exact h.granted hwork hrun

theorem rowsLive_grants {fresh : Fresh} {r : Request} {t t' : Tables}
    (hgrants : Grants fresh r t t') : t.RowsLive t' := by
  obtain ⟨w, d, hwork, hrun⟩ := hgrants
  exact rowsLive_granted hwork hrun

/-- **What such an event writes obeys the rules again.** -/
theorem indexed_writes {e : Event} {t t' : Tables} (hspare : e.sparesIndex = true)
    (h : t.Indexed) (hwrites : e.Writes t t') : t'.Indexed := by
  cases e with
  | call c reserved supply s =>
    obtain ⟨r, k, -, hgrants⟩ := hwrites
    exact indexed_grants h hgrants
  | request c fresh r => exact indexed_grants h hwrites
  | change c rules ch =>
    obtain ⟨hrules, hch⟩ := Bool.and_eq_true_iff.1 hspare
    obtain ⟨n, rules', hrules', hok⟩ := hwrites
    have hall : rules' = Rules.all := by
      rw [of_decide_eq_true hrules] at hrules'
      rcases hrules' with h | h <;> exact h
    subst hall
    exact h.change hch hok
  | _ => exact absurd hwrites id

/-- Whatever an event writes, it renames and moves no row. -/
theorem rowsLive_writes {e : Event} {t t' : Tables} (hwrites : e.Writes t t') : t.RowsLive t' := by
  cases e with
  | call c reserved supply s =>
    obtain ⟨r, k, -, hgrants⟩ := hwrites
    exact rowsLive_grants hgrants
  | request c fresh r => exact rowsLive_grants hwrites
  | change c rules ch =>
    obtain ⟨n, rules', -, hok⟩ := hwrites
    exact rowsLive_change hok
  | _ => exact absurd hwrites id

end Event

namespace Database

open Tables

/-- **The namespace of every reachable state.**  The name index holds one row per public id and one
per alias and nothing else; no string is a public id and an alias, or an alias twice; owners exist;
no document has two primary aliases.  And no further event changes the public id of a document row,
or the name or the owner of an alias row: it relates the tables that writers find before and after
it, or else it takes back a transaction and leaves the committed tables alone. -/
theorem index_after (events : List Event) (hspare : ∀ e ∈ events, e.sparesIndex = true) :
    (empty.after events).Holds (fun t =>
      t.names.Perm (t.documents.map documentEntry ++ t.aliases.map aliasEntry) ∧
      t.documents.Pairwise (fun d e => d.publicId ≠ e.publicId) ∧
      (∀ d ∈ t.documents, ∀ a ∈ t.aliases, d.publicId ≠ a.name) ∧
      t.aliases.Pairwise (fun a b => a.name ≠ b.name) ∧
      (∀ a ∈ t.aliases, t.hasDocument a.document = true) ∧
      (∀ p, (t.aliasesOf p).countP (·.flag == 1) ≤ 1)) ∧
    ∀ e : Event,
      (empty.after events).current.RowsLive (e.apply (empty.after events)).current ∨
      ((e.apply (empty.after events)).committed = (empty.after events).committed ∧
        (e.apply (empty.after events)).held = none) := by
  constructor
  · have hindexed : (empty.after events).Holds Indexed := by
      refine holds_after (holds_empty Indexed.empty) ?_
      intro e he t t' h hwrites
      exact Event.indexed_writes (hspare e he) h hwrites
    refine hindexed.mono fun t h => ?_
    refine ⟨h.entries, h.publicIds, ?_, h.aliasNames, h.owners, h.primaries_le_one⟩
    intro d hd a ha
    exact h.publicId_ne_name hd ha
  · intro e
    have hstep := (e.steps_apply (empty.after events)).current RowsLive.refl
      fun t t' hwrites => Event.rowsLive_writes hwrites
    rcases hstep with hlive | ⟨hcommitted, hheld⟩
    · exact Or.inl hlive
    · exact Or.inr ⟨hcommitted, Option.map_eq_none_iff.1 hheld⟩

/-- A client of the library; another program that adds an alias under an id that is none, clears all
primaries, and tries to rename; a client that cannot read the document now; and both again. -/
def mixedRun : List Event :=
  [.request 1 ⟨⟨7⟩, 5⟩ (.createDocument "d" (some "a")),
   .change 2 Rules.all (.insertAlias ⟨"own id", "b", "d", 0, 9⟩),
   .change 2 Rules.all (.clearPrimaries "d"),
   .change 2 Rules.all (.renameAlias "a" "z"),
   .call 1 ⟨[]⟩ plainSupply (.remove "d" "a"),
   .change 2 Rules.all (.deleteAlias "b"),
   .call 1 ⟨[]⟩ plainSupply (.promote "d" "a"),
   .call 1 ⟨[]⟩ plainSupply (.add "d" "c")]

theorem index_after_mixedRun :
    (empty.after mixedRun).committed.names.Perm
      [⟨"d", "public_id"⟩, ⟨"a", "alias"⟩, ⟨"c", "alias"⟩] := by
  have hrows : (empty.after mixedRun).committed.documents.map documentEntry ++
      (empty.after mixedRun).committed.aliases.map aliasEntry
        = [⟨"d", "public_id"⟩, ⟨"a", "alias"⟩, ⟨"c", "alias"⟩] := by decide +kernel
  rw [← hrows]
  exact (index_after mixedRun (by decide)).1.1.1

end Database

end Namebook
