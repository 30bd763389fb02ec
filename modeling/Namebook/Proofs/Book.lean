/-
  Namebook.Proofs.Book
  ────────────────────
  **WHAT A STORE IS, AND WHAT ITS SERVICES PROMISE — without tables.**

  A book has one entry per document: its public id, its version, the names of its aliases in order,
  and which one is primary.  Each service call is a function on books that says what is answered and
  what the book is afterwards.

    • `Book.add`, `remove`, `promote`, `view`, `resolve` — the promise;
    • `Tables.book` — the book of some tables;
    • `find_book`, `owner_book`, … — look-ups in a book are look-ups in its tables.
-/
import Namebook.Service.Error
import Namebook.NameList
import Namebook.Proofs.Store.Order
import Namebook.Proofs.Repository.Loading

namespace Namebook

/-! ## §1. Books. -/

/-- A document, as far as clients are told. -/
structure Entry where
  publicId : String
  version : Int
  /-- The names of the aliases in their order. -/
  names : List String
  /-- The name of the primary alias. -/
  primary : Option String
  deriving DecidableEq

/-- The documents of a store, one entry each. -/
abbrev Book := List Entry

namespace Book

/-- The entry of a document. -/
def find (b : Book) (publicId : String) : Option Entry :=
  List.find? (·.publicId == publicId) b

/-- The entry of the document that has an alias. -/
def owner (b : Book) (name : String) : Option Entry :=
  List.find? (·.names.contains name) b

/-- The book with another entry for a document. -/
def put (b : Book) (e : Entry) : Book :=
  b.map fun x => if x.publicId == e.publicId then e else x

/-! ## §2. The calls. -/

/-- An answer, and the book after it. -/
abbrev Reply := Except ServiceError Entry × Book

/-- Appends a free name to a document.  It comes last, and is primary if it is the first. -/
def append (b : Book) (publicId name : String) : Reply :=
  match b.find publicId with
  | none => (.error (.documentNotFound publicId), b)
  | some e =>
    let e' := { e with
      version := e.version + 1
      names := e.names ++ [name]
      primary := if e.names = [] then some name else e.primary }
    (.ok e', b.put e')

/-- Whether a name is fit and free, or the first reason why not. -/
def check (reserved : ReservedNames) (b : Book) (name : String) : Except ServiceError Unit :=
  if Text.isBlank name then .error .invalidName
  else if reserved.contains name then .error (.forbiddenName name)
  else if (b.owner name).isSome then .error (.alreadyExists name .aliasName)
  else if (b.find name).isSome then .error (.alreadyExists name .publicId)
  else .ok ()

/-- **Adding an alias.** -/
def add (reserved : ReservedNames) (b : Book) (publicId name : String) : Reply :=
  match b.check reserved name with
  | .error e => (.error e, b)
  | .ok () => b.append publicId name

/-- **Removing an alias.**  A primary one only goes if it is the last. -/
def remove (b : Book) (publicId name : String) : Reply :=
  match b.find publicId with
  | none => (.error (.documentNotFound publicId), b)
  | some e =>
    if name ∉ e.names then (.error (.aliasNotFound name), b)
    else if e.primary = some name ∧ e.names.length > 1 then
      (.error (.primaryRemovalForbidden name), b)
    else
      let e' := { e with
        version := e.version + 1
        names := e.names.filter (· != name)
        primary := if e.primary = some name then none else e.primary }
      (.ok e', b.put e')

/-- **Making an alias primary.**  Nothing changes if it is. -/
def promote (b : Book) (publicId name : String) : Reply :=
  match b.find publicId with
  | none => (.error (.documentNotFound publicId), b)
  | some e =>
    if name ∉ e.names then (.error (.aliasNotFound name), b)
    else if e.primary = some name then (.ok e, b)
    else
      let e' := { e with version := e.version + 1, primary := some name }
      (.ok e', b.put e')

/-- **Showing an alias**, with the public id that the caller names. -/
def view (b : Book) (publicId name : String) : Except ServiceError AliasView :=
  match b.owner name with
  | none => .error (.aliasNotFound name)
  | some e => .ok { name, primary := e.primary == some name, publicId }

/-- **Resolving a public id or an alias**, the public id first. -/
def resolve (b : Book) (name : String) : Except ServiceError Entry :=
  match b.find name with
  | some e => .ok e
  | none =>
    match b.owner name with
    | some e => .ok e
    | none => .error (.documentNotFound name)

/-- A first alias is primary, the second one comes last, and the first cannot go before it. -/
example :
    let b : Book := [⟨"d", 0, [], none⟩]
    let b₁ := (b.add ⟨[]⟩ "d" "x").2
    let b₂ := (b₁.add ⟨[]⟩ "d" "y").2
    b₂ = [⟨"d", 2, ["x", "y"], some "x"⟩] ∧
      (b₂.remove "d" "x").1 = .error (.primaryRemovalForbidden "x") := ⟨rfl, rfl⟩

end Book

/-! ## §3. The book of a store. -/

/-- The entry of a loaded document. -/
def Document.entry (d : Document) : Entry :=
  { publicId := d.publicId
    version := d.version.toInt
    names := d.names
    primary := d.primaryAlias?.map (·.name) }

namespace Tables

/-- The aliases of a document in their order. -/
def listed (t : Tables) (publicId : String) : List AliasRow :=
  sortRows (t.aliasesOf publicId)

/-- The entry of a document row. -/
def entry (t : Tables) (row : DocumentRow) : Entry :=
  { publicId := row.publicId
    version := row.version.toInt
    names := (t.listed row.publicId).map (·.name)
    primary := ((t.listed row.publicId).find? (·.flag == 1)).map (·.name) }

/-- **The book of some tables.** -/
def book (t : Tables) : Book :=
  t.documents.map t.entry

theorem entry_documentOf (t : Tables) (row : DocumentRow) :
    (t.documentOf row).entry = t.entry row := by
  have hnames : (t.documentOf row).names = (t.listed row.publicId).map (·.name) := by
    show (((t.listed row.publicId).map AliasRow.decoded).map fun x => x.name) = _
    rw [List.map_map]
    rfl
  have hprimary : (t.documentOf row).primaryAlias?.map (·.name)
      = ((t.listed row.publicId).find? (·.flag == 1)).map (·.name) := by
    show (((t.listed row.publicId).map AliasRow.decoded).find? fun x => x.primary).map _ = _
    rw [List.find?_map, Option.map_map]
    rfl
  unfold Document.entry entry
  rw [hnames, hprimary]
  rfl

theorem mem_listed {t : Tables} {p : String} {a : AliasRow} :
    a ∈ t.listed p ↔ a ∈ t.aliases ∧ a.document = p :=
  mem_sortRows.trans mem_aliasesOf

/-- A book is searched as its documents are. -/
theorem find_book (t : Tables) (p : String) : t.book.find p = (t.document? p).map t.entry := by
  unfold Book.find book
  rw [List.find?_map]
  rfl

theorem mem_names_entry {t : Tables} {row : DocumentRow} {n : String} :
    n ∈ (t.entry row).names ↔ ∃ a ∈ t.aliases, a.document = row.publicId ∧ a.name = n := by
  unfold entry
  rw [List.mem_map]
  constructor
  · rintro ⟨a, ha, hname⟩
    obtain ⟨hmem, hdoc⟩ := mem_listed.1 ha
    exact ⟨a, hmem, hdoc, hname⟩
  · rintro ⟨a, hmem, hdoc, hname⟩
    exact ⟨a, mem_listed.2 ⟨hmem, hdoc⟩, hname⟩

/-- The names of an entry are those of the aliases, so the owner of a name is that of its alias. -/
theorem owner_book {t : Tables} (h : t.Claims) (n : String) :
    t.book.owner n = (t.alias? n).bind fun a => (t.document? a.document).map t.entry := by
  unfold Book.owner book
  rw [List.find?_map]
  cases ha : t.alias? n with
  | none =>
    have hnone := find?_key_eq_none_iff.1 ha
    have hfind : t.documents.find? ((fun e : Entry => e.names.contains n) ∘ t.entry) = none := by
      rw [List.find?_eq_none]
      intro row _ hmem
      obtain ⟨a, hmem, -, hname⟩ := mem_names_entry.1 (List.contains_iff_mem.1 hmem)
      exact hnone a hmem hname
    rw [hfind]
    rfl
  | some a =>
    obtain ⟨hmem, hname⟩ := mem_of_alias? ha
    -- names are unique, so only the entry of the owner has this one
    have hpred : ((fun e : Entry => e.names.contains n) ∘ t.entry)
        = fun row => row.publicId == a.document := by
      funext row
      rw [Function.comp, Bool.eq_iff_iff, List.contains_iff_mem, mem_names_entry, beq_iff_eq]
      constructor
      · rintro ⟨b, hb, hdoc, hbname⟩
        rw [← hdoc, eq_of_key_eq h.aliasNames hb hmem (hbname.trans hname.symm)]
      · intro hdoc
        exact ⟨a, hmem, hdoc.symm, hname⟩
    rw [hpred]
    rfl

theorem isSome_owner_book {t : Tables} (h : t.Indexed) (n : String) :
    (t.book.owner n).isSome = (t.alias? n).isSome := by
  rw [owner_book h.toClaims]
  exact h.isSome_owner n t.entry

theorem isSome_find_book (t : Tables) (p : String) :
    (t.book.find p).isSome = (t.document? p).isSome := by
  rw [find_book, Option.isSome_map]

/-- The primary alias of an entry is the document's row with its flag set. -/
theorem primary_entry {t : Tables} (h : t.Indexed) {row : DocumentRow} {n : String} :
    (t.entry row).primary = some n ↔
      ∃ a ∈ t.aliases, a.document = row.publicId ∧ a.flag = 1 ∧ a.name = n := by
  unfold entry
  rw [Option.map_eq_some_iff]
  constructor
  · rintro ⟨a, ha, hname⟩
    obtain ⟨hmem, hdoc⟩ := mem_listed.1 (List.mem_of_find?_eq_some ha)
    have hset := List.find?_some ha
    exact ⟨a, hmem, hdoc, beq_iff_eq.1 hset, hname⟩
  · rintro ⟨a, hmem, hdoc, hset, hname⟩
    have hlisted := mem_listed.2 ⟨hmem, hdoc⟩
    cases hfind : (t.listed row.publicId).find? (·.flag == 1) with
    | none =>
      have hno := List.find?_eq_none.1 hfind a hlisted
      exact absurd (beq_iff_eq.2 hset) hno
    | some b =>
      -- the first row with its flag set is the only one
      obtain ⟨hbmem, hbdoc⟩ := mem_listed.1 (List.mem_of_find?_eq_some hfind)
      have hbset := List.find?_some hfind
      have hba := h.eq_of_primary hbmem hmem (hbdoc.trans hdoc.symm) (beq_iff_eq.1 hbset) hset
      exact ⟨b, rfl, hba ▸ hname⟩

end Tables

end Namebook
