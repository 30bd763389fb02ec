/-
  Namebook.Proofs.Redaction
  ─────────────────────────
  **NAMES IN THE LOG — what a redacted error text shows of the name that it carries.**

  Redaction finds a name by its quotes.  An error text whose name is quoted and holds no backtick shows
  the length of the name and nothing else, whatever stands around it.  A backtick in the name ends the
  quote early, and an error that does not quote its name shows it in full.

    • `Text.disclosed` — what is left of a quoted name; `disclosed_eq_spanMark_iff`;
    • `Text.redactFrom_quoted` — redaction of a text around a quoted name;
    • `NamingError.names_show_unless_quoted` — the errors that carry a name;
    • `NamingError.names_in_the_log` — names that are shown.
-/
import Namebook.Text.Redaction
import Namebook.Proofs.Service.Client

namespace Namebook

namespace Text

/-! ## §1. Redaction, span by span. -/

/-- A text without a backtick. -/
def Unmarked (s : String) : Prop := quoteMark ∉ s.toList

instance (s : String) : Decidable (Unmarked s) := inferInstanceAs (Decidable (_ ∉ _))

variable {cs pre post name : List Char}

/-- Up to the first backtick everything stays. -/
theorem redactFrom_none_append (h : quoteMark ∉ pre) (cs : List Char) :
    redactFrom none (pre ++ cs) = pre ++ redactFrom none cs := by
  induction pre with
  | nil => rfl
  | cons c pre ih =>
    obtain ⟨hc, hpre⟩ := not_or.1 (mt List.mem_cons.2 h)
    rw [List.cons_append, redactFrom, if_neg (Ne.symm hc), ih hpre]
    rfl

theorem redactFrom_none_of_unmarked (h : quoteMark ∉ cs) : redactFrom none cs = cs := by
  have hall := redactFrom_none_append h []
  rw [List.append_nil] at hall
  rw [hall]
  exact List.append_nil cs

/-- A span that is never closed is put back. -/
theorem redactFrom_some_of_unmarked (span : List Char) (h : quoteMark ∉ cs) :
    redactFrom (some span) cs = quoteMark :: (span ++ cs) := by
  induction cs generalizing span with
  | nil => rw [redactFrom, List.append_nil]
  | cons c cs ih =>
    obtain ⟨hc, hcs⟩ := not_or.1 (mt List.mem_cons.2 h)
    rw [redactFrom, if_neg (Ne.symm hc), ih _ hcs, List.append_assoc]
    rfl

/-- A span ends at the next backtick. -/
theorem redactFrom_some_append (span : List Char) (h : quoteMark ∉ name) (cs : List Char) :
    redactFrom (some span) (name ++ quoteMark :: cs)
      = spanMark (span.length + name.length) ++ redactFrom none cs := by
  induction name generalizing span with
  | nil => rw [List.nil_append, redactFrom, if_pos rfl]; rfl
  | cons c name ih =>
    obtain ⟨hc, hname⟩ := not_or.1 (mt List.mem_cons.2 h)
    rw [List.cons_append, redactFrom, if_neg (Ne.symm hc), ih _ hname, List.length_append,
      List.length_singleton, List.length_cons, Nat.add_right_comm, Nat.add_assoc]

/-- What follows the last backtick of a text stays, be that backtick paired or not. -/
theorem redactFrom_append_unmarked (s : Option (List Char)) (cs : List Char) (h : quoteMark ∉ post) :
    redactFrom s (cs ++ quoteMark :: post) = redactFrom s (cs ++ [quoteMark]) ++ post := by
  -- the last backtick opens a span that is never closed, or closes the span under way
  induction cs generalizing s with
  | nil =>
    cases s with
    | none =>
      show redactFrom (some []) post = [quoteMark] ++ post
      exact redactFrom_some_of_unmarked [] h
    | some span =>
      show spanMark span.length ++ redactFrom none post = spanMark span.length ++ [] ++ post
      rw [redactFrom_none_of_unmarked h, List.append_nil]
  | cons c cs ih =>
    rw [List.cons_append, List.cons_append]
    cases s with
    | none =>
      rw [redactFrom, redactFrom]
      split
      · exact ih _
      · exact congrArg (c :: ·) (ih _)
    | some span =>
      rw [redactFrom, redactFrom]
      split
      · rw [ih, List.append_assoc]
      · exact ih _

/-! ## §2. A quoted name. -/

/-- **What redaction leaves of a quoted name**: the name without its opening, and with its closing quote
is redacted with a span under way. -/
def disclosed (name : List Char) : List Char :=
  redactFrom (some []) (name ++ [quoteMark])

/-- **Redaction of a text around a quoted name.**  The surroundings stay as they are. -/
theorem redactFrom_quoted (hpre : quoteMark ∉ pre) (hpost : quoteMark ∉ post) (name : List Char) :
    redactFrom none (pre ++ quoteMark :: (name ++ quoteMark :: post))
      = pre ++ disclosed name ++ post := by
  rw [redactFrom_none_append hpre, redactFrom, if_pos rfl, redactFrom_append_unmarked _ name hpost,
    List.append_assoc]
  rfl

/-- The digits of a mark can be told from what follows them. -/
theorem eq_of_spanMark_append {i j : Nat} {rest : List Char}
    (h : spanMark i ++ rest = spanMark j) : i = j := by
  -- a mark is a backtick, `<`, the digits and a blank, which is no digit
  have hdigits : ∀ (k : Nat) (tail : List Char),
      ((spanMark k ++ tail).drop 2).takeWhile Char.isDigit = Nat.toDigits 10 k := by
    intro k tail
    have hsplit : (spanMark k ++ tail).drop 2
        = Nat.toDigits 10 k ++ ' ' :: ("chars>".toList ++ quoteMark :: tail) := by
      unfold spanMark
      show (toString k).toList ++ " chars>".toList ++ [quoteMark] ++ tail = _
      rw [show (toString k).toList = Nat.toDigits 10 k from Nat.toList_repr]
      simp
    rw [hsplit, List.takeWhile_append_of_pos fun c hc =>
      Nat.isDigit_of_mem_toDigits (by decide) (by decide) hc]
    simp
  have hsame := hdigits i rest
  rw [h] at hsame
  have hj := hdigits j []
  rw [List.append_nil] at hj
  rw [← Nat.ofDigitChars_ten_toDigits (n := i), ← Nat.ofDigitChars_ten_toDigits (n := j), ← hsame, hj]

/-- **A quoted name is hidden but for its length exactly if it holds no backtick.** -/
theorem disclosed_eq_spanMark_iff : disclosed name = spanMark name.length ↔ quoteMark ∉ name := by
  constructor
  · intro h hmem
    -- up to its first backtick the name is taken for a span of its own
    obtain ⟨before, after, rfl, hbefore⟩ := List.eq_append_cons_of_mem hmem
    unfold disclosed at h
    rw [List.append_assoc, List.cons_append, redactFrom_some_append [] hbefore] at h
    have hlength := eq_of_spanMark_append h
    simp at hlength
  · intro h
    have hspan := redactFrom_some_append [] h []
    rw [List.length_nil, Nat.zero_add] at hspan
    unfold disclosed
    rw [hspan]
    exact List.append_nil _

end Text

/-! ## §3. The errors that carry a name. -/

/-- An error that carries a name given by a caller. -/
inductive NamingError where
  | forbidden
  | taken (conflict : NameKind)
  | aliasNotFound
  /-- A name that nothing answers to. -/
  | documentNotFound
  | primaryRemovalForbidden
  deriving DecidableEq

namespace NamingError

open Text

/-- The error about a name. -/
def error : NamingError → String → ServiceError
  | forbidden, n => .forbiddenName n
  | taken conflict, n => .alreadyExists n conflict
  | aliasNotFound, n => .aliasNotFound n
  | documentNotFound, n => .documentNotFound n
  | primaryRemovalForbidden, n => .primaryRemovalForbidden n

/-- Whether the text of an error quotes the name. -/
def quotes : NamingError → Bool
  | documentNotFound => false
  | _ => true

/-- The text of an error before the name and its quote. -/
def head : NamingError → String
  | taken .aliasName => "an alias named "
  | taken .publicId => "a document with public id "
  | documentNotFound => "document not found: "
  | _ => "alias "

/-- The text of an error after the name and its quote. -/
def tail : NamingError → String
  | forbidden => " is forbidden by the administrator"
  | taken _ => " already exists"
  | aliasNotFound => " not found"
  | documentNotFound => ""
  | primaryRemovalForbidden =>
    " is the primary alias and cannot be removed while other aliases exist"

theorem unmarked_head (v : NamingError) : Unmarked v.head := by
  cases v with
  | taken conflict => cases conflict <;> decide
  | _ => decide

theorem unmarked_tail (v : NamingError) : Unmarked v.tail := by
  cases v with
  | taken conflict =>
    show Unmarked " already exists"
    decide
  | _ => decide

/-- A quote that is spelled as part of the texts around it. -/
theorem toList_quoted {opening closing before after : String} (n : String)
    (hopening : opening.toList = before.toList ++ [quoteMark])
    (hclosing : closing.toList = quoteMark :: after.toList) :
    (opening ++ n ++ closing).toList
      = before.toList ++ quoteMark :: (n.toList ++ [quoteMark]) ++ after.toList := by
  rw [String.toList_append, String.toList_append, hopening, hclosing]
  simp

/-- **How an error text shows its name.** -/
theorem toList_message (v : NamingError) (n : String) :
    (v.error n).message.toList = v.head.toList ++
      (if v.quotes then quoteMark :: (n.toList ++ [quoteMark]) else n.toList) ++ v.tail.toList := by
  cases v with
  | forbidden => exact toList_quoted n (by decide) (by decide)
  | taken conflict =>
    cases conflict with
    | aliasName => exact toList_quoted n (by decide) (by decide)
    | publicId => exact toList_quoted n (by decide) (by decide)
  | aliasNotFound => exact toList_quoted n (by decide) (by decide)
  | primaryRemovalForbidden => exact toList_quoted n (by decide) (by decide)
  | documentNotFound =>
    show ("document not found: " ++ n).toList = "document not found: ".toList ++ n.toList ++ []
    rw [String.toList_append, List.append_nil]

/-- The payload of a text around an error. -/
def payload (v : NamingError) (pre post n : String) : String :=
  loggablePayload (pre ++ (v.error n).message ++ post)

/-- **The payload of a text around an error that quotes its name**: what is disclosed of the name, with
all that stands around it. -/
theorem payload_of_quotes {v : NamingError} {pre post : String} (hquotes : v.quotes = true)
    (hpre : Unmarked pre) (hpost : Unmarked post) (n : String) :
    v.payload pre post n = String.ofList (cut payloadLimit (onOneLine
      (pre.toList ++ v.head.toList ++ disclosed n.toList ++ (v.tail.toList ++ post.toList)))) := by
  have hbefore : quoteMark ∉ pre.toList ++ v.head.toList := fun h =>
    (List.mem_append.1 h).elim hpre v.unmarked_head
  have hafter : quoteMark ∉ v.tail.toList ++ post.toList := fun h =>
    (List.mem_append.1 h).elim v.unmarked_tail hpost
  rw [← redactFrom_quoted hbefore hafter]
  unfold payload loggablePayload
  rw [String.toList_append, String.toList_append, toList_message, if_pos hquotes]
  simp only [List.append_assoc, List.cons_append, List.nil_append]

/-- **The payload of a text around an error that does not quote its name** is that text, with the name in
full. -/
theorem payload_of_not_quotes {v : NamingError} {pre post n : String} (hquotes : v.quotes = false)
    (hpre : Unmarked pre) (hpost : Unmarked post) (hn : Unmarked n) :
    v.payload pre post n = String.ofList (cut payloadLimit (onOneLine
      (pre.toList ++ v.head.toList ++ n.toList ++ (v.tail.toList ++ post.toList)))) := by
  have hall : quoteMark ∉ pre.toList ++ v.head.toList ++ n.toList ++ (v.tail.toList ++ post.toList) := by
    simp only [List.mem_append, not_or]
    exact ⟨⟨⟨hpre, v.unmarked_head⟩, hn⟩, v.unmarked_tail, hpost⟩
  rw [← redactFrom_none_of_unmarked hall]
  unfold payload loggablePayload
  rw [String.toList_append, String.toList_append, toList_message, hquotes,
    if_neg Bool.false_ne_true]
  simp only [List.append_assoc]

/-- Unquoted names of one length are told apart. -/
theorem payload_documentNotFound_ne :
    documentNotFound.payload "" "" "alpha" ≠ documentNotFound.payload "" "" "gamma" := by
  rw [payload_of_not_quotes rfl (by decide) (by decide) (by decide),
    payload_of_not_quotes rfl (by decide) (by decide) (by decide)]
  intro h
  exact absurd (String.ofList_injective h) (by decide)

/-- A backtick in a quoted name shows what follows it. -/
theorem payload_aliasNotFound_ne :
    aliasNotFound.payload "" "" "a`b" ≠ aliasNotFound.payload "" "" "xyz" := by
  rw [payload_of_quotes rfl (by decide) (by decide), payload_of_quotes rfl (by decide) (by decide)]
  intro h
  exact absurd (String.ofList_injective h) (by decide)

/-! ## §4. What the log shows. -/

/-- **Names in the log.**  Names without a backtick that have the same length cannot be told apart by
the payload of a text around an error, whatever stands around it, exactly if the error quotes its name.
Of any name that is quoted the payload shows what is disclosed of it, and this is the length alone
exactly if the name holds no backtick.  A name that is not quoted is shown in full. -/
theorem names_show_unless_quoted (v : NamingError) :
    (v.quotes = true ↔ ∀ pre post n m : String, Unmarked pre → Unmarked post → Unmarked n →
      Unmarked m → n.length = m.length → v.payload pre post n = v.payload pre post m) ∧
    (∀ pre post n : String, v.quotes = true → Unmarked pre → Unmarked post →
      v.payload pre post n = String.ofList (cut payloadLimit (onOneLine
        (pre.toList ++ v.head.toList ++ disclosed n.toList ++ (v.tail.toList ++ post.toList))))) ∧
    (∀ n : String, disclosed n.toList = spanMark n.length ↔ Unmarked n) ∧
    (∀ pre post n : String, v.quotes = false → Unmarked pre → Unmarked post → Unmarked n →
      v.payload pre post n = String.ofList (cut payloadLimit (onOneLine
        (pre.toList ++ v.head.toList ++ n.toList ++ (v.tail.toList ++ post.toList))))) := by
  have hhidden : ∀ n : String, disclosed n.toList = spanMark n.length ↔ Unmarked n := by
    intro n
    rw [← String.length_toList]
    exact disclosed_eq_spanMark_iff
  refine ⟨⟨fun hquotes pre post n m hpre hpost hn hm hlength => ?_, fun hsame => ?_⟩,
    fun pre post n hquotes hpre hpost => payload_of_quotes hquotes hpre hpost n, hhidden,
    fun pre post n hquotes hpre hpost hn => payload_of_not_quotes hquotes hpre hpost hn⟩
  · rw [payload_of_quotes hquotes hpre hpost, payload_of_quotes hquotes hpre hpost,
      (hhidden n).2 hn, (hhidden m).2 hm, hlength]
  · cases v with
    | documentNotFound =>
      -- two names of five letters that an unquoted text shows
      have hequal := hsame "" "" "alpha" "gamma" (by decide) (by decide) (by decide) (by decide)
        (by decide)
      exact absurd hequal payload_documentNotFound_ne
    | _ => rfl

/-- Two names of eight characters in the text of a crash; what a backtick in a name uncovers; and what
is shown of a name that is not quoted. -/
theorem names_show_unless_quoted_weekly :
    aliasNotFound.payload "could not rename: " "!" "weekly-1"
      = aliasNotFound.payload "could not rename: " "!" "weekly-2" ∧
    aliasNotFound.payload "" "" "a`b" = "alias `<1 chars>`b` not found" ∧
    disclosed "a`b".toList ≠ spanMark 3 ∧
    documentNotFound.payload "" "" "alpha" = "document not found: alpha" := by
  obtain ⟨hhidden, hshown, hlength, -⟩ := names_show_unless_quoted aliasNotFound
  obtain ⟨-, -, -, hfull⟩ := names_show_unless_quoted documentNotFound
  refine ⟨?_, ?_, ?_, ?_⟩
  · exact hhidden.1 rfl "could not rename: " "!" "weekly-1" "weekly-2" (by decide)
      (by decide) (by decide) (by decide) (by decide)
  · rw [hshown "" "" "a`b" rfl (by decide) (by decide)]
    decide
  · intro h
    exact absurd ((hlength "a`b").1 h) (by decide)
  · rw [hfull "" "" "alpha" rfl (by decide) (by decide) (by decide)]
    decide

/-- **Names that are shown.**  Looking up a name that nothing answers to fails with an error that shows
the name, so two such names of one length are told apart; and a backtick in a quoted name shows what
follows it. -/
theorem names_in_the_log :
    (∀ n ∈ ["alpha", "gamma"], (Database.empty.call 1 Database.plainSupply
      ((ServiceCall.resolve n).dialogue ⟨[]⟩)).value = .error (documentNotFound.error n)) ∧
    "alpha".length = "gamma".length ∧
    documentNotFound.payload "" "" "alpha" ≠ documentNotFound.payload "" "" "gamma" ∧
    "a`b".length = "xyz".length ∧
    aliasNotFound.payload "" "" "a`b" ≠ aliasNotFound.payload "" "" "xyz" := by
  refine ⟨?_, by decide, payload_documentNotFound_ne, by decide, payload_aliasNotFound_ne⟩
  intro n hn
  simp only [List.mem_cons, List.not_mem_nil, or_false] at hn
  rcases hn with rfl | rfl
  · rfl
  · rfl

end NamingError

end Namebook
