/-
  Namebook.Proofs.Spans
  ─────────────────────
  **SPANS OF A MESSAGE — what redaction keeps, and what a payload shows.**

  A message is read from the left as passages, each a text and the span that the next two backticks
  close, and a rest with one backtick at most.  There is one reading of every message.  Redaction shows
  its outline, which is all of it but the contents of the spans, and shows it in full.

    • `Reading` — a message by its closed spans; `existsUnique_reading`;
    • `redactFrom_text` — redaction passage by passage;
    • `redacted_eq_iff` — what two redactions have in common;
    • `payload_shows_outline` — redaction and payload of every message.
-/
import Namebook.Proofs.Redaction

namespace Namebook

namespace Text

/-! ## §1. Readings. -/

/-- A closed span and the text before it. -/
@[ext]
structure Passage where
  before : List Char
  span : List Char
  before_unmarked : quoteMark ∉ before
  span_unmarked : quoteMark ∉ span

/-- **A message by its closed spans.**  In the rest no two backticks are left to be paired. -/
@[ext]
structure Reading where
  passages : List Passage
  rest : List Char
  rest_unpaired : rest.count quoteMark ≤ 1

namespace Passage

/-- The passage as it stands in the message. -/
def text (p : Passage) : List Char := p.before ++ quoteMark :: (p.span ++ [quoteMark])

/-- The passage with its span replaced by the length of the span. -/
def redacted (p : Passage) : List Char := p.before ++ spanMark p.span.length

/-- What a passage shows but for the content of its span. -/
def outline (p : Passage) : List Char × Nat := (p.before, p.span.length)

theorem count_text (p : Passage) : p.text.count quoteMark = 2 := by
  unfold text
  rw [List.count_append, List.count_cons_self, List.count_append,
    List.count_eq_zero_of_not_mem p.before_unmarked, List.count_eq_zero_of_not_mem p.span_unmarked]
  rfl

/-- **A passage is redacted on its own.** -/
theorem redactFrom_text_append (p : Passage) (cs : List Char) :
    redactFrom none (p.text ++ cs) = p.redacted ++ redactFrom none cs := by
  have hspan := redactFrom_some_append [] p.span_unmarked cs
  rw [List.length_nil, Nat.zero_add] at hspan
  unfold text redacted
  rw [List.append_assoc, List.append_assoc, redactFrom_none_append p.before_unmarked, List.cons_append,
    redactFrom, if_pos rfl, List.append_assoc, List.singleton_append, hspan]

end Passage

namespace Reading

/-- The message. -/
def text (r : Reading) : List Char := r.passages.flatMap Passage.text ++ r.rest

/-- The message with the length of each closed span in its place. -/
def redacted (r : Reading) : List Char := r.passages.flatMap Passage.redacted ++ r.rest

/-- **What a message shows but for the contents of its closed spans.** -/
def outline (r : Reading) : List (List Char × Nat) × List Char :=
  (r.passages.map Passage.outline, r.rest)

/-- Puts a passage in front. -/
def cons (p : Passage) (r : Reading) : Reading := { r with passages := p :: r.passages }

theorem text_cons (p : Passage) (r : Reading) : (r.cons p).text = p.text ++ r.text :=
  List.append_assoc ..

end Reading

/-! ## §2. Every message has one reading. -/

/-- A list is split in one way only at the first place of an element. -/
theorem append_cons_inj_of_notMem_left {as bs as' bs' : List Char} {c : Char} (has : c ∉ as)
    (has' : c ∉ as') (h : as ++ c :: bs = as' ++ c :: bs') : as = as' ∧ bs = bs' := by
  rcases List.append_eq_append_iff.1 h with ⟨cs, rfl, hcs⟩ | ⟨cs, rfl, hcs⟩
  · cases cs with
    | nil => exact ⟨(List.append_nil as).symm, (List.cons.inj hcs).2⟩
    | cons d cs =>
      refine absurd ?_ has'
      rw [(List.cons.inj hcs).1]
      exact List.mem_append_right as List.mem_cons_self
  · cases cs with
    | nil => exact ⟨List.append_nil as', (List.cons.inj hcs).2.symm⟩
    | cons d cs =>
      refine absurd ?_ has
      rw [(List.cons.inj hcs).1]
      exact List.mem_append_right as' List.mem_cons_self

/-- With two backticks at least there is a first passage. -/
theorem exists_passage {cs : List Char} (h : 1 < cs.count quoteMark) :
    ∃ (p : Passage) (tail : List Char), cs = p.text ++ tail := by
  have hfirst : quoteMark ∈ cs := List.count_pos_iff.1 (Nat.lt_of_succ_lt h)
  obtain ⟨before, tail, rfl, hbefore⟩ := List.eq_append_cons_of_mem hfirst
  rw [List.count_append, List.count_cons_self, List.count_eq_zero_of_not_mem hbefore] at h
  have hsecond : quoteMark ∈ tail := List.count_pos_iff.1 (by omega)
  obtain ⟨span, tail, rfl, hspan⟩ := List.eq_append_cons_of_mem hsecond
  refine ⟨⟨before, span, hbefore, hspan⟩, tail, ?_⟩
  unfold Passage.text
  simp only [List.append_assoc, List.cons_append, List.nil_append]

theorem exists_reading (cs : List Char) : ∃ r : Reading, r.text = cs := by
  -- the passages are taken off the front, as long as there are two backticks
  by_cases hpaired : cs.count quoteMark ≤ 1
  · exact ⟨⟨[], cs, hpaired⟩, rfl⟩
  · obtain ⟨p, tail, htail⟩ := exists_passage (Nat.lt_of_not_le hpaired)
    have hshorter : tail.length < cs.length := by
      rw [htail, List.length_append]
      unfold Passage.text
      simp only [List.length_append, List.length_cons]
      omega
    obtain ⟨r, hr⟩ := exists_reading tail
    exact ⟨r.cons p, by rw [Reading.text_cons, hr, htail]⟩
termination_by cs.length

namespace Passage

/-- The first passage of a message can be told from what follows it. -/
theorem text_append_inj {p p' : Passage} {cs cs' : List Char} (h : p.text ++ cs = p'.text ++ cs') :
    p = p' ∧ cs = cs' := by
  unfold text at h
  simp only [List.append_assoc, List.cons_append, List.nil_append] at h
  obtain ⟨hbefore, hafter⟩ := append_cons_inj_of_notMem_left p.before_unmarked p'.before_unmarked h
  obtain ⟨hspan, hrest⟩ := append_cons_inj_of_notMem_left p.span_unmarked p'.span_unmarked hafter
  exact ⟨Passage.ext hbefore hspan, hrest⟩

/-- A text with one backtick at most does not begin with a passage. -/
theorem ne_text_append {cs : List Char} (h : cs.count quoteMark ≤ 1) (p : Passage)
    (tail : List Char) : cs ≠ p.text ++ tail := by
  rintro rfl
  rw [List.count_append, p.count_text] at h
  omega

end Passage

namespace Reading

/-- **A message has one reading.** -/
theorem text_injective : Function.Injective text := by
  rintro ⟨ps, rest, hrest⟩ ⟨ps', rest', hrest'⟩ h
  induction ps generalizing ps' with
  | nil =>
    cases ps' with
    | nil => exact Reading.ext rfl h
    | cons p' ps' =>
      have hfirst : rest = p'.text ++ (ps'.flatMap Passage.text ++ rest') :=
        h.trans (List.append_assoc ..)
      exact absurd hfirst (Passage.ne_text_append hrest p' _)
  | cons p ps ih =>
    cases ps' with
    | nil =>
      have hfirst : rest' = p.text ++ (ps.flatMap Passage.text ++ rest) :=
        h.symm.trans (List.append_assoc ..)
      exact absurd hfirst (Passage.ne_text_append hrest' p _)
    | cons p' ps' =>
      have hboth : p.text ++ (ps.flatMap Passage.text ++ rest)
          = p'.text ++ (ps'.flatMap Passage.text ++ rest') :=
        (List.append_assoc ..).symm.trans (h.trans (List.append_assoc ..))
      obtain ⟨rfl, htail⟩ := Passage.text_append_inj hboth
      exact congrArg (cons p) (ih ps' htail)

end Reading

/-! ## §3. Redaction. -/

/-- A rest stays as it is. -/
theorem redactFrom_of_unpaired {cs : List Char} (h : cs.count quoteMark ≤ 1) :
    redactFrom none cs = cs := by
  by_cases hmem : quoteMark ∈ cs
  · obtain ⟨before, after, rfl, hbefore⟩ := List.eq_append_cons_of_mem hmem
    rw [List.count_append, List.count_cons_self] at h
    have hafter : quoteMark ∉ after := List.count_eq_zero.1 (by omega)
    rw [redactFrom_none_append hbefore, redactFrom, if_pos rfl, redactFrom_some_of_unmarked [] hafter,
      List.nil_append]
  · exact redactFrom_none_of_unmarked hmem

namespace Reading

/-- **Redaction goes passage by passage** and leaves the rest alone. -/
theorem redactFrom_text (r : Reading) : redactFrom none r.text = r.redacted := by
  obtain ⟨ps, rest, hrest⟩ := r
  induction ps with
  | nil => exact redactFrom_of_unpaired hrest
  | cons p ps ih =>
    show redactFrom none (p.text ++ ps.flatMap Passage.text ++ rest)
      = p.redacted ++ ps.flatMap Passage.redacted ++ rest
    rw [List.append_assoc, List.append_assoc, p.redactFrom_text_append]
    exact congrArg (p.redacted ++ ·) ih

theorem redactNames_of_text {r : Reading} {message : String} (h : r.text = message.toList) :
    (redactNames message).toList = r.redacted := by
  unfold redactNames
  rw [String.toList_ofList, ← h, redactFrom_text]

end Reading

/-! ## §4. Two redactions. -/

/-- What stands between the backticks of a mark. -/
def markSpan (n : Nat) : List Char := '<' :: (toString n).toList ++ " chars>".toList

theorem markSpan_unmarked (n : Nat) : quoteMark ∉ markSpan n := by
  intro h
  rcases List.mem_append.1 h with h | h
  · rcases List.mem_cons.1 h with h | h
    · exact absurd h (by decide)
    · have hdigit : quoteMark.isDigit = true :=
        Nat.isDigit_of_mem_toDigits (by decide) (by decide) (Nat.toList_repr ▸ h)
      exact absurd hdigit (by decide)
  · exact absurd h (by decide)

theorem markSpan_injective : Function.Injective markSpan := by
  intro i j h
  have hmark : ∀ n, spanMark n = quoteMark :: (markSpan n ++ [quoteMark]) := fun n => rfl
  have hsame : spanMark i ++ [] = spanMark j := by rw [List.append_nil, hmark, hmark, h]
  exact eq_of_spanMark_append hsame

namespace Passage

/-- The passage that redaction makes of a passage. -/
def masked (p : Passage) : Passage where
  before := p.before
  span := markSpan p.span.length
  before_unmarked := p.before_unmarked
  span_unmarked := markSpan_unmarked _

theorem masked_eq_iff {p p' : Passage} : p.masked = p'.masked ↔ p.outline = p'.outline := by
  unfold masked outline
  rw [Passage.mk.injEq, Prod.mk.injEq, markSpan_injective.eq_iff]

theorem map_masked_eq_iff {ps ps' : List Passage} :
    ps.map masked = ps'.map masked ↔ ps.map outline = ps'.map outline := by
  induction ps generalizing ps' with
  | nil => cases ps' <;> simp
  | cons p ps ih =>
    cases ps' with
    | nil => simp
    | cons p' ps' =>
      rw [List.map_cons, List.map_cons, List.map_cons, List.map_cons, List.cons.injEq,
        List.cons.injEq, masked_eq_iff, ih]

end Passage

namespace Reading

variable {r r' : Reading}

/-- The reading of a redacted message. -/
def masked (r : Reading) : Reading := { r with passages := r.passages.map Passage.masked }

theorem text_masked (r : Reading) : r.masked.text = r.redacted := by
  unfold text masked redacted
  -- passage by passage this is the definition: the mark of a span has its own two backticks
  rw [List.flatMap_map]
  rfl

/-- **Redaction shows the outline and nothing else**: two redactions are equal exactly if the outlines
are. -/
theorem redacted_eq_iff : r.redacted = r'.redacted ↔ r.outline = r'.outline := by
  rw [← text_masked, ← text_masked, text_injective.eq_iff]
  unfold masked outline
  rw [Reading.mk.injEq, Prod.mk.injEq]
  exact and_congr_left fun _ => Passage.map_masked_eq_iff

end Reading

/-! ## §5. Payloads. -/

/-- A text on one line has no line break. -/
theorem not_mem_onOneLine {cs : List Char} {c : Char} (hc : c = '\n' ∨ c = '\r') :
    c ∉ onOneLine cs := by
  intro h
  obtain ⟨d, -, hd⟩ := List.mem_map.1 h
  split at hd
  · subst hd
    exact absurd hc (by decide)
  next hd' => exact hd' (hd ▸ hc)

/-- A cut text has the characters of the text and perhaps three dots. -/
theorem mem_of_mem_cut {limit : Nat} {cs : List Char} {c : Char} (h : c ∈ cut limit cs) :
    c ∈ cs ∨ c = '.' := by
  unfold cut at h
  split at h
  · exact Or.inl h
  · rcases List.mem_append.1 h with h | h
    · exact Or.inl (List.mem_of_mem_take h)
    · have hdots : "...".toList = List.replicate 3 '.' := by decide
      exact Or.inr (List.eq_of_mem_replicate (hdots ▸ h))

theorem length_cut_le (limit : Nat) (cs : List Char) : (cut limit cs).length ≤ limit + 3 := by
  unfold cut
  split
  next h => omega
  next h =>
    rw [List.length_append, List.length_take]
    exact Nat.add_le_add_right (Nat.min_le_left _ _) 3

/-- The payload of a message is what redaction leaves, on one line and cut. -/
theorem toList_loggablePayload (message : String) :
    (loggablePayload message).toList = cut 160 (onOneLine (redactNames message).toList) := by
  unfold loggablePayload redactNames
  rw [String.toList_ofList, String.toList_ofList]
  rfl

theorem loggablePayload_unbroken (message : String) {c : Char} (hc : c = '\n' ∨ c = '\r') :
    c ∉ (loggablePayload message).toList := by
  rw [toList_loggablePayload]
  intro h
  rcases mem_of_mem_cut h with h | rfl
  · exact not_mem_onOneLine hc h
  · exact absurd hc (by decide)

/-! ## §6. Every message. -/

/-- **Redaction and payload of every message.**  A message has one reading.  Its redaction has the
length of each closed span in its place and is otherwise the message, an unpaired last backtick and
what follows it included; so two messages are redacted alike exactly if they have the same outline.  Its
payload holds no line break and has 163 characters at most: it is the redaction on one line if that has
160 characters at most, and otherwise the first 160 of them with three dots.  Messages with the same
outline have the same payload, wherever it is cut. -/
theorem payload_shows_outline (message : String) :
    let line := onOneLine (redactNames message).toList
    ∃ r : Reading, r.text = message.toList ∧ (∀ r' : Reading, r'.text = message.toList → r' = r) ∧
      (redactNames message).toList = r.redacted ∧
      (∀ (other : String) (r' : Reading), r'.text = other.toList →
        (redactNames other = redactNames message ↔ r'.outline = r.outline)) ∧
      '\n' ∉ (loggablePayload message).toList ∧ '\r' ∉ (loggablePayload message).toList ∧
      (loggablePayload message).length ≤ 163 ∧
      (line.length ≤ 160 → (loggablePayload message).toList = line) ∧
      (160 < line.length → (loggablePayload message).toList = line.take 160 ++ ['.', '.', '.']) ∧
      ∀ (other : String) (r' : Reading), r'.text = other.toList → r'.outline = r.outline →
        loggablePayload other = loggablePayload message := by
  intro line
  obtain ⟨r, hr⟩ := exists_reading message.toList
  have hredacted := Reading.redactNames_of_text hr
  have halike : ∀ (other : String) (r' : Reading), r'.text = other.toList →
      (redactNames other = redactNames message ↔ r'.outline = r.outline) := by
    intro other r' hr'
    rw [← String.toList_inj, hredacted, Reading.redactNames_of_text hr', Reading.redacted_eq_iff]
  refine ⟨r, hr, fun r' hr' => Reading.text_injective (hr'.trans hr.symm), hredacted, halike,
    loggablePayload_unbroken message (Or.inl rfl), loggablePayload_unbroken message (Or.inr rfl), ?_,
    fun hshort => ?_, fun hlong => ?_, fun other r' hr' houtline => ?_⟩
  · rw [← String.length_toList, toList_loggablePayload]
    exact length_cut_le 160 _
  · rw [toList_loggablePayload]
    exact if_pos hshort
  · rw [toList_loggablePayload]
    exact if_neg (Nat.not_le_of_lt hlong)
  · rw [← String.toList_inj, toList_loggablePayload, toList_loggablePayload,
      (halike other r' hr').2 houtline]

/-- A message whose span is closed beyond the limit, with an unpaired backtick after it. -/
def lateSpan (span : String) (h : Unmarked span) : Reading where
  passages := [⟨List.replicate 155 'x', span.toList, by decide, h⟩]
  rest := " or `z".toList
  rest_unpaired := by decide

/-- The cut goes through the mark of the span; what stood there does not show. -/
theorem payload_shows_outline_lateSpan :
    let message : String := String.ofList (lateSpan "secret" (by decide)).text
    let other : String := String.ofList (lateSpan "hid\nen" (by decide)).text
    message ≠ other ∧ loggablePayload other = loggablePayload message ∧
      (loggablePayload message).toList = List.replicate 155 'x' ++ "`<6 c...".toList := by
  intro message other
  obtain ⟨r, -, hunique, hredacted, -, -, -, -, -, hlong, halike⟩ := payload_shows_outline message
  have hr : lateSpan "secret" (by decide) = r := hunique _ (String.toList_ofList).symm
  subst hr
  refine ⟨by decide +kernel, ?_, ?_⟩
  · have houtline : (lateSpan "hid\nen" (by decide)).outline
        = (lateSpan "secret" (by decide)).outline := by decide +kernel
    exact halike other _ (String.toList_ofList).symm houtline
  · rw [hredacted] at hlong
    rw [hlong (by decide +kernel)]
    decide +kernel

end Text

end Namebook
