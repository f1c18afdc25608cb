import TextPredicate.Proofs.ConditionReading

/-!
The events that make up a condition. A source may report an end and go on: a phrase tells at which
places such an end is looked over. Main statement: an attempt on any cursor succeeds exactly where
the events begin with a phrase, and goes on from there over the blanks and one end.
-/
namespace TextPredicate
open Source Cursor

namespace Comparison

def spellings : List (List Char × Comparison) :=
  [(['='], equal), (['=', '='], equal), (['~'], approximatelyEqual),
    (['~', '='], approximatelyEqual), (['!', '='], notEqual)]

lemma mem_spellings {sp : List Char} {k : Comparison} :
    (sp, k) ∈ spellings ↔ (sp, k.operator) ∈ Operator.spellings := by
  cases k <;> simp [spellings, Operator.spellings, operator]

end Comparison

/-- Blanks, an end or none, and an operator. Behind a single character there may be an end. -/
inductive OperatorPhrase : Comparison → Source → Prop
  | single {w e e' ch k} (hw : Blank w) (he : AtMostOneEnd e)
      (hsp : ([ch], k) ∈ Comparison.spellings) (he' : AtMostOneEnd e') :
      OperatorPhrase k (w.map some ++ e ++ some ch :: e')
  | double {w e ch ch' k} (hw : Blank w) (he : AtMostOneEnd e)
      (hsp : ([ch, ch'], k) ∈ Comparison.spellings) :
      OperatorPhrase k (w.map some ++ e ++ [some ch, some ch'])

inductive LiteralPhrase : List Char → Source → Prop
  | mk {w e literal} (hw : Blank w) (he : AtMostOneEnd e) (hl : '"' ∉ literal) :
      LiteralPhrase literal (w.map some ++ e ++ some '"' :: (literal.map some ++ [some '"']))

inductive Phrase : Condition → Source → Prop
  | mk {k literal o l} (ho : OperatorPhrase k o) (hl : LiteralPhrase literal l) :
      Phrase ⟨k, String.ofList literal⟩ (o ++ l)

lemma LiteralPhrase.head?_ne {literal : List Char} {l : Source} (h : LiteralPhrase literal l)
    (s : Source) : (l ++ s).head? ≠ some (some '=') := by
  cases h with
  | @mk w e literal hw he hl =>
    cases w with
    | nil => cases he <;> simp
    | cons x w =>
      have hx : isBlank x = true := hw x (by simp)
      simp [ne_equals_of_blank hx]

/-- An end that comes first may be gone already when the literal is read. -/
lemma LiteralPhrase.dropEnd {literal : List Char} {l : Source} (h : LiteralPhrase literal l)
    {e : Source} (he : AtMostOneEnd e) (s : Source) :
    ∃ l', LiteralPhrase literal l' ∧ (e ++ (l ++ s)).dropEnd = l' ++ s ∧ l'.chars = l.chars := by
  cases h with
  | @mk w e₂ literal hw he₂ hl =>
    obtain ⟨e', he', heq⟩ := dropEnd_blanks (w := w) he he₂ '"' (literal.map some ++ some '"' :: s)
    refine ⟨_, .mk hw he' hl, ?_, ?_⟩
    · simpa using heq
    · simp [chars_of_atMostOneEnd he', chars_of_atMostOneEnd he₂]

lemma Operator.read_phrase {c : Cursor} {k : Comparison} {literal : List Char} {o l s : Source}
    (ho : OperatorPhrase k o) (hl : LiteralPhrase literal l) (hc : c.events = o ++ (l ++ s)) :
    ∃ c' log l', Operator.read c = ⟨.ok k.operator, c', log⟩ ∧ LiteralPhrase literal l' ∧
      c'.events = l' ++ s ∧ c'.position + l'.chars.length = c.position + (o ++ l).chars.length := by
  cases ho with
  | @single w e e' ch k hw he hsp he' =>
    have hs : (e' ++ (l ++ s)).head? ≠ some (some '=') := by
      cases he' with
      | absent => exact hl.head?_ne s
      | present => simp
    obtain ⟨c', hread, hev, hpos⟩ := read_spelling (c := c) hw he (Comparison.mem_spellings.1 hsp)
      (fun _ => hs) (by simp [hc])
    obtain ⟨l', hl', heq, hchars⟩ := hl.dropEnd he' s
    refine ⟨c', _, l', hread, hl', hev.trans heq, ?_⟩
    simp [hpos, hchars, chars_of_atMostOneEnd he, chars_of_atMostOneEnd he']
    omega
  | @double w e ch ch' k hw he hsp =>
    obtain ⟨c', hread, hev, hpos⟩ := read_spelling (c := c) (s := l ++ s) hw he
      (Comparison.mem_spellings.1 hsp) (by simp) (by simp [hc])
    refine ⟨c', _, l, hread, hl, hev, ?_⟩
    simp [hpos, chars_of_atMostOneEnd he]
    omega

lemma readLiteral_phrase {c : Cursor} {literal : List Char} {l s : Source}
    (hl : LiteralPhrase literal l) (hc : c.events = l ++ s) :
    ∃ c' log, readLiteral c = ⟨.ok (String.ofList literal), c', log⟩ ∧ c'.events = s ∧
      c'.position = c.position + l.chars.length := by
  cases hl with
  | @mk w e literal hw he hl =>
    obtain ⟨hev, hpos⟩ := skipBlanks_to_char (c := c) (s := literal.map some ++ some '"' :: s)
      hw he isBlank_quote (by simp [hc])
    have hread := readsLiteral_iff.1 (.closed hev hl)
    refine ⟨_, _, hread, rfl, ?_⟩
    simp [hpos, chars_of_atMostOneEnd he]
    omega

/-- A phrase is read to its end, and then the blanks and one end behind it. -/
lemma Condition.read_phrase {c : Cursor} {k : Condition} {ph s : Source} (hph : Phrase k ph)
    (hc : c.events = ph ++ s) :
    ∃ (c' : Cursor) (log : _), Condition.read c = ⟨.ok k, c'.skipBlanks, log⟩ ∧ c'.events = s ∧
      c'.position = c.position + ph.chars.length := by
  cases hph with
  | @mk k literal o l ho hl =>
    obtain ⟨c₁, log, l', hread, hl', hev, hpos⟩ := Operator.read_phrase ho hl (by simpa using hc)
    obtain ⟨c₂, log', hlit, hev', hpos'⟩ := readLiteral_phrase hl' hev
    exact ⟨c₂, _, reads_iff.1 (.whole (Operator.reads_iff.2 hread) (readsLiteral_iff.2 hlit)),
      hev', hpos'.trans hpos⟩

lemma Condition.exists_phrase {c : Cursor} {k : Condition} (h : (Condition.read c).result = .ok k) :
    ∃ ph s, Phrase k ph ∧ c.events = ph ++ s := by
  obtain ⟨c', log, hreads⟩ := reads_of_result h
  cases hreads with
  | @whole k literal c₁ c₂ log log' h' hl =>
    obtain ⟨w₁, e₁, hw₁, he₁, hc, -, -⟩ := skipBlanks_skips c
    obtain ⟨w₂, e₂, hw₂, he₂, hc₁, -, -⟩ := skipBlanks_skips c₁
    cases hl with
    | @closed literal s hev hquote =>
      rw [hev] at hc₁
      cases h' with
      | @single ch s₁ _ hstart _ hsp =>
        obtain ⟨e, he, heq, -⟩ := exists_eq_append_dropEnd s₁
        rw [events_peek, events_mk_none] at hc₁
        rw [hstart, heq, hc₁] at hc
        exact ⟨_, s, .mk (.single hw₁ he₁ (Comparison.mem_spellings.2 hsp) he)
          (.mk hw₂ he₂ hquote), by simpa using hc⟩
      | @double ch s₁ _ hstart hsp =>
        rw [events_mk_none] at hc₁
        rw [hstart, hc₁] at hc
        exact ⟨_, s, .mk (.double hw₁ he₁ (Comparison.mem_spellings.2 hsp))
          (.mk hw₂ he₂ hquote), by simpa using hc⟩

namespace Condition
variable {c : Cursor} {w : List Char} {s : Source}

/-- Behind an end no blank is skipped before the operator. -/
lemma not_read_behind_end {b : Char} (hw : Blank w) (hb : isBlank b = true)
    (hc : c.events = w.map some ++ none :: some b :: s) (k : Condition) :
    (read c).result ≠ .ok k := by
  intro hk
  obtain ⟨⟨ch, s', hev, hch⟩, -⟩ := parts_of_read hk
  rw [skipBlanks_over_end hw hc] at hev
  obtain ⟨rfl, -⟩ : b = ch ∧ s = s' := by simpa using hev
  simp [Operator.starter_not_blank hch] at hb

lemma not_read_quote_behind_end {b : Char} (hw : Blank w) (hb : isBlank b = true)
    (hc : (Operator.read c).cursor.events = w.map some ++ none :: some b :: s) (k : Condition) :
    (read c).result ≠ .ok k := by
  intro hk
  obtain ⟨-, literal, s', hev, -⟩ := parts_of_read hk
  rw [skipBlanks_over_end hw hc] at hev
  obtain ⟨rfl, -⟩ : b = '"' ∧ s = literal.map some ++ some '"' :: s' := by simpa using hev
  simp at hb

lemma not_read_over_end {e : Source} {literal : List Char} (hw : Blank w) (he : AtMostOneEnd e)
    (hl : '"' ∉ literal)
    (hc : (Operator.read c).cursor.events =
      w.map some ++ e ++ some '"' :: (literal.map some ++ none :: s)) (k : Condition) :
    (read c).result ≠ .ok k := by
  intro hk
  obtain ⟨-, literal', s', hev, hl', -⟩ := parts_of_read hk
  rw [(skipBlanks_to_char hw he isBlank_quote hc).1] at hev
  have heq : literal.map some ++ none :: s = literal'.map some ++ some '"' :: s' := by
    simpa using hev
  have hend := span_eq (forall_ne_quote.2 hl) (s := none :: s) (by simp)
  have hquote := span_eq (forall_ne_quote.2 hl') (s := some '"' :: s') (by simp)
  rw [heq, hquote] at hend
  simp at hend

end Condition

namespace Predicate
variable {σ : Type}

/-- An attempt succeeds exactly where a phrase begins, with the phrase's condition, and uses up the
phrase, the blanks behind it and one end. A blank that comes right behind an end, before the
operator or before the quote, is not looked over, and a literal does not go on behind an end. -/
theorem parse_ok_iff_phrase (p : Predicate σ) (hp : p.state = .unparsed) (c : Cursor) :
    ((p.parse c).result = .ok () ↔ ∃ k ph, Phrase k ph ∧ ph <+: c.events) ∧
    (∀ k ph s, Phrase k ph → c.events = ph ++ s →
      (p.parse c).predicate.comparison? = some k.comparison ∧
      (p.parse c).predicate.literal? = some k.literal ∧
      ∃ w e, Blank w ∧ AtMostOneEnd e ∧ s = w.map some ++ e ++ (p.parse c).cursor.events ∧
        (e = [] → ∀ x, (p.parse c).cursor.events.head? = some x →
          ∃ ch, x = some ch ∧ isBlank ch = false)) ∧
    (∀ w b s, Blank w → isBlank b = true → c.events = w.map some ++ none :: some b :: s →
      (p.parse c).result ≠ .ok ()) ∧
    (∀ w b s, Blank w → isBlank b = true →
      (Operator.read c).cursor.events = w.map some ++ none :: some b :: s →
      (p.parse c).result ≠ .ok ()) ∧
    (∀ w e (literal : List Char) s, Blank w → AtMostOneEnd e → '"' ∉ literal →
      (Operator.read c).cursor.events =
        w.map some ++ e ++ some '"' :: (literal.map some ++ none :: s) →
      (p.parse c).result ≠ .ok ()) := by
  refine ⟨⟨?_, ?_⟩, ?_, ?_, ?_, ?_⟩
  · intro hok
    obtain ⟨k, hk⟩ := (result_eq_ok_iff hp).1 hok
    obtain ⟨ph, s, hph, hc⟩ := Condition.exists_phrase hk
    exact ⟨k, ph, hph, s, hc.symm⟩
  · intro h
    obtain ⟨k, ph, hph, s, hc⟩ := h
    obtain ⟨c', log, hread, -, -⟩ := Condition.read_phrase hph hc.symm
    exact (result_eq_ok_iff hp).2 ⟨k, by rw [hread]⟩
  · intro k ph s hph hc
    obtain ⟨c', log, hread, hev, -⟩ := Condition.read_phrase hph hc
    have hk : (Condition.read c).result = .ok k := by rw [hread]
    obtain ⟨w, e, hw, he, hs, -, hmax⟩ := skipBlanks_skips c'
    rw [parse_of_read hp hk, hread]
    exact ⟨rfl, rfl, w, e, hw, he, hev.symm.trans hs, hmax⟩
  · intro w b s hw hb hc hok
    obtain ⟨k, hk⟩ := (result_eq_ok_iff hp).1 hok
    exact Condition.not_read_behind_end hw hb hc k hk
  · intro w b s hw hb hc hok
    obtain ⟨k, hk⟩ := (result_eq_ok_iff hp).1 hok
    exact Condition.not_read_quote_behind_end hw hb hc k hk
  · intro w e literal s hw he hl hc hok
    obtain ⟨k, hk⟩ := (result_eq_ok_iff hp).1 hok
    exact Condition.not_read_over_end hw he hl hc k hk

/-- Ends before and behind the operator are looked over. -/
theorem parse_ok_over_ends :
    ((⟨id, false, .unparsed⟩ : Predicate String).parse
      ⟨.ofParts ["", "~", " \"a\"", " b"], some ' ', 4⟩).result = .ok () := by
  have hop : OperatorPhrase .approximatelyEqual [some ' ', none, some '~', none] :=
    .single (w := [' ']) (by simp [Blank, isBlank]) .present
      (show (['~'], Comparison.approximatelyEqual) ∈ Comparison.spellings by decide) .present
  have hlit : LiteralPhrase ['a'] [some ' ', some '"', some 'a', some '"'] :=
    .mk (w := [' ']) (by simp [Blank, isBlank]) .absent (by decide)
  exact (parse_ok_iff_phrase ⟨id, false, .unparsed⟩ rfl _).1.2
    ⟨_, _, .mk hop hlit, [none, some ' ', some 'b'], by decide⟩

end Predicate
end TextPredicate
