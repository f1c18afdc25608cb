import TextPredicate.Proofs.WrittenCondition

/-!
Texts from which no condition can be read. `Rejected` says of each why, and how far it is read.
Main statement: an attempt on a text fails exactly as `Rejected` says, and every text either begins
with a written condition or is rejected for a single cause.
-/
namespace TextPredicate
open Source Cursor

/-- Why no operator can be read from a text, and how many of its characters are read. -/
inductive OperatorRejected : List Char → ParseError → Nat → Prop
  | nothing {w} (hw : Blank w) :
      OperatorRejected w (.unexpectedEnd "comparison operator") w.length
  | bang {w after} (hw : Blank w) (h : after.head? ≠ some '=') :
      OperatorRejected (w ++ '!' :: after) (.unknownOperator "!" w.length) (w.length + 1)
  | stray {w ch after} (hw : Blank w) (hb : isBlank ch = false) (hch : ch ∉ Operator.starters) :
      OperatorRejected (w ++ ch :: after) (.unknownOperator ch.toString w.length) w.length

/-- Why no condition can be read from a text, and how many of its characters are read. -/
inductive Rejected : List Char → ParseError → Nat → Prop
  | noOperator {t e n} (h : OperatorRejected t e n) : Rejected t e n
  | ordering {w sp after o} (hw : Blank w) (hsp : Operator.Longest (sp ++ after) sp o)
      (ho : o ∈ [.less, .lessOrEqual, .greater, .greaterOrEqual]) :
      Rejected (w ++ (sp ++ after)) (.unsupportedOperator o) (w.length + sp.length)
  | noLiteral {w sp w'} {k : Comparison} (hw : Blank w)
      (hsp : Operator.Longest (sp ++ w') sp k.operator) (hw' : Blank w') :
      Rejected (w ++ (sp ++ w')) (.unexpectedEnd "string beginning")
        (w.length + sp.length + w'.length)
  | unquoted {w sp w' ch after} {k : Comparison} (hw : Blank w)
      (hsp : Operator.Longest (sp ++ (w' ++ ch :: after)) sp k.operator) (hw' : Blank w')
      (hb : isBlank ch = false) (hch : ch ≠ '"') :
      Rejected (w ++ (sp ++ (w' ++ ch :: after)))
        (.expectedString ch (w.length + sp.length + w'.length))
        (w.length + sp.length + w'.length + 1)
  | unterminated {w sp w' literal} {k : Comparison} (hw : Blank w)
      (hsp : Operator.Longest (sp ++ (w' ++ '"' :: literal)) sp k.operator) (hw' : Blank w')
      (hl : '"' ∉ literal) :
      Rejected (w ++ (sp ++ (w' ++ '"' :: literal)))
        (.unterminatedString (String.ofList literal) (w.length + sp.length + w'.length))
        (w.length + sp.length + w'.length + 1 + literal.length)

lemma exists_cut (p : Char → Bool) (t : List Char) :
    ∃ a b, t = a ++ b ∧ (∀ ch ∈ a, p ch = true) ∧ ∀ ch, b.head? = some ch → p ch = false := by
  refine ⟨t.takeWhile p, t.dropWhile p, List.takeWhile_append_dropWhile.symm,
    List.all_eq_true.1 List.all_takeWhile, fun ch h => ?_⟩
  have hnot := List.head?_dropWhile_not p t
  rwa [h] at hnot

lemma exists_longest_or_rejected (t : List Char) :
    (∃ w sp after o, Blank w ∧ Operator.Longest (sp ++ after) sp o ∧ t = w ++ (sp ++ after)) ∨
      ∃ e n, OperatorRejected t e n := by
  obtain ⟨w, u, rfl, hw, hu⟩ := exists_cut isBlank t
  cases u with
  | nil => exact .inr ⟨_, _, by simpa using .nothing hw⟩
  | cons ch after =>
    by_cases hch : ch ∈ Operator.starters
    · obtain ⟨sp, o, rest, hsp, heq⟩ | ⟨rfl, hafter⟩ := Operator.exists_longest hch after
      · exact .inl ⟨w, sp, rest, o, hw, hsp, by rw [heq]⟩
      · exact .inr ⟨_, _, .bang hw hafter⟩
    · exact .inr ⟨_, _, .stray hw (hu ch rfl) hch⟩

lemma Comparison.exists_of_operator (o : Operator) :
    o ∈ [.less, .lessOrEqual, .greater, .greaterOrEqual] ∨ ∃ k : Comparison, o = k.operator := by
  cases o with
  | equal => exact .inr ⟨.equal, rfl⟩
  | approximatelyEqual => exact .inr ⟨.approximatelyEqual, rfl⟩
  | notEqual => exact .inr ⟨.notEqual, rfl⟩
  | less | lessOrEqual | greater | greaterOrEqual => exact .inl (by decide)

theorem exists_written_or_rejected (t : List Char) :
    (∃ w : Written, w.chars = t) ∨ ∃ e n, Rejected t e n := by
  obtain ⟨w, sp, u, o, hw, hsp, rfl⟩ | ⟨e, n, h⟩ := exists_longest_or_rejected t
  · obtain ho | ⟨k, rfl⟩ := Comparison.exists_of_operator o
    · exact .inr ⟨_, _, .ordering hw hsp ho⟩
    obtain ⟨w', v, rfl, hw', hv⟩ := exists_cut isBlank u
    cases v with
    | nil =>
      rw [List.append_nil] at hsp ⊢
      exact .inr ⟨_, _, .noLiteral hw hsp hw'⟩
    | cons ch v =>
      by_cases hch : ch = '"'
      · subst hch
        obtain ⟨literal, rest, rfl, hl, hrest⟩ := exists_cut (fun ch => decide (ch ≠ '"')) v
        have hquote : '"' ∉ literal := forall_ne_quote.1 hl
        cases rest with
        | nil =>
          rw [List.append_nil] at hsp ⊢
          exact .inr ⟨_, _, .unterminated hw hsp hw' hquote⟩
        | cons x behind =>
          obtain rfl : x = '"' := by simpa using hrest x rfl
          exact .inl ⟨⟨w, k, sp, w', literal, behind, hw, Comparison.mem_spellings.2 hsp.1, hw',
            hquote⟩, by simp [Written.chars]⟩
      · exact .inr ⟨_, _, .unquoted hw hsp hw' (hv ch rfl) hch⟩
  · exact .inr ⟨e, n, .noOperator h⟩

/-- The first `n` characters of a text are read, and no others. -/
def Cursor.StandsAt (c : Cursor) (t : List Char) (n : Nat) : Prop :=
  n ≤ t.length ∧ c.position = n ∧ c.events = (t.drop n).map some

lemma Cursor.standsAt_append {c : Cursor} {t gone rest : List Char} {n : Nat}
    (ht : t = gone ++ rest) (hn : n = gone.length) (hpos : c.position = n)
    (hev : c.events = rest.map some) : c.StandsAt t n := by
  subst ht hn
  exact ⟨by simp, hpos, by rw [List.drop_left, hev]⟩

lemma Operator.read_rejected {c : Cursor} {t : List Char} {e : ParseError} {n : Nat}
    (h : OperatorRejected t e n) (hc : c.events = t.map some) (hstart : c.position = 0) :
    ∃ c', read c = ⟨.error e, c', []⟩ ∧ c'.StandsAt t n := by
  cases h with
  | nothing hw =>
    have hread := read_blank hw hc
    rw [hstart, Nat.zero_add] at hread
    exact ⟨_, hread, standsAt_append (List.append_nil _).symm rfl rfl rfl⟩
  | @bang w after hw hafter =>
    have hread := read_bang (s := after.map some) hw (by simpa using hafter) (by simpa using hc)
    rw [hstart, Nat.zero_add] at hread
    refine ⟨_, hread, standsAt_append (List.append_cons w '!' after) ?_ ?_ ?_⟩
    · simp
    · simp
    · simp
  | @stray w ch after hw hb hch =>
    have hread := read_stray (s := after.map some) hw hb hch (by simpa using hc)
    rw [hstart, Nat.zero_add] at hread
    exact ⟨_, hread, standsAt_append rfl rfl rfl rfl⟩

lemma Condition.read_rejected {c : Cursor} {t : List Char} {e : ParseError} {n : Nat}
    (h : Rejected t e n) (hc : c.events = t.map some) (hstart : c.position = 0) :
    ∃ c' log, read c = ⟨.error e, c', log⟩ ∧ c'.StandsAt t n := by
  cases h with
  | noOperator h =>
    obtain ⟨c', hread, hat⟩ := Operator.read_rejected h hc hstart
    exact ⟨c', _, reads_iff.1 (.noOperator (Operator.reads_iff.2 hread)), hat⟩
  | @ordering w sp after o hw hsp ho =>
    obtain ⟨c', hread, hev, hpos⟩ := Operator.read_longest hw hsp hc
    have hnarrow : Comparison.narrow o = .error (.unsupportedOperator o) := by
      revert ho
      cases o <;> simp [Comparison.narrow]
    refine ⟨c', _, reads_iff.1 (.unsupported (Operator.reads_iff.2 hread) hnarrow),
      standsAt_append (List.append_assoc w sp after).symm ?_ ?_ hev⟩
    · simp
    · omega
  | @noLiteral w sp w' k hw hsp hw' =>
    obtain ⟨c', hread, hev', hpos'⟩ := Operator.read_longest hw hsp hc
    obtain ⟨hev, hpos⟩ := skipBlanks_to_end hw' hev'
    have hlit : ReadsLiteral c'.skipBlanks _ := .nothing (by rw [read_nil hev])
    rw [read_nil hev] at hlit
    refine ⟨_, _, reads_iff.1 (.noLiteral (Operator.reads_iff.2 hread) hlit),
      standsAt_append (List.append_nil _).symm ?_ ?_ rfl⟩
    · simp
      omega
    · simp
      omega
  | @unquoted w sp w' ch after k hw hsp hw' hb hch =>
    obtain ⟨c', hread, hev', hpos'⟩ := Operator.read_longest hw hsp hc
    obtain ⟨hev, hpos⟩ := skipBlanks_to_char (c := c') (s := after.map some) hw' .absent hb
      (by simpa using hev')
    have hlit : ReadsLiteral c'.skipBlanks _ := .unquoted hev hch
    have hquote : c'.skipBlanks.position = w.length + sp.length + w'.length := by omega
    rw [hquote] at hlit
    have hcut : w ++ (sp ++ (w' ++ ch :: after)) = (w ++ sp ++ w' ++ [ch]) ++ after := by simp
    refine ⟨_, _, reads_iff.1 (.noLiteral (Operator.reads_iff.2 hread) hlit),
      standsAt_append hcut ?_ rfl rfl⟩
    simp
    omega
  | @unterminated w sp w' literal k hw hsp hw' hl =>
    obtain ⟨c', hread, hev', hpos'⟩ := Operator.read_longest hw hsp hc
    obtain ⟨hev, hpos⟩ := skipBlanks_to_char (c := c') (s := literal.map some) hw' .absent
      isBlank_quote (by simpa using hev')
    rw [← List.append_nil (literal.map some)] at hev
    have hlit : ReadsLiteral c'.skipBlanks _ := .unterminated hev hl (by simp)
    have hquote : c'.skipBlanks.position = w.length + sp.length + w'.length := by omega
    rw [hquote] at hlit
    refine ⟨_, _, reads_iff.1 (.noLiteral (Operator.reads_iff.2 hread) hlit),
      standsAt_append (List.append_nil _).symm ?_ rfl rfl⟩
    simp
    omega

namespace Rejected
variable {t : List Char} {e e' : ParseError} {n n' : Nat}

lemma not_written (h : Rejected t e n) (w : Written) : w.chars ≠ t := by
  intro hw
  let c : Cursor := ⟨t.map some, none, 0⟩
  obtain ⟨c', log, hread, -⟩ := Condition.read_rejected (c := c) h rfl rfl
  obtain ⟨hresult, -, -⟩ := Condition.read_written (c := c) w (by rw [hw]; rfl)
  rw [hread] at hresult
  cases hresult

/-- The cause is one, and so is the number of characters that are read. -/
lemma unique (h : Rejected t e n) (h' : Rejected t e' n') : e' = e ∧ n' = n := by
  let c : Cursor := ⟨t.map some, none, 0⟩
  obtain ⟨d, log, hread, -, hpos, -⟩ := Condition.read_rejected (c := c) h rfl rfl
  obtain ⟨d', log', hread', -, hpos', -⟩ := Condition.read_rejected (c := c) h' rfl rfl
  rw [hread] at hread'
  obtain ⟨rfl, rfl, -⟩ : e = e' ∧ d = d' ∧ log = log' := by simpa using hread'
  exact ⟨rfl, hpos'.symm.trans hpos⟩

end Rejected

lemma Predicate.ofText_of_rejected {σ : Type} (extract : σ → String) (ignoreCase : Bool)
    {t : String} {e : ParseError} {n : Nat} (h : Rejected t.toList e n) :
    (ofText extract ignoreCase t).result = .error e ∧
      (ofText extract ignoreCase t).cursor.StandsAt t.toList n := by
  obtain ⟨c', log, hread, hat⟩ := Condition.read_rejected (c := .ofText t) h rfl rfl
  have herror : (Condition.read (.ofText t)).result = .error e := by rw [hread]
  rw [ofText, parse_of_refused rfl herror, hread]
  exact ⟨rfl, hat⟩

lemma Predicate.ofText_result_eq_error {σ : Type} (extract : σ → String) (ignoreCase : Bool)
    {t : String} {e : ParseError} :
    (ofText extract ignoreCase t).result = .error e ↔ ∃ n, Rejected t.toList e n := by
  constructor
  · intro hresult
    obtain ⟨w, hw⟩ | ⟨e', n, h⟩ := exists_written_or_rejected t.toList
    · rw [(ofText_of_written extract ignoreCase hw).1] at hresult
      cases hresult
    · rw [(ofText_of_rejected extract ignoreCase h).1] at hresult
      obtain rfl : e' = e := Except.error.inj hresult
      exact ⟨n, h⟩
  · rintro ⟨n, h⟩
    exact (ofText_of_rejected extract ignoreCase h).1

/-- An attempt on a text fails exactly with the cause for which the text is rejected, and leaves all
that is behind the characters of the cause to be read. A text either begins with a condition or is
rejected, never both, and it is rejected for one cause only. -/
theorem Predicate.ofText_error_iff_rejected {σ : Type} (extract : σ → String) (ignoreCase : Bool)
    (t : String) :
    (∀ e n, (ofText extract ignoreCase t).result = .error e ∧
        (ofText extract ignoreCase t).cursor.position = n ↔ Rejected t.toList e n) ∧
    (∀ e n, Rejected t.toList e n →
      (ofText extract ignoreCase t).cursor.StandsAt t.toList n) ∧
    ((∃ w : Written, w.chars = t.toList) ∨ ∃ e n, Rejected t.toList e n) ∧
    (∀ e n, Rejected t.toList e n → (¬ ∃ w : Written, w.chars = t.toList) ∧
      ∀ e' n', Rejected t.toList e' n' → e' = e ∧ n' = n) := by
  refine ⟨fun e n => ⟨?_, ?_⟩, ?_, exists_written_or_rejected t.toList, ?_⟩
  · intro h
    obtain ⟨hresult, hpos⟩ := h
    obtain hw | ⟨e', n', h⟩ := exists_written_or_rejected t.toList
    · rw [(ofText_result_eq_ok extract ignoreCase t).2 hw] at hresult
      cases hresult
    · obtain ⟨hresult', -, hpos', -⟩ := ofText_of_rejected extract ignoreCase h
      obtain rfl : e' = e := Except.error.inj (hresult'.symm.trans hresult)
      obtain rfl : n' = n := hpos'.symm.trans hpos
      exact h
  · intro h
    obtain ⟨hresult, -, hpos, -⟩ := ofText_of_rejected extract ignoreCase h
    exact ⟨hresult, hpos⟩
  · intro e n h
    exact (ofText_of_rejected extract ignoreCase h).2
  · intro e n h
    refine ⟨?_, fun e' n' h' => h.unique h'⟩
    intro hw
    obtain ⟨w, hw⟩ := hw
    exact h.not_written w hw

end TextPredicate
