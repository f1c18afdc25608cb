import TextPredicate.Proofs.ConditionPhrase
import TextPredicate.Proofs.ReadingBack

/-!
Conditions that are written at the beginning of a text. Main statement: an attempt on a text
succeeds exactly if the text can be cut into the parts of a condition and a rest, which is possible
in one way only, and it stops at the first character of the rest that is not blank.
-/
namespace TextPredicate
open Source Cursor Text

/-- A text that begins with a condition, cut at the parts of the condition. -/
@[ext]
structure Written where
  before : List Char
  comparison : Comparison
  spelling : List Char
  between : List Char
  literal : List Char
  behind : List Char
  blank_before : Blank before
  spelled : (spelling, comparison) ∈ Comparison.spellings
  blank_between : Blank between
  unquoted : '"' ∉ literal

namespace Written

def condition (w : Written) : Condition := ⟨w.comparison, String.ofList w.literal⟩

def chars (w : Written) : List Char :=
  w.before ++ w.spelling ++ w.between ++ '"' :: w.literal ++ '"' :: w.behind

/-- The same condition in a text that goes on. -/
def extend (w : Written) (s : List Char) : Written := { w with behind := w.behind ++ s }

lemma chars_extend (w : Written) (s : List Char) : (w.extend s).chars = w.chars ++ s := by
  simp [extend, chars]

lemma comparison_unique {sp : List Char} {k k' : Comparison} (h : (sp, k) ∈ Comparison.spellings)
    (h' : (sp, k') ∈ Comparison.spellings) : k = k' := by
  have hall : ∀ x ∈ Comparison.spellings, ∀ y ∈ Comparison.spellings, x.1 = y.1 → x.2 = y.2 := by
    decide
  exact hall _ h _ h' rfl

lemma head?_between_ne {w : List Char} (hw : Blank w) (s : List Char) :
    (w ++ '"' :: s).head? ≠ some '=' := head?_blanks_append_ne hw (by simp)

lemma spelling_unique {sp sp' w w' s s' : List Char} {k k' : Comparison}
    (hsp : (sp, k) ∈ Comparison.spellings) (hsp' : (sp', k') ∈ Comparison.spellings)
    (hw : Blank w) (hw' : Blank w') (h : sp ++ (w ++ '"' :: s) = sp' ++ (w' ++ '"' :: s')) :
    sp = sp' := by
  obtain ⟨ch, -, rfl | rfl⟩ := Operator.spelling_cases (Comparison.mem_spellings.1 hsp) <;>
    obtain ⟨ch', -, rfl | rfl⟩ := Operator.spelling_cases (Comparison.mem_spellings.1 hsp')
  · obtain ⟨rfl, -⟩ : ch = ch' ∧ _ := by simpa using h
    rfl
  · obtain ⟨-, htail⟩ : ch = ch' ∧ w ++ '"' :: s = '=' :: (w' ++ '"' :: s') := by simpa using h
    exact absurd (by rw [htail]; rfl) (head?_between_ne hw s)
  · obtain ⟨-, htail⟩ : ch = ch' ∧ '=' :: (w ++ '"' :: s) = w' ++ '"' :: s' := by simpa using h
    exact absurd (by rw [← htail]; rfl) (head?_between_ne hw' s')
  · obtain ⟨rfl, -⟩ : ch = ch' ∧ _ := by simpa using h
    rfl

lemma exists_cons_of_spelling {sp : List Char} {k : Comparison}
    (h : (sp, k) ∈ Comparison.spellings) : ∃ ch cs, sp = ch :: cs ∧ isBlank ch = false := by
  obtain ⟨ch, hch, rfl | rfl⟩ := Operator.spelling_cases (Comparison.mem_spellings.1 h)
  · exact ⟨ch, [], rfl, Operator.starter_not_blank hch⟩
  · exact ⟨ch, ['='], rfl, Operator.starter_not_blank hch⟩

lemma chars_injective {v w : Written} (h : v.chars = w.chars) : v = w := by
  have hchars : v.before ++ (v.spelling ++ (v.between ++ '"' :: (v.literal ++ '"' :: v.behind))) =
      w.before ++ (w.spelling ++ (w.between ++ '"' :: (w.literal ++ '"' :: w.behind))) := by
    simpa [chars] using h
  obtain ⟨hbefore, hrest⟩ : v.before = w.before ∧
      v.spelling ++ (v.between ++ '"' :: (v.literal ++ '"' :: v.behind)) =
        w.spelling ++ (w.between ++ '"' :: (w.literal ++ '"' :: w.behind)) := by
    obtain ⟨x, xs, hx, hxb⟩ := exists_cons_of_spelling v.spelled
    obtain ⟨y, ys, hy, hyb⟩ := exists_cons_of_spelling w.spelled
    rw [hx, hy, List.cons_append, List.cons_append] at hchars ⊢
    obtain ⟨heq, rfl, htail⟩ := cut_unique v.blank_before w.blank_before hxb hyb hchars
    exact ⟨heq, congrArg (x :: ·) htail⟩
  have hspelling : v.spelling = w.spelling :=
    spelling_unique v.spelled w.spelled v.blank_between w.blank_between hrest
  rw [hspelling, List.append_cancel_left_eq] at hrest
  obtain ⟨hbetween, -, hrest⟩ :=
    cut_unique v.blank_between w.blank_between isBlank_quote isBlank_quote hrest
  obtain ⟨hliteral, -, hbehind⟩ := cut_unique (forall_ne_quote.2 v.unquoted)
    (forall_ne_quote.2 w.unquoted) (by simp) (by simp) hrest
  have hcomparison : v.comparison = w.comparison :=
    comparison_unique v.spelled (hspelling ▸ w.spelled)
  exact Written.ext hbefore hcomparison hspelling hbetween hliteral hbehind

/-- A written condition is a phrase without ends. -/
lemma exists_phrase (w : Written) :
    ∃ ph, Phrase w.condition ph ∧ w.chars.map some = ph ++ w.behind.map some := by
  have hlit : LiteralPhrase w.literal _ := .mk w.blank_between .absent w.unquoted
  have hsp := w.spelled
  obtain ⟨ch, -, hcases⟩ := Operator.spelling_cases (Comparison.mem_spellings.1 hsp)
  rcases hcases with h | h
  · rw [h] at hsp
    exact ⟨_, .mk (.single w.blank_before .absent hsp .absent) hlit, by simp [chars, h]⟩
  · rw [h] at hsp
    exact ⟨_, .mk (.double w.blank_before .absent hsp) hlit, by simp [chars, h]⟩

/-- The characters of a phrase are a written condition. -/
lemma exists_of_phrase {k : Condition} {ph : Source} (h : Phrase k ph) (s : Source) :
    ∃ w : Written, w.condition = k ∧ w.chars = (ph ++ s).chars := by
  cases h with
  | @mk k literal o l ho hl =>
    cases hl with
    | @mk w₂ e₂ literal hw₂ he₂ hquote =>
      cases ho with
      | @single w e e' ch k hw he hsp he' =>
        refine ⟨⟨w, k, [ch], w₂, literal, s.chars, hw, hsp, hw₂, hquote⟩, rfl, ?_⟩
        simp [chars, chars_of_atMostOneEnd he, chars_of_atMostOneEnd he', chars_of_atMostOneEnd he₂]
      | @double w e ch ch' k hw he hsp =>
        refine ⟨⟨w, k, [ch, ch'], w₂, literal, s.chars, hw, hsp, hw₂, hquote⟩, rfl, ?_⟩
        simp [chars, chars_of_atMostOneEnd he, chars_of_atMostOneEnd he₂]

end Written

/-- A written condition is read, and then the blanks behind it. -/
lemma Condition.read_written {c : Cursor} (w : Written) (hc : c.events = w.chars.map some) :
    (Condition.read c).result = .ok w.condition ∧
    (Condition.read c).cursor.events = (w.behind.dropWhile isBlank).map some ∧
    (Condition.read c).cursor.position + (w.behind.dropWhile isBlank).length =
      c.position + w.chars.length := by
  obtain ⟨ph, hph, hchars⟩ := w.exists_phrase
  obtain ⟨c', log, hread, hev, hpos⟩ := read_phrase hph (hc.trans hchars)
  have hlen : w.chars.length = ph.chars.length + w.behind.length := by
    simpa using congrArg (fun s => (Source.chars s).length) hchars
  have hbehind : (w.behind.takeWhile isBlank).length + (w.behind.dropWhile isBlank).length =
      w.behind.length := by
    rw [← List.length_append, List.takeWhile_append_dropWhile]
  rw [hread]
  refine ⟨rfl, ?_, ?_⟩
  · rw [events_skipBlanks, hev, span_map_some, dropEnd_map_some]
  · rw [position_skipBlanks, hev, span_map_some, hpos, hlen]
    dsimp only
    omega

lemma Condition.exists_written {c : Cursor} {k : Condition} {t : List Char}
    (hc : c.events = t.map some) (h : (Condition.read c).result = .ok k) :
    ∃ w : Written, w.chars = t := by
  obtain ⟨ph, s, hph, heq⟩ := exists_phrase h
  obtain ⟨w, -, hw⟩ := Written.exists_of_phrase hph s
  refine ⟨w, ?_⟩
  rw [hw, ← heq, hc, chars_map_some]

lemma Predicate.ofText_result_eq_ok {σ : Type} (extract : σ → String) (ignoreCase : Bool)
    (t : String) :
    (ofText extract ignoreCase t).result = .ok () ↔ ∃ w : Written, w.chars = t.toList := by
  rw [ofText, result_eq_ok_iff rfl]
  constructor
  · intro h
    obtain ⟨k, hk⟩ := h
    exact Condition.exists_written (events_ofText t) hk
  · intro h
    obtain ⟨w, hw⟩ := h
    exact ⟨_, (Condition.read_written w (by rw [hw, events_ofText])).1⟩

lemma Predicate.ofText_of_written {σ : Type} (extract : σ → String) (ignoreCase : Bool) {t : String}
    {w : Written} (hw : w.chars = t.toList) :
    (ofText extract ignoreCase t).result = .ok () ∧
      (ofText extract ignoreCase t).predicate = ⟨extract, ignoreCase, .parsed w.condition⟩ := by
  obtain ⟨hresult, -⟩ := Condition.read_written (c := .ofText t) w (by rw [hw, events_ofText])
  rw [ofText, parse_of_read rfl hresult]
  exact ⟨rfl, rfl⟩

/-- An attempt on a text succeeds exactly if the text begins with a condition. There is one way only
to cut it, the predicate has the comparison and the literal of the cut, and the cursor stands at the
first character behind it that is not blank. -/
theorem Predicate.ofText_ok_iff_written {σ : Type} (extract : σ → String) (ignoreCase : Bool)
    (t : String) :
    ((ofText extract ignoreCase t).result = .ok () ↔ ∃ w : Written, w.chars = t.toList) ∧
    ∀ w : Written, w.chars = t.toList →
      (∀ w' : Written, w'.chars = t.toList → w' = w) ∧
      (ofText extract ignoreCase t).predicate.comparison? = some w.comparison ∧
      (ofText extract ignoreCase t).predicate.literal? = some (String.ofList w.literal) ∧
      (ofText extract ignoreCase t).cursor.events = (w.behind.dropWhile isBlank).map some ∧
      (ofText extract ignoreCase t).cursor.position + (w.behind.dropWhile isBlank).length =
        t.length := by
  refine ⟨ofText_result_eq_ok extract ignoreCase t, fun w hw => ?_⟩
  obtain ⟨hresult, hev, hpos⟩ := Condition.read_written (c := .ofText t) w
    (by rw [hw, events_ofText])
  refine ⟨fun w' hw' => Written.chars_injective (hw'.trans hw.symm), ?_⟩
  rw [ofText, parse_of_read rfl hresult]
  refine ⟨rfl, rfl, hev, hpos.trans ?_⟩
  rw [hw, String.length_toList]
  exact Nat.zero_add _

end TextPredicate
