import Mathlib.Data.List.Basic
import TextPredicate.Proofs.RejectedText

/-!
Texts that go on. A condition that has been read is not changed by what comes behind it. Main
statement: a text that is rejected can be completed exactly if it is at fault only in that it ends,
or ends in the first half of `!=`; nothing that follows mends any other fault.
-/
namespace TextPredicate
open Source Cursor

namespace Operator

def ordering : List Operator := [.less, .lessOrEqual, .greater, .greaterOrEqual]

lemma ordering_of_head? {sp sp' : List Char} {o o' : Operator} (h : (sp, o) ∈ spellings)
    (h' : (sp', o') ∈ spellings) (hhead : sp.head? = sp'.head?) (ho : o ∈ ordering) :
    o' ∈ ordering := by
  have hall : ∀ x ∈ spellings, ∀ y ∈ spellings, x.1.head? = y.1.head? → x.2 ∈ ordering →
      y.2 ∈ ordering := by decide
  exact hall _ h _ h' hhead ho

lemma Longest.append {sp rest : List Char} {o : Operator} (h : Longest (sp ++ rest) sp o)
    (hrest : rest ≠ []) (s : List Char) : Longest (sp ++ (rest ++ s)) sp o := by
  refine longest_mk h.1 fun hlength => ?_
  rw [List.head?_append_of_ne_nil rest hrest]
  exact h.head?_ne hlength

/-- An operator that asks for an order may be read as another one in a longer text. That one asks
for an order, too. -/
lemma Longest.exists_append {sp after : List Char} {o : Operator} (h : Longest (sp ++ after) sp o)
    (ho : o ∈ ordering) (s : List Char) :
    ∃ sp' o' after', Longest (sp' ++ after') sp' o' ∧ o' ∈ ordering ∧
      sp ++ (after ++ s) = sp' ++ after' := by
  obtain ⟨ch, cs, rfl⟩ : ∃ ch cs, sp = ch :: cs := by
    obtain ⟨ch, -, rfl | rfl⟩ := spelling_cases h.1 <;> exact ⟨ch, _, rfl⟩
  obtain ⟨sp', o', after', h', heq⟩ | ⟨rfl, -⟩ :=
    exists_longest (starter_of_spelling h.1) (cs ++ (after ++ s))
  · have hhead : (ch :: cs).head? = sp'.head? := by
      obtain ⟨ch', -, rfl | rfl⟩ := spelling_cases h'.1 <;> simpa using congrArg List.head? heq
    exact ⟨sp', o', after', h', ordering_of_head? h.1 h'.1 hhead ho, by simpa using heq⟩
  · have hbang : ∀ x ∈ spellings, x.1.head? = some '!' → x.2 ∉ ordering := by decide
    exact absurd ho (hbang _ h.1 rfl)

end Operator

namespace Written

/-- A `!` at the end may still become an operator. -/
lemma exists_of_bang {w : List Char} (hw : Blank w) :
    ∃ (v : Written) (s : List Char), v.chars = w ++ ['!'] ++ s :=
  ⟨⟨w, .notEqual, ['!', '='], [], [], [], hw, by decide, by simp [Blank], by simp⟩, ['=', '"', '"'],
    by simp [chars]⟩

end Written

/-- The text is at fault only in that it ends. -/
def ParseError.BlamesEnd (e : ParseError) : Prop :=
  (∃ expected, e = .unexpectedEnd expected) ∨
    ∃ literal position, e = .unterminatedString literal position

namespace Rejected
variable {t : List Char} {e : ParseError} {n : Nat}

lemma exists_written (h : Rejected t e n) (he : e.BlamesEnd) :
    ∃ (w : Written) (s : List Char), w.chars = t ++ s := by
  cases h with
  | noOperator h =>
    cases h with
    | nothing hw =>
      exact ⟨⟨t, .equal, ['='], [], [], [], hw, by decide, by simp [Blank], by simp⟩,
        ['=', '"', '"'], by simp [Written.chars]⟩
    | bang | stray => simp [ParseError.BlamesEnd] at he
  | ordering | unquoted => simp [ParseError.BlamesEnd] at he
  | @noLiteral w sp w' k hw hsp hw' =>
    exact ⟨⟨w, k, sp, w', [], [], hw, Comparison.mem_spellings.2 hsp.1, hw', by simp⟩, ['"', '"'],
      by simp [Written.chars]⟩
  | @unterminated w sp w' literal k hw hsp hw' hl =>
    exact ⟨⟨w, k, sp, w', literal, [], hw, Comparison.mem_spellings.2 hsp.1, hw', hl⟩, ['"'],
      by simp [Written.chars]⟩

/-- A fault in the middle of a text remains, whatever comes behind it. -/
lemma append (h : Rejected t e n) (he : ¬ e.BlamesEnd) (hbang : ∀ w, Blank w → t ≠ w ++ ['!'])
    (s : List Char) : ∃ e' n', Rejected (t ++ s) e' n' := by
  cases h with
  | noOperator h =>
    cases h with
    | nothing hw => exact absurd (.inl ⟨_, rfl⟩) he
    | @bang w after hw hafter =>
      have hne : after ≠ [] := by
        rintro rfl
        exact hbang w hw rfl
      have hhead : (after ++ s).head? ≠ some '=' := by
        rwa [List.head?_append_of_ne_nil after hne]
      have hlong : OperatorRejected (w ++ '!' :: (after ++ s)) _ _ := .bang hw hhead
      exact ⟨_, _, by simpa using Rejected.noOperator hlong⟩
    | @stray w ch after hw hb hch =>
      have hlong : OperatorRejected (w ++ ch :: (after ++ s)) _ _ := .stray hw hb hch
      exact ⟨_, _, by simpa using Rejected.noOperator hlong⟩
  | @ordering w sp after o hw hsp ho =>
    -- `<` at the end of a text may become `<=`
    obtain ⟨sp', o', after', hsp', ho', heq⟩ := hsp.exists_append ho s
    have hlong : Rejected (w ++ (sp' ++ after')) _ _ := .ordering hw hsp' ho'
    exact ⟨_, _, by simpa [heq] using hlong⟩
  | noLiteral => exact absurd (.inl ⟨_, rfl⟩) he
  | @unquoted w sp w' ch after k hw hsp hw' hb hch =>
    have hspelling := hsp.append (by simp) s
    rw [List.append_assoc] at hspelling
    have hlong : Rejected (w ++ (sp ++ (w' ++ ch :: (after ++ s)))) _ _ :=
      .unquoted hw hspelling hw' hb hch
    exact ⟨_, _, by simpa using hlong⟩
  | unterminated => exact absurd (.inr ⟨_, _, rfl⟩) he

end Rejected

lemma exists_written_append_iff {t : List Char} :
    (∃ (w : Written) (s : List Char), w.chars = t ++ s) ↔
      (∃ w : Written, w.chars = t) ∨ (∃ e, (∃ n, Rejected t e n) ∧ e.BlamesEnd) ∨
        ∃ w, Blank w ∧ t = w ++ ['!'] := by
  constructor
  · rintro ⟨w, s, hw⟩
    obtain hwritten | ⟨e, n, h⟩ := exists_written_or_rejected t
    · exact .inl hwritten
    · by_contra hnot
      simp only [not_or, not_exists, not_and] at hnot
      obtain ⟨-, hblames, hbang⟩ := hnot
      obtain ⟨e', n', h'⟩ := h.append (hblames e ⟨n, h⟩) hbang s
      exact h'.not_written w hw
  · rintro (⟨w, hw⟩ | ⟨e, ⟨n, h⟩, he⟩ | ⟨w, hw, rfl⟩)
    · exact ⟨w, [], by simp [hw]⟩
    · exact h.exists_written he
    · exact Written.exists_of_bang hw

namespace Predicate
variable {σ : Type}

lemma exists_ofText_append_ok (extract : σ → String) (ignoreCase : Bool) (t : String) :
    (∃ s, (ofText extract ignoreCase (t ++ s)).result = .ok ()) ↔
      ∃ (w : Written) (s : List Char), w.chars = t.toList ++ s := by
  simp only [ofText_result_eq_ok, String.toList_append]
  constructor
  · rintro ⟨s, w, hw⟩
    exact ⟨w, s.toList, hw⟩
  · rintro ⟨w, s, hw⟩
    exact ⟨String.ofList s, w, by rw [hw, String.toList_ofList]⟩

/-- There is something that a text can go on with, so that an attempt on the whole succeeds, exactly
if the attempt on the text itself succeeds or blames its end, or only a `!` is there. Once an
attempt succeeds, the predicate is the same however the text goes on. -/
theorem ofText_append_ok_iff (extract : σ → String) (ignoreCase : Bool) (t : String) :
    ((∃ s, (ofText extract ignoreCase (t ++ s)).result = .ok ()) ↔
      (ofText extract ignoreCase t).result = .ok () ∨
      (∃ e, (ofText extract ignoreCase t).result = .error e ∧ e.BlamesEnd) ∨
      ∃ w, Blank w ∧ t.toList = w ++ ['!']) ∧
    ((ofText extract ignoreCase t).result = .ok () →
      ∀ s, (ofText extract ignoreCase (t ++ s)).result = .ok () ∧
        (ofText extract ignoreCase (t ++ s)).predicate =
          (ofText extract ignoreCase t).predicate) := by
  constructor
  · rw [exists_ofText_append_ok, exists_written_append_iff]
    simp only [ofText_result_eq_ok, ofText_result_eq_error]
  · intro hok s
    obtain ⟨w, hw⟩ := (ofText_result_eq_ok extract ignoreCase t).1 hok
    have hlong : (w.extend s.toList).chars = (t ++ s).toList := by
      rw [Written.chars_extend, hw, String.toList_append]
    obtain ⟨hresult, hpredicate⟩ := ofText_of_written extract ignoreCase hlong
    rw [hresult, hpredicate, (ofText_of_written extract ignoreCase hw).2]
    exact ⟨rfl, rfl⟩

end Predicate
end TextPredicate
