import TextPredicate.Predicate
import TextPredicate.Proofs.ReadingBack

/-!
Messages of errors and descriptions of predicates. The first words of a message tell the kind of
error; behind them each field can be read back, up to the fixed words that follow it. The two
layouts of a description differ only in what stands between the fields and behind them (`trailing`).
Main statements: a message tells the error with all its fields, whatever text stands in it, and two
predicates have one description, on one line or expanded, exactly if nothing but the way in which
they extract texts tells them apart.
-/
namespace TextPredicate
open Text

lemma Text.quoted_at_unique {words : String} {s t : String} {m n : Nat}
    (h : words ++ quoteText s ++ " at position " ++ toString m =
      words ++ quoteText t ++ " at position " ++ toString n) : s = t ∧ m = n := by
  have hchars := congrArg String.toList h
  simp only [String.toList_append, List.append_assoc, List.append_cancel_left_eq] at hchars
  obtain ⟨htext, hrest⟩ := selfDelimiting_quoteText hchars
  exact ⟨htext, toString_injective (List.append_cancel_left hrest)⟩

lemma Operator.symbol_injective {o o' : Operator} (h : o.symbol = o'.symbol) : o = o' := by
  have hall : ∀ x ∈ all, ∀ y ∈ all, x.symbol = y.symbol → x = y := by decide
  exact hall o (mem_all o) o' (mem_all o') h

namespace ParseError

/-- The characters by which a message tells of what kind the error is. -/
def opening : ParseError → List Char
  | unknownOperator .. => ['u', 'n', 'k', 'n', 'o', 'w', 'n']
  | unsupportedOperator _ => ['u', 'n', 's', 'u', 'p', 'p', 'o']
  | expectedString .. => ['e', 'x', 'p', 'e', 'c', 't', 'e']
  | unexpectedEnd _ => ['u', 'n', 'e', 'x', 'p', 'e', 'c']
  | unterminatedString .. => ['u', 'n', 't', 'e', 'r', 'm', 'i']
  | alreadyParsed => ['t', 'o', 'k', 'e', 'n', ' ', 'a']
  | unusable => ['t', 'o', 'k', 'e', 'n', ' ', 'u']

lemma take_message (e : ParseError) : e.message.toList.take 7 = e.opening := by
  unfold message
  cases e <;> simp [opening]

/-- A character is known from its code point, and the position from what is behind the character. -/
lemma expectedString_unique {c c' : Char} {m n : Nat}
    (h : (expectedString c m).message = (expectedString c' n).message) : c = c' ∧ m = n := by
  unfold message at h
  have hchars := congrArg String.toList h
  simp only [String.toList_append, List.append_assoc, List.append_cancel_left_eq] at hchars
  have hspace : ∀ s : List Char, " (".toList ++ s = ' ' :: ("(".toList ++ s) := fun _ => rfl
  rw [hspace, hspace] at hchars
  obtain ⟨hcode, hrest⟩ := digits_unique (by decide) (by decide) hchars
  obtain rfl := Char.toNat_inj.1 hcode
  simp only [List.append_cancel_left_eq] at hrest
  exact ⟨rfl, toString_injective hrest⟩

/-- Two errors with one message are the same. -/
theorem message_inj (a b : ParseError) : a.message = b.message ↔ a = b := by
  refine ⟨fun h => ?_, congrArg message⟩
  have hopening : a.opening = b.opening := by rw [← take_message, ← take_message, h]
  cases a with
  | unknownOperator found position =>
    cases b with
    | unknownOperator found' position' =>
      obtain ⟨rfl, rfl⟩ := quoted_at_unique h
      rfl
    | _ => simp [opening] at hopening
  | unsupportedOperator operator =>
    cases b with
    | unsupportedOperator operator' =>
      rw [Operator.symbol_injective ((String.append_right_inj _).1 h)]
    | _ => simp [opening] at hopening
  | expectedString found position =>
    cases b with
    | expectedString found' position' =>
      obtain ⟨rfl, rfl⟩ := expectedString_unique h
      rfl
    | _ => simp [opening] at hopening
  | unexpectedEnd expected =>
    cases b with
    | unexpectedEnd expected' => rw [(String.append_right_inj _).1 h]
    | _ => simp [opening] at hopening
  | unterminatedString literal position =>
    cases b with
    | unterminatedString literal' position' =>
      obtain ⟨rfl, rfl⟩ := quoted_at_unique h
      rfl
    | _ => simp [opening] at hopening
  | alreadyParsed =>
    cases b with
    | alreadyParsed => rfl
    | _ => simp [opening] at hopening
  | unusable =>
    cases b with
    | unusable => rfl
    | _ => simp [opening] at hopening

end ParseError
end TextPredicate

namespace TextPredicate

namespace Text

/-- The fields behind the first one, with what separates them, and what closes them. -/
def trailing (separator closing : String) (fs : List Field) : String :=
  String.join (fs.map fun f => separator ++ f.1 ++ ": " ++ f.2) ++ closing

@[simp] lemma trailing_nil (separator closing : String) :
    trailing separator closing [] = closing := by
  simp [trailing]

@[simp] lemma trailing_cons (separator closing : String) (f : Field) (fs : List Field) :
    trailing separator closing (f :: fs) =
      separator ++ f.1 ++ ": " ++ f.2 ++ trailing separator closing fs := by
  simp [trailing, String.append_assoc]

lemma intercalate_append (s closing : String) (f : Field) (fs : List Field) :
    s.intercalate ((f :: fs).map fun f => f.1 ++ ": " ++ f.2) ++ closing =
      f.1 ++ ": " ++ f.2 ++ trailing s closing fs := by
  induction fs generalizing f with
  | nil => simp
  | cons g fs ih =>
    have hrest := ih g
    rw [List.map_cons] at hrest
    rw [List.map_cons, List.map_cons, String.intercalate_cons_cons, String.append_assoc, hrest,
      trailing_cons]
    simp only [String.append_assoc]

lemma lines_append (f : Field) (fs : List Field) :
    String.join ((f :: fs).map fun f => "    " ++ f.1 ++ ": " ++ f.2 ++ ",\n") ++ "\x7d" =
      "    " ++ f.1 ++ ": " ++ f.2 ++ trailing ",\n    " ",\n\x7d" fs := by
  induction fs generalizing f with
  | nil =>
    have hclosing : ",\n\x7d" = ",\n" ++ "\x7d" := rfl
    simp [hclosing, String.append_assoc]
  | cons g fs ih =>
    have hseparator : ",\n    " = ",\n" ++ "    " := rfl
    rw [List.map_cons, String.join_cons, String.append_assoc, ih g, trailing_cons]
    simp only [hseparator, String.append_assoc]

/-- A description is laid out as its first field with what is written around the other ones. -/
lemma compact_cons (name : String) (f : Field) (fs : List Field) :
    compact name (f :: fs) =
      name ++ " \x7b " ++ f.1 ++ ": " ++ (f.2 ++ trailing ", " " \x7d" fs) := by
  rw [compact, String.append_assoc, intercalate_append]
  simp only [String.append_assoc]

lemma expanded_cons (name : String) (f : Field) (fs : List Field) :
    expanded name (f :: fs) =
      name ++ " \x7b\n    " ++ f.1 ++ ": " ++ (f.2 ++ trailing ",\n    " ",\n\x7d" fs) := by
  have hopening : " \x7b\n    " = " \x7b\n" ++ "    " := rfl
  simp only [expanded]
  rw [String.append_assoc, lines_append, hopening]
  simp only [String.append_assoc]

end Text

open Text

lemma Comparison.selfDelimiting_name : SelfDelimiting fun k : Comparison => k.name.toList := by
  refine selfDelimiting_of_head (fun k => ?_) fun k l h => ?_
  · cases k <;> decide
  · cases k <;> cases l <;> revert h <;> decide

lemma selfDelimiting_toString_bool : SelfDelimiting fun b : Bool => (toString b).toList := by
  refine selfDelimiting_of_head (fun b => ?_) fun a b h => ?_
  · cases b <;> decide
  · cases a <;> cases b <;> revert h <;> decide

namespace Predicate
variable {σ τ : Type}

def State.fields : State → List Field
  | unparsed => []
  | failed => [("failed", "true")]
  | parsed k => [("comparison", k.comparison.name), ("literal", quoteText k.literal)]

lemma fields_eq (p : Predicate σ) :
    p.fields = ("ignore_case", toString p.ignoreCase) :: p.state.fields := by
  cases h : p.state <;> simp [fields, h, State.fields]

variable {separator closing : String}

lemma trailing_parsed_unique {k l : Condition}
    (h : trailing separator closing (State.parsed k).fields =
      trailing separator closing (State.parsed l).fields) : k = l := by
  have hchars := congrArg String.toList h
  simp only [State.fields, trailing_cons, trailing_nil, String.toList_append, List.append_assoc,
    List.append_cancel_left_eq] at hchars
  obtain ⟨hcomparison, hrest⟩ := Comparison.selfDelimiting_name hchars
  simp only [List.append_cancel_left_eq] at hrest
  obtain ⟨hliteral, -⟩ := selfDelimiting_quoteText hrest
  obtain ⟨comparison, literal⟩ := k
  exact congrArg₂ Condition.mk hcomparison hliteral

lemma trailing_fields (separator closing : String) {s : State} (h : s ≠ .unparsed) :
    ∃ rest, trailing separator closing s.fields = separator ++ rest := by
  cases s with
  | unparsed => exact absurd rfl h
  | failed => exact ⟨_, by simp only [State.fields, trailing_cons, String.append_assoc]; rfl⟩
  | parsed k => exact ⟨_, by simp only [State.fields, trailing_cons, String.append_assoc]; rfl⟩

lemma trailing_failed_ne (k : Condition) :
    trailing separator closing State.failed.fields ≠
      trailing separator closing (State.parsed k).fields := by
  intro h
  have hchars := congrArg String.toList h
  simp [State.fields, List.append_assoc] at hchars

/-- The fields beside the option tell the state, where no separator begins the closing. -/
lemma trailing_unique (hseparator : ∀ rest, separator ++ rest ≠ closing) {s t : State}
    (h : trailing separator closing s.fields = trailing separator closing t.fields) : s = t := by
  have hclosed : ∀ u : State, trailing separator closing u.fields = closing → u = .unparsed := by
    intro u hu
    by_contra hne
    obtain ⟨rest, heq⟩ := trailing_fields separator closing hne
    exact hseparator rest (heq.symm.trans hu)
  cases s with
  | unparsed => exact (hclosed t (h.symm.trans (trailing_nil _ _))).symm
  | failed =>
    cases t with
    | unparsed => exact hclosed _ (h.trans (trailing_nil _ _))
    | failed => rfl
    | parsed l => exact absurd h (trailing_failed_ne l)
  | parsed k =>
    cases t with
    | unparsed => exact hclosed _ (h.trans (trailing_nil _ _))
    | failed => exact absurd h.symm (trailing_failed_ne k)
    | parsed l => rw [trailing_parsed_unique h]

/-- Behind fixed words, the option and the state can be read from their fields. -/
lemma layout_unique {words : String} {p : Predicate σ} {q : Predicate τ}
    (hseparator : ∀ rest, separator ++ rest ≠ closing)
    (h : words ++ (toString p.ignoreCase ++ trailing separator closing p.state.fields) =
      words ++ (toString q.ignoreCase ++ trailing separator closing q.state.fields)) :
    p.ignoreCase = q.ignoreCase ∧ p.state = q.state := by
  have hchars := congrArg String.toList ((String.append_right_inj _).1 h)
  simp only [String.toList_append] at hchars
  obtain ⟨hoption, hrest⟩ := selfDelimiting_toString_bool hchars
  exact ⟨hoption, trailing_unique hseparator (String.toList_inj.1 hrest)⟩

/-- Two predicates that agree in all that can be asked of them beside their verdicts. -/
structure LooksLike (p : Predicate σ) (q : Predicate τ) : Prop where
  ignoreCase : p.ignoreCase = q.ignoreCase
  unparsed : p.state = .unparsed ↔ q.state = .unparsed
  failed : p.state = .failed ↔ q.state = .failed
  parsed : p.isParsed = q.isParsed
  comparison : p.comparison? = q.comparison?
  literal : p.literal? = q.literal?

lemma LooksLike.state_eq {p : Predicate σ} {q : Predicate τ} (h : LooksLike p q) :
    p.state = q.state := by
  cases hp : p.state with
  | unparsed => exact (h.unparsed.1 hp).symm
  | failed => exact (h.failed.1 hp).symm
  | parsed k =>
    cases hq : q.state with
    | unparsed => exact hp.symm.trans (h.unparsed.2 hq)
    | failed => exact hp.symm.trans (h.failed.2 hq)
    | parsed l =>
      have hcomparison := h.comparison
      have hliteral := h.literal
      simp only [comparison?, literal?, condition?, hp, hq, Option.map_some, Option.some.injEq]
        at hcomparison hliteral
      obtain ⟨comparison, literal⟩ := k
      exact congrArg State.parsed (congrArg₂ Condition.mk hcomparison hliteral)

lemma looksLike_iff {p : Predicate σ} {q : Predicate τ} :
    LooksLike p q ↔ p.ignoreCase = q.ignoreCase ∧ p.state = q.state := by
  constructor
  · exact fun h => ⟨h.ignoreCase, h.state_eq⟩
  · rintro ⟨hoption, hstate⟩
    have hcondition : p.condition? = q.condition? := by rw [condition?, condition?, hstate]
    refine ⟨hoption, by rw [hstate], by rw [hstate], ?_, ?_, ?_⟩
    · rw [isParsed, isParsed, hcondition]
    · rw [comparison?, comparison?, hcondition]
    · rw [literal?, literal?, hcondition]

/-- One description, one expanded description, or the same to see: each implies the others. Texts in
a literal that look like fields or the end of a description change nothing in this. -/
theorem description_eq_iff (p : Predicate σ) (q : Predicate τ) :
    (p.description = q.description ↔ LooksLike p q) ∧
    (p.expandedDescription = q.expandedDescription ↔ LooksLike p q) := by
  simp only [description, expandedDescription, fields_eq, compact_cons, expanded_cons,
    looksLike_iff]
  refine ⟨⟨fun h => layout_unique (fun rest heq => ?_) h, fun h => by rw [h.1, h.2]⟩,
    ⟨fun h => layout_unique (fun rest heq => ?_) h, fun h => by rw [h.1, h.2]⟩⟩
  · simpa using congrArg String.toList heq
  · simpa using congrArg String.toList heq

end Predicate
end TextPredicate
