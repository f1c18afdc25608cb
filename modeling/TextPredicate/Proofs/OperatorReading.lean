import TextPredicate.Reading
import TextPredicate.Proofs.CursorEvents

/-!
What reading an operator comes to. `Reads` lists the ways in which it ends, by what stands at the
cursor once the blanks are skipped, and `reads_iff` says that the reader takes the one that applies.
Where a spelling stands behind the blanks, the longest one is read.
-/
namespace TextPredicate
open Source Cursor

/-- Where every reading ends in one of some ways, and only as they say, it is described by them. -/
lemma Reading.described_iff {α : Type} {Ends : Reading α → Prop} {r r' : Reading α}
    (hsound : ∀ x, Ends x → r = x) (htotal : ∃ x, Ends x) : Ends r' ↔ r = r' := by
  constructor
  · exact hsound r'
  · intro heq
    obtain ⟨x, hx⟩ := htotal
    rw [← heq, hsound x hx]
    exact hx

namespace Operator

inductive Reads (start : Cursor) : Reading Operator → Prop
  | nothing (h : start.read.1 = none) :
      Reads start ⟨.error (.unexpectedEnd "comparison operator"), start.read.2, []⟩
  | stray {ch s} (h : start.events = some ch :: s) (hch : ch ∉ starters) :
      Reads start ⟨.error (.unknownOperator ch.toString start.position),
        ⟨s, some ch, start.position⟩, []⟩
  | bang {s} (h : start.events = some '!' :: s) (hs : s.head? ≠ some (some '=')) :
      Reads start ⟨.error (.unknownOperator "!" start.position),
        (Cursor.peek ⟨s, none, start.position + 1⟩).2, []⟩
  | single {ch s o} (h : start.events = some ch :: s) (hs : s.head? ≠ some (some '='))
      (ho : ([ch], o) ∈ spellings) :
      Reads start ⟨.ok o, (Cursor.peek ⟨s, none, start.position + 1⟩).2,
        [.operatorRead o start.position]⟩
  | double {ch s o} (h : start.events = some ch :: some '=' :: s)
      (ho : ([ch, '='], o) ∈ spellings) :
      Reads start ⟨.ok o, ⟨s, none, start.position + 2⟩, [.operatorRead o start.position]⟩

lemma starter_of_spelling {ch : Char} {cs : List Char} {o : Operator}
    (h : (ch :: cs, o) ∈ spellings) : ch ∈ starters := by
  have hall : ∀ x ∈ spellings, x.1.head?.all (starters.contains ·) = true := by decide
  simpa using hall _ h

lemma starter_not_blank {ch : Char} (h : ch ∈ starters) : isBlank ch = false := by
  have hall : starters.all (!isBlank ·) = true := by decide
  simpa using List.all_eq_true.1 hall ch h

lemma spelling_cases {sp : List Char} {o : Operator} (h : (sp, o) ∈ spellings) :
    ∃ ch ∈ starters, sp = [ch] ∨ sp = [ch, '='] := by
  have hall : ∀ x ∈ spellings,
      x.1 ∈ starters.map ([·]) ∨ x.1 ∈ starters.map ([·, '=']) := by decide
  obtain hone | htwo := hall _ h
  · obtain ⟨ch, hch, heq⟩ := List.mem_map.1 hone
    exact ⟨ch, hch, .inl heq.symm⟩
  · obtain ⟨ch, hch, heq⟩ := List.mem_map.1 htwo
    exact ⟨ch, hch, .inr heq.symm⟩

lemma read_eq_of_reads {c : Cursor} {r : Reading Operator} (h : Reads c.skipBlanks r) :
    read c = r := by
  cases h with
  | nothing h =>
    have hread : c.skipBlanks.read = (none, c.skipBlanks.read.2) := Prod.ext h rfl
    simp only [read]
    rw [hread]
    rfl
  | stray h hch => simp [read, read_some h, hch, Reading.failure, Cursor.unread]
  | bang h hs =>
    have hacc := accept_of_ne (c := ⟨_, none, c.skipBlanks.position + 1⟩) hs
    have hnone : ofSpelling? '!' false = none := rfl
    have hch : '!' ∈ starters := by decide
    simp only [read, read_some h, hacc, hnone, hch, if_true, Reading.failure]
    rfl
  | @single ch s o h hs ho =>
    have hacc := accept_of_ne (c := ⟨_, none, c.skipBlanks.position + 1⟩) hs
    have hsome : ofSpelling? ch false = some o := ofSpelling?_eq_some.2 ho
    have hch := starter_of_spelling ho
    simp [read, read_some h, hacc, hsome, hch, Reading.success]
  | @double ch s o h ho =>
    have hacc := accept_same (c := ⟨some '=' :: s, none, c.skipBlanks.position + 1⟩) rfl
    have hsome : ofSpelling? ch true = some o := ofSpelling?_eq_some.2 ho
    have hch := starter_of_spelling ho
    simp [read, read_some h, hacc, hsome, hch, Reading.success]

lemma exists_reads (start : Cursor) : ∃ r, Reads start r := by
  by_cases hnone : start.read.1 = none
  · exact ⟨_, .nothing hnone⟩
  obtain ⟨ch, s, h⟩ := exists_char_of_read hnone
  by_cases hch : ch ∈ starters
  · by_cases hs : s.head? = some (some '=')
    · obtain ⟨s, rfl⟩ := List.head?_eq_some_iff.1 hs
      cases ho : ofSpelling? ch true with
      | none => simp [ofSpelling?_eq_none hch] at ho
      | some o => exact ⟨_, .double h (ofSpelling?_eq_some.1 ho)⟩
    · cases ho : ofSpelling? ch false with
      | none =>
        obtain ⟨rfl, -⟩ := (ofSpelling?_eq_none hch).1 ho
        exact ⟨_, .bang h hs⟩
      | some o => exact ⟨_, .single h hs (ofSpelling?_eq_some.1 ho)⟩
  · exact ⟨_, .stray h hch⟩

theorem reads_iff {c : Cursor} {r : Reading Operator} : Reads c.skipBlanks r ↔ read c = r :=
  Reading.described_iff (fun _ => read_eq_of_reads) (exists_reads c.skipBlanks)

lemma read_blank {c : Cursor} {w : List Char} (hw : Blank w) (hc : c.events = w.map some) :
    read c = ⟨.error (.unexpectedEnd "comparison operator"),
      ⟨[], none, c.position + w.length⟩, []⟩ := by
  obtain ⟨hev, hpos⟩ := skipBlanks_to_end hw hc
  rw [reads_iff.1 (.nothing (by rw [read_nil hev])), read_nil hev, hpos]

lemma read_stray {c : Cursor} {w : List Char} {s : Source} {ch : Char} (hw : Blank w)
    (hb : isBlank ch = false) (hch : ch ∉ starters) (hc : c.events = w.map some ++ some ch :: s) :
    read c = ⟨.error (.unknownOperator ch.toString (c.position + w.length)),
      ⟨s, some ch, c.position + w.length⟩, []⟩ := by
  obtain ⟨hev, hpos⟩ := skipBlanks_to_char hw .absent hb (by simpa using hc)
  rw [reads_iff.1 (.stray hev hch), hpos]

lemma read_bang {c : Cursor} {w : List Char} {s : Source} (hw : Blank w)
    (hs : s.head? ≠ some (some '=')) (hc : c.events = w.map some ++ some '!' :: s) :
    read c = ⟨.error (.unknownOperator "!" (c.position + w.length)),
      (Cursor.peek ⟨s, none, c.position + w.length + 1⟩).2, []⟩ := by
  have hb : isBlank '!' = false := rfl
  obtain ⟨hev, hpos⟩ := skipBlanks_to_char hw .absent hb (by simpa using hc)
  rw [reads_iff.1 (.bang hev hs), hpos]

/-- A spelling behind blanks is read, and so is an end right behind a single character. -/
lemma read_spelling {c : Cursor} {w sp : List Char} {e s : Source} {o : Operator} (hw : Blank w)
    (he : AtMostOneEnd e) (hsp : (sp, o) ∈ spellings)
    (hs : sp.length = 1 → s.head? ≠ some (some '='))
    (hc : c.events = w.map some ++ e ++ (sp.map some ++ s)) :
    ∃ c', read c = ⟨.ok o, c', [.operatorRead o (c.position + w.length)]⟩ ∧
      c'.events = (if sp.length = 1 then s.dropEnd else s) ∧
      c'.position = c.position + w.length + sp.length := by
  obtain ⟨ch, hch, rfl | rfl⟩ := spelling_cases hsp
  · obtain ⟨hev, hpos⟩ := skipBlanks_to_char hw he (starter_not_blank hch) hc
    have hread := reads_iff.1 (.single hev (hs rfl) hsp)
    rw [hpos] at hread
    exact ⟨_, hread, by simp, by simp⟩
  · obtain ⟨hev, hpos⟩ := skipBlanks_to_char hw he (starter_not_blank hch) hc
    have hread := reads_iff.1 (.double hev hsp)
    rw [hpos] at hread
    exact ⟨_, hread, by simp, by simp⟩

/-- A spelling with which a text begins, and no longer one does. -/
def Longest (text sp : List Char) (o : Operator) : Prop :=
  (sp, o) ∈ spellings ∧ sp <+: text ∧ ∀ x ∈ spellings, x.1 <+: text → x.1.length ≤ sp.length

lemma longest_mk {sp after : List Char} {o : Operator} (hsp : (sp, o) ∈ spellings)
    (h : sp.length = 1 → after.head? ≠ some '=') : Longest (sp ++ after) sp o := by
  refine ⟨hsp, List.prefix_append sp after, ?_⟩
  rintro ⟨x, o'⟩ hx hpre
  obtain ⟨a, -, rfl | rfl⟩ := spelling_cases hx
  · obtain ⟨ch, -, rfl | rfl⟩ := spelling_cases hsp <;> simp
  · obtain ⟨ch, -, rfl | rfl⟩ := spelling_cases hsp
    · cases after with
      | nil => simp at hpre
      | cons y after =>
        have hy : y ≠ '=' := by simpa using h rfl
        simp [List.cons_prefix_cons, hy.symm] at hpre
    · simp

lemma Longest.head?_ne {sp after : List Char} {o : Operator} (h : Longest (sp ++ after) sp o)
    (hlen : sp.length = 1) : after.head? ≠ some '=' := by
  intro hhead
  obtain ⟨hsp, -, hmax⟩ := h
  obtain ⟨after, rfl⟩ := List.head?_eq_some_iff.1 hhead
  have hlonger : ∀ x ∈ spellings, x.1.length = 1 → x.1 ++ ['='] ∈ spellings.map (·.1) := by decide
  obtain ⟨x, hx, hxe : x.1 = sp ++ ['=']⟩ := List.mem_map.1 (hlonger _ hsp hlen)
  have hpre : x.1 <+: sp ++ '=' :: after := ⟨after, by rw [hxe]; simp⟩
  have hle := hmax x hx hpre
  rw [hxe, List.length_append, List.length_singleton] at hle
  omega

/-- In a text the longest spelling is read and nothing behind it. -/
lemma read_longest {c : Cursor} {w sp after : List Char} {o : Operator} (hw : Blank w)
    (hsp : Longest (sp ++ after) sp o) (hc : c.events = (w ++ (sp ++ after)).map some) :
    ∃ c', read c = ⟨.ok o, c', [.operatorRead o (c.position + w.length)]⟩ ∧
      c'.events = after.map some ∧ c'.position = c.position + w.length + sp.length := by
  have hs : sp.length = 1 → (after.map some).head? ≠ some (some '=') := by
    intro hlen
    simpa using hsp.head?_ne hlen
  obtain ⟨c', hread, hev, hpos⟩ :=
    read_spelling hw .absent hsp.1 hs (by simpa using hc)
  exact ⟨c', hread, by simpa using hev, hpos⟩

/-- Where an operator begins, there is a longest spelling, unless it is a lone `!`. -/
lemma exists_longest {ch : Char} (hch : ch ∈ starters) (after : List Char) :
    (∃ sp o rest, Longest (sp ++ rest) sp o ∧ ch :: after = sp ++ rest) ∨
      ch = '!' ∧ after.head? ≠ some '=' := by
  by_cases hhead : after.head? = some '='
  · obtain ⟨after, rfl⟩ := List.head?_eq_some_iff.1 hhead
    cases ho : ofSpelling? ch true with
    | none => simp [ofSpelling?_eq_none hch] at ho
    | some o =>
      exact .inl ⟨[ch, '='], o, after, longest_mk (ofSpelling?_eq_some.1 ho) (by simp), rfl⟩
  · cases ho : ofSpelling? ch false with
    | none => exact .inr ⟨((ofSpelling?_eq_none hch).1 ho).1, hhead⟩
    | some o =>
      exact .inl ⟨[ch], o, after, longest_mk (ofSpelling?_eq_some.1 ho) fun _ => hhead, rfl⟩

end Operator
end TextPredicate
