import Mathlib.Tactic.Lemma
import Mathlib.Tactic.TypeStar
import TextPredicate.Cursor

/-!
What the operations of a cursor do to the events that are still to come and to the position. An
operation that looks ahead drops at most one end, and `skipBlanks` drops it behind the blanks.
-/
namespace TextPredicate

def Blank (cs : List Char) : Prop := ∀ ch ∈ cs, Cursor.isBlank ch = true

namespace Source

inductive AtMostOneEnd : Source → Prop
  | absent : AtMostOneEnd []
  | present : AtMostOneEnd [none]

/-- Uses up an end that comes first. -/
def dropEnd : Source → Source
  | none :: rest => rest
  | rest => rest

@[simp] lemma dropEnd_nil : dropEnd [] = [] := rfl

@[simp] lemma dropEnd_none (s : Source) : dropEnd (none :: s) = s := rfl

@[simp] lemma dropEnd_some (ch : Char) (s : Source) : dropEnd (some ch :: s) = some ch :: s := rfl

@[simp] lemma dropEnd_map_some (cs : List Char) : dropEnd (cs.map some) = cs.map some := by
  cases cs <;> rfl

def chars (s : Source) : List Char := s.filterMap id

@[simp] lemma chars_nil : chars [] = [] := rfl

@[simp] lemma chars_end (s : Source) : chars (none :: s) = chars s := rfl

@[simp] lemma chars_char (ch : Char) (s : Source) : chars (some ch :: s) = ch :: chars s := rfl

@[simp] lemma chars_append (s t : Source) : chars (s ++ t) = chars s ++ chars t :=
  List.filterMap_append

@[simp] lemma chars_map_some (cs : List Char) : chars (cs.map some) = cs := by
  simp [chars, List.filterMap_map]

lemma chars_of_atMostOneEnd {e : Source} (h : AtMostOneEnd e) : chars e = [] := by
  cases h <;> rfl

lemma exists_eq_append_dropEnd (s : Source) :
    ∃ e, AtMostOneEnd e ∧ s = e ++ s.dropEnd ∧ (e = [] → s.head? ≠ some none) := by
  cases s with
  | nil => exact ⟨[], .absent, rfl, by simp⟩
  | cons x rest =>
    cases x with
    | none => exact ⟨[none], .present, rfl, by simp⟩
    | some ch => exact ⟨[], .absent, rfl, by simp⟩

/-- An end before some blanks is used up, or else one that follows no blanks. -/
lemma dropEnd_blanks {e₁ e₂ : Source} {w : List Char} (h₁ : AtMostOneEnd e₁) (h₂ : AtMostOneEnd e₂)
    (ch : Char) (s : Source) :
    ∃ e, AtMostOneEnd e ∧
      (e₁ ++ w.map some ++ e₂ ++ some ch :: s).dropEnd = w.map some ++ e ++ some ch :: s := by
  cases h₁ with
  | present => exact ⟨e₂, h₂, by simp⟩
  | absent =>
    cases w with
    | cons x w => exact ⟨e₂, h₂, by simp⟩
    | nil => cases h₂ <;> exact ⟨[], .absent, by simp⟩

lemma span_eq_self {p : Char → Bool} {s : Source}
    (h : ∀ ch, s.head? = some (some ch) → p ch = false) : span p s = ([], s) := by
  cases s with
  | nil => rfl
  | cons x rest =>
    cases x with
    | none => rfl
    | some ch => simp [span, h ch rfl]

lemma span_eq {p : Char → Bool} {run : List Char} {s : Source} (hrun : ∀ ch ∈ run, p ch = true)
    (hs : ∀ ch, s.head? = some (some ch) → p ch = false) :
    span p (run.map some ++ s) = (run, s) := by
  rw [span_append hrun, span_eq_self hs, List.append_nil]

lemma exists_run (p : Char → Bool) (s : Source) :
    ∃ (run : List Char) (rest : Source), s = run.map some ++ rest ∧ (∀ ch ∈ run, p ch = true) ∧
      ∀ ch, rest.head? = some (some ch) → p ch = false :=
  ⟨(span p s).1, (span p s).2, (map_span_append p s).symm, fun _ => forall_mem_span,
    fun _ => head?_span⟩

lemma span_map_some (p : Char → Bool) (cs : List Char) :
    span p (cs.map some) = (cs.takeWhile p, (cs.dropWhile p).map some) := by
  induction cs with
  | nil => rfl
  | cons ch cs ih => by_cases h : p ch = true <;> simp [span, h, ih]

end Source

namespace Cursor
open Source

@[simp] lemma isBlank_quote : isBlank '"' = false := rfl

lemma ne_equals_of_blank {ch : Char} (h : isBlank ch = true) : ch ≠ '=' := by
  rintro rfl
  simp [isBlank] at h

lemma head?_blanks_append_ne {w s : List Char} (hw : Blank w) (hs : w = [] → s.head? ≠ some '=') :
    (w ++ s).head? ≠ some '=' := by
  cases w with
  | nil => exact hs rfl
  | cons x w =>
    have hx : isBlank x = true := hw x (by simp)
    simp [ne_equals_of_blank hx]

@[simp] lemma events_peek (c : Cursor) : c.peek.2.events = c.events.dropEnd := by
  match h : c.events with
  | [] => simp [peek_nil h]
  | none :: rest => simp [peek_end h]
  | some ch :: rest => simp [peek_some h]

@[simp] lemma position_peek (c : Cursor) : c.peek.2.position = c.position := by
  match h : c.events with
  | [] => simp [peek_nil h]
  | none :: rest => simp [peek_end h]
  | some ch :: rest => simp [peek_some h]

lemma read_eq (c : Cursor) :
    c.read = (c.events.head?.join,
      ⟨c.events.tail, none, c.position + c.events.head?.join.toList.length⟩) := by
  match h : c.events with
  | [] => rw [read_nil h]; rfl
  | none :: rest => rw [read_end h]; rfl
  | some ch :: rest => rw [read_some h]; rfl

lemma exists_char_of_read {c : Cursor} (h : c.read.1 ≠ none) :
    ∃ ch s, c.events = some ch :: s := by
  match hc : c.events with
  | [] => exact absurd (by rw [read_nil hc]) h
  | none :: s => exact absurd (by rw [read_end hc]) h
  | some ch :: s => exact ⟨ch, s, rfl⟩

lemma accept_of_ne {c : Cursor} {wanted : Char} (h : c.events.head? ≠ some (some wanted)) :
    c.accept wanted = (false, c.peek.2) := by
  match hc : c.events with
  | [] => simp [accept, peek_nil hc]
  | none :: rest => simp [accept, peek_end hc]
  | some ch :: rest =>
    have hne : ch ≠ wanted := by simpa [hc] using h
    rw [accept_other hc hne, peek_some hc]

lemma takeWhile_run {c : Cursor} {p : Char → Bool} {run : List Char} {s : Source}
    (hc : c.events = run.map some ++ s) (hrun : ∀ ch ∈ run, p ch = true)
    (hs : ∀ ch, s.head? = some (some ch) → p ch = false) :
    c.takeWhile p = (run, ⟨s, none, c.position + run.length⟩) := by
  rw [takeWhile, hc, span_eq hrun hs]

lemma events_skipBlanks (c : Cursor) : c.skipBlanks.events = (c.events.span isBlank).2.dropEnd := by
  simp [skipBlanks, takeWhile]

lemma position_skipBlanks (c : Cursor) :
    c.skipBlanks.position = c.position + (c.events.span isBlank).1.length := by
  simp [skipBlanks, takeWhile]

/-- Skipping goes over the blanks that come first and at most one end behind them. -/
lemma skipBlanks_skips (c : Cursor) :
    ∃ w e, Blank w ∧ AtMostOneEnd e ∧ c.events = w.map some ++ e ++ c.skipBlanks.events ∧
      c.skipBlanks.position = c.position + w.length ∧
      (e = [] → ∀ x, c.skipBlanks.events.head? = some x →
        ∃ ch, x = some ch ∧ isBlank ch = false) := by
  obtain ⟨e, he, heq, hhead⟩ := exists_eq_append_dropEnd (c.events.span isBlank).2
  have hsplit := map_span_append isBlank c.events
  refine ⟨(c.events.span isBlank).1, e, fun ch => forall_mem_span, he, ?_,
    position_skipBlanks c, ?_⟩
  · rw [events_skipBlanks, List.append_assoc, ← heq, hsplit]
  · intro hnil x hx
    subst hnil
    rw [List.nil_append] at heq
    rw [events_skipBlanks, ← heq] at hx
    cases x with
    | none => exact absurd hx (hhead rfl)
    | some ch => exact ⟨ch, rfl, head?_span hx⟩

lemma skipBlanks_to_char {c : Cursor} {w : List Char} {e s : Source} {ch : Char} (hw : Blank w)
    (he : AtMostOneEnd e) (hch : isBlank ch = false)
    (hc : c.events = w.map some ++ e ++ some ch :: s) :
    c.skipBlanks.events = some ch :: s ∧ c.skipBlanks.position = c.position + w.length := by
  have hspan : c.events.span isBlank = (w, e ++ some ch :: s) := by
    rw [hc, List.append_assoc]
    apply span_eq hw
    cases he <;> simp [hch]
  rw [events_skipBlanks, position_skipBlanks, hspan]
  cases he <;> simp

lemma skipBlanks_over_end {c : Cursor} {w : List Char} {s : Source} (hw : Blank w)
    (hc : c.events = w.map some ++ none :: s) : c.skipBlanks.events = s := by
  have hspan : c.events.span isBlank = (w, none :: s) := by
    rw [hc]
    exact span_eq hw (by simp)
  rw [events_skipBlanks, hspan, dropEnd_none]

lemma skipBlanks_to_end {c : Cursor} {w : List Char} (hw : Blank w) (hc : c.events = w.map some) :
    c.skipBlanks.events = [] ∧ c.skipBlanks.position = c.position + w.length := by
  have hspan : c.events.span isBlank = (w, []) := by
    simpa [hc] using span_eq (s := []) hw (by simp)
  simp [events_skipBlanks, position_skipBlanks, hspan]

end Cursor
end TextPredicate
