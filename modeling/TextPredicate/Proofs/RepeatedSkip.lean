import TextPredicate.Proofs.CursorEvents

/-!
Skipping blanks twice. A cursor does not remember an end, so that a second skip goes on behind the
end that the first one has used up. Main statement: the second skip changes nothing that can be seen
exactly if no characters come behind such an end, or one comes at once that is not blank. A skip and
so many reads take finitely many events; a source that goes on for ever is covered by its
beginnings.
-/
namespace TextPredicate.Cursor
open Source

def reads (c : Cursor) : Nat → List (Option Char)
  | 0 => []
  | n + 1 => c.read.1 :: c.read.2.reads n

/-- Neither the position nor any later read tells two cursors apart. -/
def Alike (c d : Cursor) : Prop := c.position = d.position ∧ ∀ n, c.reads n = d.reads n

lemma reads_eq (c : Cursor) (n : Nat) :
    c.reads n = c.events.take n ++ List.replicate (n - c.events.length) none := by
  induction n generalizing c with
  | zero => simp [reads]
  | succ n ih =>
    rw [reads, ih]
    rcases h : c.events with - | ⟨- | ch, rest⟩
    · simp [read_nil h, List.replicate_succ]
    · simp [read_end h]
    · simp [read_some h]

lemma reads_of_no_chars {c : Cursor} (h : c.events.chars = []) (n : Nat) :
    c.reads n = List.replicate n none := by
  have hnone : ∀ e ∈ c.events, e = none := List.filterMap_eq_nil_iff.1 h
  rw [reads_eq, List.eq_replicate_iff]
  constructor
  · rw [List.length_append, List.length_take, List.length_replicate]
    omega
  · intro e he
    rcases List.mem_append.1 he with he | he
    · exact hnone e (List.mem_of_mem_take he)
    · exact List.eq_of_mem_replicate he

lemma eq_of_append_eq_cons {α : Type} {a : α} {l : List α} (h : l ++ [a] = a :: l) :
    ∀ x ∈ l, x = a := by
  induction l with
  | nil => simp
  | cons y l ih =>
    obtain ⟨rfl, hl⟩ : y = a ∧ l ++ [a] = y :: l := by simpa using h
    exact List.forall_mem_cons.2 ⟨rfl, ih hl⟩

/-- A skip changes nothing that can be seen exactly if there is no character left, or one that is
not blank comes next. -/
lemma alike_skipBlanks_iff {c : Cursor} :
    Alike c.skipBlanks c ↔
      c.events.chars = [] ∨ ∃ ch rest, c.events = some ch :: rest ∧ isBlank ch = false := by
  constructor
  · rintro ⟨hpos, hreads⟩
    rcases h : c.events with - | ⟨- | ch, rest⟩
    · exact .inl rfl
    · -- the end is used up, so that the reads are those of a source shifted by it
      have hskip : c.skipBlanks.events = rest :=
        skipBlanks_over_end (w := []) (by simp [Blank]) (by simp [h])
      have hshift := hreads (rest.length + 1)
      rw [reads_eq, reads_eq, hskip, h] at hshift
      have hsame : rest ++ [none] = none :: rest := by
        simpa [List.take_of_length_le (Nat.le_succ rest.length)] using hshift
      have hnone := eq_of_append_eq_cons hsame
      exact .inl (List.filterMap_eq_nil_iff.2 (List.forall_mem_cons.2 ⟨rfl, hnone⟩))
    · cases hch : isBlank ch with
      | false => exact .inr ⟨ch, rest, rfl, hch⟩
      | true =>
        rw [position_skipBlanks, h] at hpos
        simp [span, hch] at hpos
  · rintro (hnone | ⟨ch, rest, h, hch⟩)
    · obtain ⟨w, e, -, -, hev, hpos, -⟩ := skipBlanks_skips c
      have hparts := hnone
      rw [hev, chars_append, chars_append, chars_map_some] at hparts
      obtain ⟨rfl, -, hskip⟩ : w = [] ∧ e.chars = [] ∧ c.skipBlanks.events.chars = [] := by
        simpa using hparts
      refine ⟨hpos, fun n => ?_⟩
      rw [reads_of_no_chars hskip, reads_of_no_chars hnone]
    · obtain ⟨hev, hpos⟩ := skipBlanks_to_char (w := []) (e := []) (by simp [Blank]) .absent hch h
      refine ⟨hpos, fun n => ?_⟩
      rw [reads_eq, reads_eq, hev, h]

lemma skipBlanks_pending {s : Source} {ch : Char} {n : Nat} (hch : isBlank ch = false) :
    (Cursor.mk s (some ch) n).skipBlanks = ⟨s, some ch, n⟩ := by
  have hspan : (Cursor.mk s (some ch) n).events.span isBlank = ([], some ch :: s) := by
    simp [span, hch]
  rw [skipBlanks_some hspan]
  rfl

lemma skipBlanks_skipBlanks_of_no_end {c : Cursor} (h : none ∉ c.events) :
    c.skipBlanks.skipBlanks = c.skipBlanks := by
  obtain ⟨w, rest, hev, hw, hrest⟩ := exists_run isBlank c.events
  have hspan : c.events.span isBlank = (w, rest) := by rw [hev, span_eq hw hrest]
  match rest with
  | [] =>
    have hagain : ∀ n, (Cursor.mk [] none n).skipBlanks = ⟨[], none, n⟩ := fun _ => rfl
    rw [skipBlanks_nil hspan, hagain]
  | none :: s => simp [hev] at h
  | some ch :: s =>
    have hch : isBlank ch = false := hrest ch rfl
    rw [skipBlanks_some hspan, skipBlanks_pending hch]

/-- A second skip changes nothing that can be seen exactly if no end comes behind the blanks, or no
characters behind that end, or one at once that is not blank. Where no end comes at all, as in any
text, it leaves the very same cursor. -/
theorem alike_skipBlanks_twice (c : Cursor) :
    (Alike c.skipBlanks.skipBlanks c.skipBlanks ↔
      ∀ (w : List Char) (s : Source), Blank w → c.events = w.map some ++ none :: s →
        s.chars = [] ∨ ∃ ch rest, s = some ch :: rest ∧ isBlank ch = false) ∧
    (none ∉ c.events → c.skipBlanks.skipBlanks = c.skipBlanks) := by
  refine ⟨?_, skipBlanks_skipBlanks_of_no_end⟩
  rw [alike_skipBlanks_iff]
  constructor
  · intro h w s hw hev
    rwa [skipBlanks_over_end hw hev] at h
  · intro h
    obtain ⟨w, rest, hev, hw, hrest⟩ := exists_run isBlank c.events
    match rest with
    | [] =>
      left
      rw [(skipBlanks_to_end hw (by simpa using hev)).1, chars_nil]
    | none :: s =>
      rw [skipBlanks_over_end hw hev]
      exact h w s hw hev
    | some ch :: s =>
      have hch : isBlank ch = false := hrest ch rfl
      exact .inr ⟨ch, s, (skipBlanks_to_char hw .absent hch (by simpa using hev)).1, hch⟩

/-- Blanks behind an end are left by the first skip and skipped by the second. -/
theorem not_forall_alike_skipBlanks :
    ¬ ∀ c : Cursor, Alike c.skipBlanks.skipBlanks c.skipBlanks := by
  intro h
  have hpos := (h { source := .ofParts ["", " x"] }).1
  revert hpos
  decide

end TextPredicate.Cursor
