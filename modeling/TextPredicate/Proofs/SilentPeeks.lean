import TextPredicate.Proofs.CursorAccount

/-!
Peeks in a session on texts. What a cursor answers depends only on what lies ahead of it: the events
to come and the position, and not on whether the next character is pending or still in the source
(`SameAhead`). Over a text a peek keeps both. Main statement: two runs that differ only in their
peeks give all other steps the same replies.
-/
namespace TextPredicate
variable {σ : Type}

namespace Cursor

/-- The same events are to come, from the same position on. -/
structure SameAhead (c d : Cursor) : Prop where
  events : c.events = d.events
  position : c.position = d.position

variable {c d : Cursor}

lemma SameAhead.refl (c : Cursor) : SameAhead c c := ⟨rfl, rfl⟩

lemma SameAhead.trans {e : Cursor} (h : SameAhead c d) (g : SameAhead d e) : SameAhead c e :=
  ⟨h.events.trans g.events, h.position.trans g.position⟩

lemma SameAhead.read_eq (h : SameAhead c d) : c.read = d.read := read_congr h.events h.position

lemma SameAhead.peek_eq (h : SameAhead c d) : c.peek = d.peek := peek_congr h.events h.position

lemma SameAhead.takeWhile_eq (h : SameAhead c d) (p : Char → Bool) :
    c.takeWhile p = d.takeWhile p := by
  rw [takeWhile, takeWhile, h.events, h.position]

lemma SameAhead.skipBlanks_eq (h : SameAhead c d) : c.skipBlanks = d.skipBlanks := by
  rw [skipBlanks, skipBlanks, h.takeWhile_eq]

lemma SameAhead.readToEnd_eq (h : SameAhead c d) : c.readToEnd = d.readToEnd := by
  rw [readToEnd, readToEnd, h.takeWhile_eq]

lemma SameAhead.readOperator_eq (h : SameAhead c d) : Operator.read c = Operator.read d := by
  rw [Operator.read, Operator.read, h.skipBlanks_eq]

lemma SameAhead.readCondition_eq (h : SameAhead c d) : Condition.read c = Condition.read d := by
  rw [Condition.read, Condition.read, h.readOperator_eq]

lemma SameAhead.parse (h : SameAhead c d) (p : Predicate σ) :
    p.parse d = { p.parse c with cursor := (p.parse d).cursor } ∧
      SameAhead (p.parse c).cursor (p.parse d).cursor := by
  cases hp : p.state with
  | unparsed =>
    have heq : p.parse c = p.parse d := by
      rw [Predicate.parse, Predicate.parse, hp, h.readCondition_eq]
    rw [heq]
    exact ⟨rfl, .refl _⟩
  | parsed k =>
    rw [Predicate.parse_of_parsed hp, Predicate.parse_of_parsed hp]
    exact ⟨rfl, h⟩
  | failed =>
    rw [Predicate.parse_of_failed hp, Predicate.parse_of_failed hp]
    exact ⟨rfl, h⟩

/-- A peek is noticed only where it uses up an end. -/
lemma sameAhead_peek (h : none ∉ c.events) : SameAhead c.peek.2 c := by
  refine ⟨?_, position_peek c⟩
  rw [events_peek]
  rcases hev : c.events with - | ⟨- | ch, rest⟩
  · rfl
  · simp [hev] at h
  · rfl

lemma Advances.events_suffix (h : Advances c d) : d.events <:+ c.events := by
  induction h with
  | start => exact List.suffix_rfl
  | @read d _ ih =>
    refine List.IsSuffix.trans ?_ ih
    rcases hev : d.events with - | ⟨- | ch, rest⟩
    · simp [read_nil hev]
    · simp [read_end hev]
    · simp [read_some hev]
  | @putBack d e ch _ hread _ ih =>
    obtain ⟨rest, hev, rfl⟩ := events_of_read hread
    rwa [hev] at ih

end Cursor

def Step.isPeek : Step σ → Bool
  | .cursor _ .peek => true
  | _ => false

namespace Session
open Cursor
variable {s t : Session σ}

/-- The same predicates, and the same ahead of every cursor. -/
structure SameAhead (s t : Session σ) : Prop where
  entries : s.entries = t.entries
  cursors : ∀ i, Cursor.SameAhead (s.cursors i) (t.cursors i)

lemma SameAhead.refl (s : Session σ) : SameAhead s s := ⟨rfl, fun _ => .refl _⟩

lemma SameAhead.trans {u : Session σ} (h : SameAhead s t) (g : SameAhead t u) : SameAhead s u :=
  ⟨h.entries.trans g.entries, fun i => (h.cursors i).trans (g.cursors i)⟩

lemma SameAhead.setCursor (h : SameAhead s t) (index : Nat) {c d : Cursor}
    (hcd : Cursor.SameAhead c d) : SameAhead (s.setCursor index c) (t.setCursor index d) := by
  refine ⟨h.entries, fun i => ?_⟩
  by_cases hi : index = i
  · subst hi
    rw [cursors_setCursor_self, cursors_setCursor_self]
    exact hcd
  · rw [cursors_setCursor_of_ne s c hi, cursors_setCursor_of_ne t d hi]
    exact h.cursors i

lemma SameAhead.setEntry (h : SameAhead s t) (name : String) (e : Entry σ) :
    SameAhead (s.setEntry name e) (t.setEntry name e) := by
  refine ⟨?_, h.cursors⟩
  rw [Session.setEntry, Session.setEntry, h.entries]

lemma sameAhead_cursorStep {c d : Cursor} (h : Cursor.SameAhead c d) {action : CursorStep}
    (haction : ∀ ch, action ≠ .unread ch) :
    cursorStep (σ := σ) d action =
        { cursorStep c action with cursor := (cursorStep (σ := σ) d action).cursor } ∧
      Cursor.SameAhead (cursorStep (σ := σ) c action).cursor
        (cursorStep (σ := σ) d action).cursor := by
  by_cases hposition : action = .position
  · subst hposition
    exact ⟨rfl, h⟩
  · have heq : cursorStep (σ := σ) c action = cursorStep d action := by
      cases action with
      | read => simp only [cursorStep, h.read_eq]
      | peek => simp only [cursorStep, h.peek_eq]
      | unread ch => exact absurd rfl (haction ch)
      | position => exact absurd rfl hposition
      | skipBlanks => simp only [cursorStep, h.skipBlanks_eq]
      | readOperator => simp only [cursorStep, h.readOperator_eq]
      | readToEnd => simp only [cursorStep, h.readToEnd_eq]
    rw [heq]
    exact ⟨rfl, .refl _⟩

lemma SameAhead.step (h : SameAhead s t) {st : Step σ}
    (hst : ∀ index ch, st ≠ .cursor index (.unread ch)) :
    (s.step st).2 = (t.step st).2 ∧ SameAhead (s.step st).1 (t.step st).1 := by
  cases st with
  | cursor index action =>
    have haction : ∀ ch, action ≠ .unread ch := by
      rintro ch rfl
      exact hst index ch rfl
    obtain ⟨heq, hcursor⟩ := sameAhead_cursorStep (σ := σ) (h.cursors index) haction
    refine ⟨?_, h.setCursor index hcursor⟩
    simp only [Session.step]
    rw [heq, hcursor.position]
  | create name extract options => exact ⟨rfl, h.setEntry name _⟩
  | createFrom name extract options text =>
    simp only [Session.step]
    split
    · exact ⟨rfl, h.setEntry name _⟩
    · exact ⟨rfl, h⟩
  | parse name index =>
    cases he : s.entries name with
    | none =>
      rw [Session.step, Session.step, withEntry_of_none he, withEntry_of_none (h.entries ▸ he)]
      exact ⟨rfl, h⟩
    | some e =>
      obtain ⟨heq, hcursor⟩ := (h.cursors index).parse e.predicate
      rw [step_parse he, step_parse (h.entries ▸ he)]
      refine ⟨?_, ?_⟩
      · rw [heq, hcursor.position]
        rfl
      · rw [heq]
        exact (h.setEntry name _).setCursor index hcursor
  | inspect name | describe name =>
    simp only [Session.step, withEntry, ← h.entries]
    split <;> exact ⟨rfl, h⟩
  | apply name subject | select name subjects limit =>
    simp only [Session.step, withEntry, ← h.entries]
    split
    · exact ⟨rfl, h.setEntry name _⟩
    · exact ⟨rfl, h⟩

/-- No cursor will come to an end before the last of its events. -/
def OnTexts (s : Session σ) : Prop := ∀ i, none ∉ (s.cursors i).events

lemma OnTexts.step (h : s.OnTexts) {st : Step σ}
    (hst : ∀ index ch, st ≠ .cursor index (.unread ch)) : (s.step st).1.OnTexts := by
  intro i hnone
  exact h i ((advances_step s (hst i)).events_suffix.mem hnone)

lemma OnTexts.sameAhead_peek (h : s.OnTexts) {st : Step σ} (hst : st.isPeek = true) :
    SameAhead (s.step st).1 s := by
  match st with
  | .cursor index .peek =>
    have hset : SameAhead (s.setCursor index (s.cursors index).peek.2)
        (s.setCursor index (s.cursors index)) :=
      (SameAhead.refl s).setCursor index (Cursor.sameAhead_peek (h index))
    rwa [setCursor_self] at hset

def repliesBesidePeeks (s : Session σ) (steps : List (Step σ)) : List (Reply σ) :=
  ((steps.zip (s.run steps).2).filter fun taken => !taken.1.isPeek).map (·.2)

lemma run_eq_without_peeks (steps : List (Step σ)) {s t : Session σ} (hs : s.OnTexts)
    (h : SameAhead s t) (hsteps : ∀ index ch, Step.cursor index (.unread ch) ∉ steps) :
    s.repliesBesidePeeks steps = (t.run (steps.filter (!·.isPeek))).2 ∧
      SameAhead (s.run steps).1 (t.run (steps.filter (!·.isPeek))).1 := by
  -- the sessions drift apart by a pending character, so they are compared by what is ahead of them
  induction steps generalizing s t with
  | nil => exact ⟨rfl, h⟩
  | cons st rest ih =>
    have hst : ∀ index ch, st ≠ .cursor index (.unread ch) := by
      rintro index ch rfl
      exact hsteps index ch (by simp)
    have hrest : ∀ index ch, Step.cursor index (.unread ch) ∉ rest := fun index ch hmem =>
      hsteps index ch (List.mem_cons_of_mem st hmem)
    cases hpeek : st.isPeek with
    | true =>
      obtain ⟨hreplies, hend⟩ := ih (hs.step hst) ((hs.sameAhead_peek hpeek).trans h) hrest
      rw [List.filter_cons_of_neg (by simp [hpeek])]
      refine ⟨?_, hend⟩
      rw [← hreplies]
      simp [repliesBesidePeeks, run, hpeek]
    | false =>
      obtain ⟨hreply, hnext⟩ := h.step hst
      obtain ⟨hreplies, hend⟩ := ih (hs.step hst) hnext hrest
      rw [List.filter_cons_of_pos (by simp [hpeek])]
      refine ⟨?_, hend⟩
      rw [run, ← hreplies, ← hreply]
      simp [repliesBesidePeeks, run, hpeek]

/-- On cursors over texts, and as long as the caller puts nothing back, two runs that differ only in
their peeks give every other step the same reply, with its answer, its records and its position, and
leave the same predicates and positions. A peek itself answers what a read would. -/
theorem run_same_beside_peeks (texts : Nat → String) (entries : String → Option (Entry σ))
    (steps steps' : List (Step σ))
    (hsteps : ∀ index ch, Step.cursor index (.unread ch) ∉ steps)
    (hsame : steps'.filter (!·.isPeek) = steps.filter (!·.isPeek)) :
    let start : Session σ := { cursors := fun i => .ofText (texts i), entries }
    start.repliesBesidePeeks steps' = start.repliesBesidePeeks steps ∧
    (start.run steps').1.entries = (start.run steps).1.entries ∧
    (∀ i, ((start.run steps').1.cursors i).position = ((start.run steps).1.cursors i).position) ∧
    ∀ i, ((start.run steps).1.step (.cursor i .peek)).2.answer =
      ((start.run steps).1.step (.cursor i .read)).2.answer := by
  intro start
  have hstart : start.OnTexts := by
    intro i hnone
    simp [start] at hnone
  have hunread : ∀ index ch, Step.cursor index (.unread ch) ∉ steps' := by
    intro index ch hmem
    have hkept : Step.cursor index (.unread ch) ∈ steps'.filter (!·.isPeek) :=
      List.mem_filter.2 ⟨hmem, rfl⟩
    rw [hsame] at hkept
    exact hsteps index ch (List.mem_filter.1 hkept).1
  obtain ⟨hreplies, hend⟩ := run_eq_without_peeks steps hstart (.refl start) hsteps
  obtain ⟨hreplies', hend'⟩ := run_eq_without_peeks steps' hstart (.refl start) hunread
  rw [hsame] at hreplies' hend'
  refine ⟨hreplies'.trans hreplies.symm, hend'.entries.trans hend.entries.symm, fun i => ?_,
    fun i => ?_⟩
  · exact (hend'.cursors i).position.trans (hend.cursors i).position.symm
  · exact congrArg Answer.character (peek_fst _)

/-- Three peeks around an attempt and a read. -/
theorem run_same_beside_three_peeks :
    let steps : List (Step String) := [.create "p" id {}, .parse "p" 0, .cursor 0 .read]
    let steps' : List (Step String) := [.create "p" id {}, .cursor 0 .peek, .parse "p" 0,
      .cursor 0 .peek, .cursor 0 .peek, .cursor 0 .read]
    let start : Session String :=
      { cursors := fun _ => .ofText " ~ \"a\" x", entries := fun _ => none }
    (∀ index ch, Step.cursor index (.unread ch) ∉ steps) ∧
    steps'.filter (!·.isPeek) = steps.filter (!·.isPeek) ∧
    start.repliesBesidePeeks steps' = start.repliesBesidePeeks steps ∧
    ((start.run steps').1.cursors 0).position = 8 := by
  intro steps steps' start
  have hsteps : ∀ index ch, Step.cursor index (.unread ch) ∉ steps := by simp [steps]
  obtain ⟨hreplies, -, hposition, -⟩ :=
    run_same_beside_peeks (fun _ => " ~ \"a\" x") (fun _ => none) steps steps' hsteps rfl
  exact ⟨hsteps, rfl, hreplies, (hposition 0).trans (by decide)⟩

end Session
end TextPredicate
