import TextPredicate.Proofs.ConditionReading
import TextPredicate.Proofs.SessionSteps

/-!
Where a cursor stands, in terms of what it has taken from its source. All that reads from a cursor
is made of single reads, after which the character that was read may go back (`Advances`). Such
moves keep the account of the characters, and so every run of a session does, as long as its caller
puts nothing back: no character is lost, delivered twice or miscounted, and no position goes down. A
run takes finitely many events, so that a source which goes on for ever is covered by its
beginnings.
-/
namespace TextPredicate
open Source

namespace Cursor

/-- What reading makes of a cursor. A character goes back only right after it was read, and the
position then goes back by exactly one. -/
inductive Advances (c : Cursor) : Cursor → Prop
  | start : Advances c c
  | read {d} (h : Advances c d) : Advances c d.read.2
  | putBack {d e ch} (h : Advances c d) (hread : d.read = (some ch, e))
      (hback : (e.unread ch).position + 1 = e.position) : Advances c (e.unread ch)

variable {c d : Cursor}

lemma Advances.trans {e : Cursor} (h : Advances c d) (g : Advances d e) : Advances c e := by
  induction g with
  | start => exact h
  | read _ ih => exact .read ih
  | putBack _ hread hback ih => exact .putBack ih hread hback

lemma position_le_read (c : Cursor) : c.position ≤ c.read.2.position := by
  rw [read_eq]
  exact Nat.le_add_right _ _

lemma events_of_read {ch : Char} (h : c.read = (some ch, d)) :
    ∃ rest, c.events = some ch :: rest ∧ d = ⟨rest, none, c.position + 1⟩ := by
  obtain ⟨x, rest, hev⟩ := exists_char_of_read (c := c) (by simp [h])
  obtain ⟨rfl, rfl⟩ : x = ch ∧ Cursor.mk rest none (c.position + 1) = d := by
    simpa [read_some hev] using h
  exact ⟨rest, hev, rfl⟩

lemma position_putBack {e : Cursor} {ch : Char} (h : c.read = (some ch, e)) :
    (e.unread ch).position = c.position := by
  obtain ⟨rest, -, rfl⟩ := events_of_read h
  rfl

lemma Advances.position_le (h : Advances c d) : c.position ≤ d.position := by
  induction h with
  | start => exact Nat.le_refl _
  | read _ ih => exact Nat.le_trans ih (position_le_read _)
  | putBack _ hread _ ih => rwa [position_putBack hread]

lemma Advances.putBack_of_read {e : Cursor} {ch : Char} (h : Advances c d)
    (hread : d.read = (some ch, e)) : Advances c (e.unread ch) := by
  refine .putBack h hread ?_
  rw [position_putBack hread]
  obtain ⟨rest, -, rfl⟩ := events_of_read hread
  rfl

lemma Advances.peek (h : Advances c d) : Advances c d.peek.2 := by
  rcases hread : d.read with ⟨- | ch, e⟩
  · have hpeek : d.peek.2 = d.read.2 := by simp [Cursor.peek, hread]
    rw [hpeek]
    exact h.read
  · have hpeek : d.peek.2 = e.unread ch := by simp [Cursor.peek, hread]
    rw [hpeek]
    exact h.putBack_of_read hread

lemma read_congr (hev : c.events = d.events) (hpos : c.position = d.position) :
    c.read = d.read := by
  rw [Cursor.read, Cursor.read, hev, hpos]

lemma peek_congr (hev : c.events = d.events) (hpos : c.position = d.position) :
    c.peek = d.peek := by
  rw [Cursor.peek, Cursor.peek, read_congr hev hpos]

/-- A run is read one character after the other. The cursor behind it may keep a character in its
source that this leaves pending, so that the two agree only in what is to come. -/
lemma exists_advances_takeWhile (p : Char → Bool) (c : Cursor) :
    ∃ d, Advances c d ∧ d.events = (c.takeWhile p).2.events ∧
      d.position = (c.takeWhile p).2.position := by
  obtain ⟨run, rest, hev, hrun, hrest⟩ := exists_run p c.events
  rw [takeWhile_run hev hrun hrest]
  clear hrun hrest
  induction run generalizing c with
  | nil => exact ⟨c, .start, hev, rfl⟩
  | cons ch run ih =>
    rw [List.map_cons, List.cons_append] at hev
    obtain ⟨d, hd, hdev, hdpos⟩ := ih ⟨run.map some ++ rest, none, c.position + 1⟩ rfl
    have hfirst : Advances c ⟨run.map some ++ rest, none, c.position + 1⟩ := by
      simpa [read_some hev] using Advances.start.read (c := c)
    refine ⟨d, hfirst.trans hd, hdev, ?_⟩
    rw [hdpos, List.length_cons]
    dsimp only
    omega

lemma Advances.takeWhile_read (h : Advances c d) (p : Char → Bool) :
    Advances c (d.takeWhile p).2.read.2 := by
  obtain ⟨e, he, hev, hpos⟩ := exists_advances_takeWhile p d
  rw [← read_congr hev hpos]
  exact h.trans he.read

lemma Advances.skipBlanks (h : Advances c d) : Advances c d.skipBlanks := by
  obtain ⟨e, he, hev, hpos⟩ := exists_advances_takeWhile isBlank d
  rw [Cursor.skipBlanks, ← peek_congr hev hpos]
  exact h.trans he.peek

lemma Advances.accept (h : Advances c d) (wanted : Char) : Advances c (d.accept wanted).2 := by
  rcases hpeek : d.peek with ⟨- | ch, e⟩
  all_goals have he : Advances c e := by simpa [hpeek] using h.peek
  · simpa [Cursor.accept, hpeek] using he
  · by_cases hch : ch = wanted
    · simpa [Cursor.accept, hpeek, hch] using he.read
    · simpa [Cursor.accept, hpeek, hch] using he

lemma Advances.readOperator (h : Advances c d) : Advances c (Operator.read d).cursor := by
  rcases hread : d.skipBlanks.read with ⟨- | ch, e⟩
  all_goals have he : Advances c e := by simpa [hread] using h.skipBlanks.read
  · simpa [Operator.read, hread, Reading.failure] using he
  · by_cases hch : ch ∈ Operator.starters
    · simp only [Operator.read, hread, hch, if_true]
      split <;> exact he.accept '='
    · simpa [Operator.read, hread, hch, Reading.failure] using h.skipBlanks.putBack_of_read hread

lemma Advances.readLiteral (h : Advances c d) : Advances c (readLiteral d).cursor := by
  rcases hread : d.skipBlanks.read with ⟨- | ch, e⟩
  all_goals have he : Advances c e := by simpa [hread] using h.skipBlanks.read
  · simpa [TextPredicate.readLiteral, hread, Reading.failure] using he
  · by_cases hch : ch = '"'
    · have hbody := he.takeWhile_read (· ≠ '"')
      simp only [TextPredicate.readLiteral, hread, hch, if_true]
      split
      · next heq =>
        rw [heq] at hbody
        exact hbody
      · next heq =>
        rw [heq] at hbody
        exact hbody
    · simpa [TextPredicate.readLiteral, hread, hch, Reading.failure] using he

lemma Advances.readCondition (h : Advances c d) : Advances c (Condition.read d).cursor := by
  rcases hop : Operator.read d with ⟨error | o, e, log⟩
  all_goals have he : Advances c e := by simpa [hop] using h.readOperator
  · simpa [Condition.read, hop] using he
  cases hnarrow : Comparison.narrow o with
  | error error => simpa [Condition.read, hop, hnarrow, Reading.failure] using he
  | ok k =>
    rcases hlit : TextPredicate.readLiteral e with ⟨error | literal, f, log'⟩
    all_goals have hf : Advances c f := by simpa [hlit] using he.readLiteral
    · simpa [Condition.read, hop, hnarrow, hlit] using hf
    · simpa [Condition.read, hop, hnarrow, hlit, Reading.success] using hf.skipBlanks

lemma advances_parse {σ : Type} (p : Predicate σ) (c : Cursor) : Advances c (p.parse c).cursor := by
  cases hp : p.state with
  | unparsed =>
    have hread : Advances c (Condition.read c).cursor := Advances.start.readCondition
    cases hresult : (Condition.read c).result with
    | ok k => simpa [Predicate.parse_of_read hp hresult] using hread
    | error e => simpa [Predicate.parse_of_refused hp hresult] using hread
  | parsed k => simpa [Predicate.parse_of_parsed hp] using Advances.start
  | failed => simpa [Predicate.parse_of_failed hp] using Advances.start

/-- The cursor has taken these events from its source and has put back at most the last of them. -/
structure Took (c : Cursor) (taken : Source) : Prop where
  position : c.position + c.pending.toList.length = taken.chars.length
  last : ∀ ch, c.pending = some ch → taken.getLast? = some (some ch)

/-- What the cursor has taken from its source, with what is left there, is the whole source. -/
def Accounts (c : Cursor) (source : Source) : Prop :=
  ∃ taken, source = taken ++ c.source ∧ c.Took taken

variable {s : Source}

lemma accounts_mk (s : Source) : Accounts { source := s } s := ⟨[], rfl, rfl, by simp⟩

lemma Accounts.read (h : c.Accounts s) : c.read.2.Accounts s := by
  obtain ⟨taken, hs, hpos, hlast⟩ := h
  rcases c with ⟨source, - | ch, position⟩
  · rcases source with - | ⟨e, rest⟩
    · exact ⟨taken, hs, hpos, by simp [Cursor.read]⟩
    · refine ⟨taken ++ [e], by cases e <;> simp [hs, Cursor.read], ?_, ?_⟩
      · cases e <;> simpa [Cursor.read] using hpos
      · cases e <;> simp [Cursor.read]
  · exact ⟨taken, hs, hpos, by simp [Cursor.read]⟩

lemma Accounts.putBack {e : Cursor} {ch : Char} (h : c.Accounts s) (hread : c.read = (some ch, e)) :
    (e.unread ch).Accounts s := by
  obtain ⟨taken, hs, hpos, hlast⟩ := h
  obtain ⟨rest, hev, rfl⟩ := events_of_read hread
  rcases c with ⟨source, - | x, position⟩
  · obtain rfl : source = some ch :: rest := hev
    refine ⟨taken ++ [some ch], by simp [hs, unread], ?_, by simp [unread]⟩
    simpa [unread] using hpos
  · obtain ⟨rfl, rfl⟩ : x = ch ∧ source = rest := by simpa using hev
    exact ⟨taken, hs, hpos, hlast⟩

lemma Accounts.advances (h : c.Accounts s) (hd : Advances c d) : d.Accounts s := by
  induction hd with
  | start => exact h
  | read _ ih => exact ih.read
  | putBack _ hread _ ih => exact ih.putBack hread

lemma Accounts.chars_events (h : c.Accounts s) : c.events.chars = s.chars.drop c.position := by
  obtain ⟨taken, rfl, hpos, hlast⟩ := h
  rcases c with ⟨source, - | ch, position⟩
  · have hlen : position = taken.chars.length := hpos
    rw [events_mk_none, chars_append, hlen, List.drop_left]
  · obtain ⟨before : Source, rfl⟩ := List.getLast?_eq_some_iff.1 (hlast ch rfl)
    have hlen : position = before.chars.length := by simpa using hpos
    rw [events_mk_some, chars_append, chars_append, hlen, List.append_assoc, List.drop_left]
    simp

lemma Accounts.next {ch : Char} (h : c.Accounts s) (hnext : c.events.head?.join = some ch) :
    s.chars[c.position]? = some ch := by
  obtain ⟨rest, hev⟩ := List.head?_eq_some_iff.1 (Option.join_eq_some_iff.1 hnext)
  have hchars := h.chars_events
  rw [hev, chars_char] at hchars
  calc s.chars[c.position]? = (s.chars.drop c.position).head? := List.head?_drop.symm
    _ = some ch := by rw [← hchars, List.head?_cons]

end Cursor

namespace Session
open Cursor
variable {σ : Type} {s : Session σ} {index : Nat}

@[simp] lemma cursors_setCursor_self (s : Session σ) (index : Nat) (c : Cursor) :
    (s.setCursor index c).cursors index = c := if_pos rfl

lemma cursors_setCursor_of_ne (s : Session σ) {index other : Nat} (c : Cursor) (h : index ≠ other) :
    (s.setCursor index c).cursors other = s.cursors other := if_neg h.symm

lemma advances_cursorStep (c : Cursor) {action : CursorStep} (h : ∀ ch, action ≠ .unread ch) :
    Advances c (cursorStep (σ := σ) c action).cursor := by
  cases action with
  | read => exact .read .start
  | peek => exact Advances.start.peek
  | unread ch => exact absurd rfl (h ch)
  | position => exact .start
  | skipBlanks => exact Advances.start.skipBlanks
  | readOperator => exact Advances.start.readOperator
  | readToEnd => exact Advances.start.takeWhile_read _

/-- A step reads from a cursor or leaves it alone, unless the caller puts a character back. -/
lemma advances_step (s : Session σ) {st : Step σ}
    (hst : ∀ ch, st ≠ .cursor index (.unread ch)) :
    Advances (s.cursors index) ((s.step st).1.cursors index) := by
  cases st with
  | cursor i action =>
    by_cases hi : i = index
    · subst hi
      have haction : ∀ ch, action ≠ .unread ch := by
        rintro ch rfl
        exact hst ch rfl
      rw [step, cursors_setCursor_self]
      exact advances_cursorStep _ haction
    · rw [step, cursors_setCursor_of_ne s _ hi]
      exact .start
  | create name extract options => exact .start
  | createFrom name extract options text =>
    simp only [step]
    split <;> exact .start
  | parse name i =>
    cases he : s.entries name with
    | none =>
      rw [step, withEntry_of_none he]
      exact .start
    | some e =>
      rw [step_parse he]
      by_cases hi : i = index
      · subst hi
        rw [cursors_setCursor_self]
        exact advances_parse e.predicate _
      · rw [cursors_setCursor_of_ne _ _ hi]
        exact .start
  | inspect name | describe name =>
    simp only [step, withEntry]
    split <;> exact .start
  | apply name subject | select name subjects limit =>
    simp only [step, withEntry]
    split <;> exact .start

lemma accounts_run {source : Source} (steps : List (Step σ)) {s : Session σ}
    (h : (s.cursors index).Accounts source)
    (hsteps : ∀ ch, Step.cursor index (.unread ch) ∉ steps) :
    ((s.run steps).1.cursors index).Accounts source := by
  induction steps generalizing s with
  | nil => exact h
  | cons st rest ih =>
    have hst : ∀ ch, st ≠ .cursor index (.unread ch) := by
      rintro ch rfl
      exact hsteps ch (by simp)
    -- the account holds after the first step, and the rest of the run goes on from there
    refine ih (h.advances (advances_step s hst)) fun ch hmem => hsteps ch ?_
    exact List.mem_cons_of_mem st hmem

/-- However a session reads from a cursor that is new on its source, the position counts the
characters that were taken and not put back, a pending character is the last one taken, and what is
to come are the characters of the source behind the position. The next step never lowers the
position, and whatever it puts back it has just read. A read answers with the next event and takes
it away; if that is a character, it is the one that the source has at the position. -/
theorem run_accounts_for_chars (s : Session σ) (index : Nat) (source : Source)
    (steps : List (Step σ)) (hsteps : ∀ ch, Step.cursor index (.unread ch) ∉ steps) :
    let now := ((s.setCursor index { source }).run steps).1
    let c := now.cursors index
    let next := now.step (.cursor index .read)
    (∃ taken, source = taken ++ c.source ∧
      c.position + c.pending.toList.length = taken.chars.length ∧
      ∀ ch, c.pending = some ch → taken.getLast? = some (some ch)) ∧
    c.events.chars = source.chars.drop c.position ∧
    (∀ st : Step σ, (∀ ch, st ≠ .cursor index (.unread ch)) →
      c.position ≤ ((now.step st).1.cursors index).position ∧
      c.Advances ((now.step st).1.cursors index)) ∧
    next.2.answer = .character c.events.head?.join ∧
    (next.1.cursors index).events = c.events.tail ∧
    ∀ ch, c.events.head?.join = some ch →
      source.chars[c.position]? = some ch ∧
        (next.1.cursors index).position = c.position + 1 := by
  intro now c next
  have hstart : ((s.setCursor index { source }).cursors index).Accounts source := by
    rw [cursors_setCursor_self]
    exact accounts_mk source
  have hnow : c.Accounts source := accounts_run steps hstart hsteps
  have hread : next.1.cursors index = c.read.2 := cursors_setCursor_self now index c.read.2
  refine ⟨?_, hnow.chars_events, fun st hst => ?_, ?_, ?_, fun ch hch => ⟨hnow.next hch, ?_⟩⟩
  · obtain ⟨taken, hsource, hposition, hlast⟩ := hnow
    exact ⟨taken, hsource, hposition, hlast⟩
  · have hstep := advances_step now hst
    exact ⟨hstep.position_le, hstep⟩
  · calc next.2.answer = .character c.read.1 := rfl
      _ = .character c.events.head?.join := by rw [read_eq]
  · rw [hread, read_eq, events_mk_none]
  · rw [hread, read_eq, hch]
    rfl

/-- A condition is read over an end, and the character behind it is pending and read next. -/
theorem run_accounts_for_chars_over_end :
    let source := Source.ofParts [" =", "\"a\" x"]
    let steps : List (Step String) := [.cursor 0 .peek, .create "p" id {}, .parse "p" 0]
    let now := (((ofCursors []).setCursor 0 { source }).run steps).1
    let c := now.cursors 0
    (∀ ch, Step.cursor 0 (.unread ch) ∉ steps) ∧ c = ⟨[], some 'x', 6⟩ ∧
      c.events.chars = source.chars.drop 6 ∧
      (now.step (.cursor 0 .read)).2.answer = .character (some 'x') ∧
      source.chars[6]? = some 'x' := by
  intro source steps now c
  have hsteps : ∀ ch, Step.cursor 0 (.unread ch) ∉ steps := by simp [steps]
  have hc : c = ⟨[], some 'x', 6⟩ := by decide
  have hposition : c.position = 6 := by rw [hc]
  have hnext : c.events.head?.join = some 'x' := by
    rw [hc]
    rfl
  obtain ⟨-, hchars, -, hanswer, -, hdelivered⟩ :=
    run_accounts_for_chars (ofCursors []) 0 source steps hsteps
  have hx := (hdelivered 'x' hnext).1
  refine ⟨hsteps, hc, ?_, hanswer.trans (congrArg _ hnext), ?_⟩
  · rw [← hposition]
    exact hchars
  · rw [← hposition]
    exact hx

end Session
end TextPredicate
