/-!
Characters that come one at a time, with one character of pushback. A source may report its end and
deliver characters again afterwards; a cursor on it does not remember that an end was met, and an
end that is looked at is used up. Each operation is described by `Cursor.events`, all that is still
to come.
-/
namespace TextPredicate

/-- What a source delivers, in order: a character, or `none` for an end. After the last event the
source is at its end for ever. -/
abbrev Source := List (Option Char)

namespace Source

def ofText (s : String) : Source := s.toList.map some

/-- Texts one after the other, with one end between two of them. -/
def ofParts (parts : List String) : Source := [none].intercalate (parts.map ofText)

/-- The characters up to the first event that is an end or does not satisfy `p`, and the events
from there on. -/
def span (p : Char → Bool) : Source → List Char × Source
  | some ch :: rest =>
    if p ch then
      let run := span p rest
      (ch :: run.1, run.2)
    else ([], some ch :: rest)
  | rest => ([], rest)

theorem map_span_append (p : Char → Bool) (s : Source) :
    (s.span p).1.map some ++ (s.span p).2 = s := by
  induction s with
  | nil => rfl
  | cons e rest ih =>
    cases e with
    | none => rfl
    | some ch =>
      by_cases h : p ch <;> simp [span, h, ih]

theorem span_append {p : Char → Bool} {run : List Char} (h : ∀ ch ∈ run, p ch = true) (s : Source) :
    span p (run.map some ++ s) = (run ++ (span p s).1, (span p s).2) := by
  induction run with
  | nil => rfl
  | cons ch run ih =>
    have hch : p ch = true := h ch (by simp)
    simp [span, hch, ih fun x hx => h x (by simp [hx])]

theorem forall_mem_span {p : Char → Bool} {s : Source} {ch : Char} (h : ch ∈ (s.span p).1) :
    p ch = true := by
  induction s with
  | nil => simp [span] at h
  | cons e rest ih =>
    cases e with
    | none => simp [span] at h
    | some first =>
      by_cases hp : p first
      · simp only [span, hp, if_true, List.mem_cons] at h
        rcases h with rfl | h
        · exact hp
        · exact ih h
      · simp [span, hp] at h

theorem head?_span {p : Char → Bool} {s : Source} {ch : Char}
    (h : (s.span p).2.head? = some (some ch)) : p ch = false := by
  induction s with
  | nil => simp [span] at h
  | cons e rest ih =>
    cases e with
    | none => simp [span] at h
    | some first =>
      by_cases hp : p first
      · simp only [span, hp, if_true] at h
        exact ih h
      · have : first = ch := by simpa [span, hp] using h
        simpa [this] using hp

end Source

structure Cursor where
  source : Source
  /-- A character that was put back and comes before the source's. -/
  pending : Option Char := none
  /-- The number of characters read and not put back. -/
  position : Nat := 0
  deriving DecidableEq, Repr

namespace Cursor

def ofText (s : String) : Cursor := { source := .ofText s }

/-- All that is still to come, the pending character first. -/
def events (c : Cursor) : Source :=
  match c.pending with
  | some ch => some ch :: c.source
  | none => c.source

/-- The next character, `none` at an end. Only a character moves the position. -/
def read (c : Cursor) : Option Char × Cursor :=
  match c.events with
  | some ch :: rest => (some ch, { source := rest, position := c.position + 1 })
  | none :: rest => (none, { source := rest, position := c.position })
  | [] => (none, { source := [], position := c.position })

/-- Puts a character back. It replaces one that is pending, and the position never goes below the
start. -/
def unread (c : Cursor) (ch : Char) : Cursor :=
  { c with pending := some ch, position := c.position - 1 }

/-- The next character, put back at once. An end cannot be put back. -/
def peek (c : Cursor) : Option Char × Cursor :=
  match c.read with
  | (some ch, c) => (some ch, c.unread ch)
  | (none, c) => (none, c)

/-- Reads the characters that satisfy `p`, up to an end or another character. -/
def takeWhile (p : Char → Bool) (c : Cursor) : List Char × Cursor :=
  let run := c.events.span p
  (run.1, { source := run.2, position := c.position + run.1.length })

def accept (wanted : Char) (c : Cursor) : Bool × Cursor :=
  match c.peek with
  | (some ch, c) => if ch = wanted then (true, c.read.2) else (false, c)
  | (none, c) => (false, c)

/-- Space, tab, carriage return and line feed. No other space counts as blank. -/
def isBlank (ch : Char) : Bool := ch = ' ' || ch = '\t' || ch = '\r' || ch = '\n'

/-- Reads blanks and peeks at what follows them. -/
def skipBlanks (c : Cursor) : Cursor := (c.takeWhile isBlank).2.peek.2

/-- Reads up to the next end, the end included. -/
def readToEnd (c : Cursor) : String × Cursor :=
  let run := c.takeWhile fun _ => true
  (String.ofList run.1, run.2.read.2)

@[simp] theorem events_ofText (s : String) : (ofText s).events = s.toList.map some := rfl

@[simp] theorem events_mk_none (source : Source) (position : Nat) :
    (Cursor.mk source none position).events = source := rfl

@[simp] theorem events_mk_some (source : Source) (ch : Char) (position : Nat) :
    (Cursor.mk source (some ch) position).events = some ch :: source := rfl

theorem read_some {c : Cursor} {ch : Char} {rest : Source} (h : c.events = some ch :: rest) :
    c.read = (some ch, ⟨rest, none, c.position + 1⟩) := by
  rw [read, h]

theorem read_end {c : Cursor} {rest : Source} (h : c.events = none :: rest) :
    c.read = (none, ⟨rest, none, c.position⟩) := by
  rw [read, h]

theorem read_nil {c : Cursor} (h : c.events = []) : c.read = (none, ⟨[], none, c.position⟩) := by
  rw [read, h]

theorem peek_some {c : Cursor} {ch : Char} {rest : Source} (h : c.events = some ch :: rest) :
    c.peek = (some ch, ⟨rest, some ch, c.position⟩) := by
  simp [peek, read_some h, unread]

theorem peek_end {c : Cursor} {rest : Source} (h : c.events = none :: rest) :
    c.peek = (none, ⟨rest, none, c.position⟩) := by
  simp [peek, read_end h]

theorem peek_nil {c : Cursor} (h : c.events = []) : c.peek = (none, ⟨[], none, c.position⟩) := by
  simp [peek, read_nil h]

theorem peek_fst (c : Cursor) : c.peek.1 = c.read.1 := by
  match h : c.events with
  | [] => rw [peek_nil h, read_nil h]
  | none :: rest => rw [peek_end h, read_end h]
  | some ch :: rest => rw [peek_some h, read_some h]

theorem accept_same {c : Cursor} {ch : Char} {rest : Source} (h : c.events = some ch :: rest) :
    c.accept ch = (true, ⟨rest, none, c.position + 1⟩) := by
  simp [accept, peek_some h, read]

theorem accept_other {c : Cursor} {ch wanted : Char} {rest : Source}
    (h : c.events = some ch :: rest) (hne : ch ≠ wanted) :
    c.accept wanted = (false, ⟨rest, some ch, c.position⟩) := by
  simp [accept, peek_some h, hne]

theorem skipBlanks_some {c : Cursor} {blanks : List Char} {ch : Char} {rest : Source}
    (h : c.events.span isBlank = (blanks, some ch :: rest)) :
    c.skipBlanks = ⟨rest, some ch, c.position + blanks.length⟩ := by
  rw [skipBlanks, takeWhile, h, peek_some (events_mk_none ..)]

theorem skipBlanks_nil {c : Cursor} {blanks : List Char} (h : c.events.span isBlank = (blanks, [])) :
    c.skipBlanks = ⟨[], none, c.position + blanks.length⟩ := by
  rw [skipBlanks, takeWhile, h, peek_nil (events_mk_none ..)]

end Cursor
end TextPredicate
