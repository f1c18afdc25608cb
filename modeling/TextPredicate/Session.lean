import TextPredicate.Predicate

/-!
Sessions: cursors known by number and predicates known by name, on which steps are taken one after
the other. A step answers, and changes no more than the cursor and the predicate that it names.
-/
namespace TextPredicate

inductive CursorStep where
  | read
  | peek
  | unread (ch : Char)
  | position
  | skipBlanks
  | readOperator
  | readToEnd
  deriving DecidableEq, Repr

inductive Step (σ : Type) where
  | cursor (index : Nat) (action : CursorStep)
  /-- Makes a predicate. One that had the name before is lost. -/
  | create (name : String) (extract : σ → String) (options : MatchOptions)
  /-- Makes a predicate and reads its condition from a text. If that fails, nothing is made. -/
  | createFrom (name : String) (extract : σ → String) (options : MatchOptions) (text : String)
  | parse (name : String) (index : Nat)
  | inspect (name : String)
  | describe (name : String)
  | apply (name : String) (subject : σ)
  /-- Selects from a list, at most as many as the limit, if there is one. -/
  | select (name : String) (subjects : List σ) (limit : Option Nat)

inductive Answer (σ : Type) where
  | done
  | character (ch : Option Char)
  | operator (o : Operator)
  | text (s : String)
  | predicate (p : Predicate σ)
  | description (oneLine expanded : String)
  | verdict (holds : Bool)
  | kept (subjects : List σ)
  | refused (e : ParseError)
  | unknownName

/-- The answer to a step. A step on a cursor tells where the cursor stands, one that applies a
predicate how often that predicate has extracted a text up to now. -/
structure Reply (σ : Type) where
  answer : Answer σ
  position : Option Nat := none
  calls : Option Nat := none
  log : List LogRecord := []

structure Session.Entry (σ : Type) where
  predicate : Predicate σ
  calls : Nat := 0

structure Session (σ : Type) where
  cursors : Nat → Cursor
  entries : String → Option (Session.Entry σ) := fun _ => none

namespace Session
variable {σ : Type}

/-- A session without predicates. A cursor that is not in the list has nothing to read. -/
def ofCursors (cursors : List Cursor) : Session σ :=
  { cursors := fun i => cursors.getD i { source := [] } }

def setCursor (s : Session σ) (index : Nat) (c : Cursor) : Session σ :=
  { s with cursors := fun i => if i = index then c else s.cursors i }

def setEntry (s : Session σ) (name : String) (e : Entry σ) : Session σ :=
  { s with entries := fun n => if n = name then some e else s.entries n }

structure CursorOutcome (σ : Type) where
  answer : Answer σ
  cursor : Cursor
  log : List LogRecord := []

def cursorStep (c : Cursor) : CursorStep → CursorOutcome σ
  | .read => { answer := .character c.read.1, cursor := c.read.2 }
  | .peek => { answer := .character c.peek.1, cursor := c.peek.2 }
  | .unread ch => { answer := .done, cursor := c.unread ch }
  | .position => { answer := .done, cursor := c }
  | .skipBlanks => { answer := .done, cursor := c.skipBlanks }
  | .readOperator =>
    let reading := Operator.read c
    let answer := match reading.result with
      | .ok o => .operator o
      | .error e => .refused e
    { answer, cursor := reading.cursor, log := reading.log }
  | .readToEnd => { answer := .text c.readToEnd.1, cursor := c.readToEnd.2 }

def record (s : Session σ) (name : String) (e : Entry σ) (selection : Predicate.Selection σ)
    (answer : Answer σ) : Session σ × Reply σ :=
  let calls := e.calls + selection.asked.length
  (s.setEntry name { e with calls }, { answer, calls, log := selection.log })

/-- A step on the predicate of a name. -/
def withEntry (s : Session σ) (name : String) (f : Entry σ → Session σ × Reply σ) :
    Session σ × Reply σ :=
  match s.entries name with
  | some e => f e
  | none => (s, { answer := .unknownName })

def step (s : Session σ) : Step σ → Session σ × Reply σ
  | .cursor index action =>
    let outcome := cursorStep (s.cursors index) action
    (s.setCursor index outcome.cursor,
      { answer := outcome.answer, position := outcome.cursor.position, log := outcome.log })
  | .create name extract options =>
    let predicate := Predicate.ofOptions extract options
    (s.setEntry name { predicate }, { answer := .predicate predicate })
  | .createFrom name extract options text =>
    let attempt := Predicate.ofText extract options.ignoreCase text
    match attempt.result with
    | .ok () =>
      (s.setEntry name { predicate := attempt.predicate },
        { answer := .predicate attempt.predicate, log := attempt.log })
    | .error e => (s, { answer := .refused e, log := attempt.log })
  | .parse name index =>
    s.withEntry name fun e =>
      let attempt := e.predicate.parse (s.cursors index)
      let answer := match attempt.result with
        | .ok () => .predicate attempt.predicate
        | .error error => .refused error
      ((s.setEntry name { e with predicate := attempt.predicate }).setCursor index attempt.cursor,
        { answer, position := attempt.cursor.position, log := attempt.log })
  | .inspect name => s.withEntry name fun e => (s, { answer := .predicate e.predicate })
  | .describe name =>
    s.withEntry name fun e =>
      (s, { answer := .description e.predicate.description e.predicate.expandedDescription })
  | .apply name subject =>
    s.withEntry name fun e =>
      let selection := e.predicate.apply subject
      s.record name e selection (.verdict !selection.kept.isEmpty)
  | .select name subjects limit =>
    s.withEntry name fun e =>
      let selection := e.predicate.select (limit.getD subjects.length) subjects
      s.record name e selection (.kept selection.kept)

/-- Takes all steps in order, each in the session that the one before has left. -/
def run (s : Session σ) : List (Step σ) → Session σ × List (Reply σ)
  | [] => (s, [])
  | first :: rest =>
    let now := s.step first
    let later := now.1.run rest
    (later.1, now.2 :: later.2)

end Session
end TextPredicate
