import TextPredicate.Condition
import TextPredicate.Cursor

/-!
Reading a condition from a cursor: an operator, a literal between double quotes, and the blanks
around them. An operator is the longest spelling that follows; where none begins, the character that
was found is left to be read, but a `!` without `=` is used up. Literals have no escapes, so that
one ends at the next double quote, and never goes on behind an end of the input. Whatever comes of
an attempt, it leaves the cursor where it stopped, and the log records of the way there; a record is
kept as the event that it tells of, and its line of text is derived.
-/
namespace TextPredicate

inductive LogLevel where
  | trace
  | debug
  | warn
  deriving DecidableEq, Repr

def LogLevel.name : LogLevel → String
  | trace => "TRACE"
  | debug => "DEBUG"
  | warn => "WARN"

inductive LogRecord where
  /-- An operator was read; it begins at the position. -/
  | operatorRead (operator : Operator) (position : Nat)
  /-- A literal was read; its opening quote is at the position. -/
  | literalRead (literal : String) (position : Nat)
  | conditionParsed (comparison : Comparison) (literal : String)
  | parseFailed (error : ParseError)
  /-- A predicate that has no condition was applied to a subject. -/
  | appliedUnparsed
  deriving DecidableEq, Repr

namespace LogRecord

def level : LogRecord → LogLevel
  | operatorRead .. | literalRead .. => .trace
  | conditionParsed .. | parseFailed .. => .debug
  | appliedUnparsed => .warn

def text : LogRecord → String
  | operatorRead operator position =>
    "operator " ++ operator.symbol ++ " at position " ++ toString position
  | literalRead literal position =>
    "literal " ++ Text.quoteText literal ++ " at position " ++ toString position
  | conditionParsed comparison literal =>
    "parsed string comparison " ++ comparison.symbol ++ " " ++ Text.quoteText literal
  | parseFailed error => "string comparison failed to parse: " ++ error.message
  | appliedUnparsed => "string comparison applied without a parsed literal"

def line (r : LogRecord) : String := r.level.name ++ " " ++ r.text

end LogRecord

structure Reading (α : Type) where
  result : Except ParseError α
  /-- Where the attempt stopped. -/
  cursor : Cursor
  /-- The records of the attempt, in order. -/
  log : List LogRecord := []

namespace Reading
variable {α β : Type}

def success (a : α) (c : Cursor) (log : List LogRecord := []) : Reading α := ⟨.ok a, c, log⟩

def failure (e : ParseError) (c : Cursor) : Reading α := ⟨.error e, c, []⟩

/-- Goes on from where a successful attempt stopped; a failed one is final. -/
def andThen (r : Reading α) (next : α → Cursor → Reading β) : Reading β :=
  match r.result with
  | .error e => ⟨.error e, r.cursor, r.log⟩
  | .ok a =>
    let s := next a r.cursor
    ⟨s.result, s.cursor, r.log ++ s.log⟩

@[simp] theorem andThen_error (e : ParseError) (c : Cursor) (log : List LogRecord)
    (next : α → Cursor → Reading β) :
    (Reading.mk (.error e) c log).andThen next = ⟨.error e, c, log⟩ := rfl

@[simp] theorem andThen_ok (a : α) (c : Cursor) (log : List LogRecord)
    (next : α → Cursor → Reading β) :
    (Reading.mk (.ok a) c log).andThen next =
      ⟨(next a c).result, (next a c).cursor, log ++ (next a c).log⟩ := rfl

end Reading

namespace Operator

def read (c : Cursor) : Reading Operator :=
  let start := c.skipBlanks
  match start.read with
  | (none, c) => .failure (.unexpectedEnd "comparison operator") c
  | (some ch, c) =>
    if ch ∈ starters then
      let second := c.accept '='
      match ofSpelling? ch second.1 with
      | some o => .success o second.2 [.operatorRead o start.position]
      | none => .failure (.unknownOperator ch.toString start.position) second.2
    else .failure (.unknownOperator ch.toString start.position) (c.unread ch)

end Operator

def readLiteral (c : Cursor) : Reading String :=
  let start := c.skipBlanks
  match start.read with
  | (none, c) => .failure (.unexpectedEnd "string beginning") c
  | (some ch, c) =>
    if ch = '"' then
      let body := c.takeWhile (· ≠ '"')
      let literal := String.ofList body.1
      match body.2.read with
      | (some _, c) => .success literal c [.literalRead literal start.position]
      | (none, c) => .failure (.unterminatedString literal start.position) c
    else .failure (.expectedString ch start.position) c

namespace Condition

/-- An operator that does not fit is refused before the literal is looked at. -/
def read (c : Cursor) : Reading Condition :=
  (Operator.read c).andThen fun operator c =>
    match Comparison.narrow operator with
    | .error e => .failure e c
    | .ok comparison =>
      (readLiteral c).andThen fun literal c => .success ⟨comparison, literal⟩ c.skipBlanks

end Condition
end TextPredicate
