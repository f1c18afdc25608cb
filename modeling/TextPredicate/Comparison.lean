import TextPredicate.Text

/-!
The comparison operators of the language, the reasons why a condition could not be read, and the
comparisons that a condition on a text can make: the operators narrowed to those that need no order
on texts. The operators for equality have a one-character and a two-character spelling; a spelling
is known from its first character and whether `=` follows it. Positions count characters from the
start of the input.
-/
namespace TextPredicate
open Text

inductive Operator where
  | equal
  | approximatelyEqual
  | notEqual
  | less
  | lessOrEqual
  | greater
  | greaterOrEqual
  deriving DecidableEq, Repr

namespace Operator

def name : Operator → String
  | equal => "Equal"
  | approximatelyEqual => "ApproximatelyEqual"
  | notEqual => "NotEqual"
  | less => "Less"
  | lessOrEqual => "LessOrEqual"
  | greater => "Greater"
  | greaterOrEqual => "GreaterOrEqual"

/-- The spelling in which an operator is shown. -/
def symbol : Operator → String
  | equal => "=="
  | approximatelyEqual => "~"
  | notEqual => "!="
  | less => "<"
  | lessOrEqual => "<="
  | greater => ">"
  | greaterOrEqual => ">="

def all : List Operator :=
  [equal, approximatelyEqual, notEqual, less, lessOrEqual, greater, greaterOrEqual]

theorem mem_all (o : Operator) : o ∈ all := by cases o <;> decide

def ofName? (s : String) : Option Operator := all.find? (·.name == s)

def starters : List Char := ['=', '~', '!', '<', '>']

/-- The operator spelled by a character, with `=` behind it or not. -/
def ofSpelling? : Char → Bool → Option Operator
  | '=', _ => some equal
  | '~', _ => some approximatelyEqual
  | '!', true => some notEqual
  | '<', followed => some (if followed then lessOrEqual else less)
  | '>', followed => some (if followed then greaterOrEqual else greater)
  | _, _ => none

/-- All spellings, each with its operator. -/
def spellings : List (List Char × Operator) :=
  [(['='], equal), (['=', '='], equal), (['~'], approximatelyEqual),
    (['~', '='], approximatelyEqual), (['!', '='], notEqual), (['<'], less),
    (['<', '='], lessOrEqual), (['>'], greater), (['>', '='], greaterOrEqual)]

theorem symbol_mem_spellings (o : Operator) : (o.symbol.toList, o) ∈ spellings := by
  cases o <;> decide

theorem ofSpelling?_eq_none {ch : Char} {followed : Bool} (h : ch ∈ starters) :
    ofSpelling? ch followed = none ↔ ch = '!' ∧ followed = false := by
  simp only [starters, List.mem_cons, List.not_mem_nil, or_false] at h
  rcases h with rfl | rfl | rfl | rfl | rfl <;> cases followed <;> decide

theorem ofSpelling?_of_not_mem {ch : Char} {followed : Bool} (h : ch ∉ starters) :
    ofSpelling? ch followed = none := by
  simp only [starters, List.mem_cons, List.not_mem_nil, or_false, not_or] at h
  simp [ofSpelling?, h]

theorem ofSpelling?_eq_some {ch : Char} {followed : Bool} {o : Operator} :
    ofSpelling? ch followed = some o ↔
      ((if followed then [ch, '='] else [ch]), o) ∈ spellings := by
  by_cases h : ch ∈ starters
  · simp only [starters, List.mem_cons, List.not_mem_nil, or_false] at h
    rcases h with rfl | rfl | rfl | rfl | rfl <;> cases followed <;> cases o <;> decide
  · rw [ofSpelling?_of_not_mem h]
    simp only [starters, List.mem_cons, List.not_mem_nil, or_false, not_or] at h
    cases followed <;> simp [spellings, h]

end Operator

inductive ParseError where
  /-- No operator begins with, or is spelled by, what was found. -/
  | unknownOperator (found : String) (position : Nat)
  /-- An operator of the language that conditions on texts do not have. -/
  | unsupportedOperator (operator : Operator)
  /-- Another character where the opening quote should be. -/
  | expectedString (found : Char) (position : Nat)
  | unexpectedEnd (expected : String)
  /-- No closing quote; the literal is what there was up to the end. -/
  | unterminatedString (literal : String) (position : Nat)
  | alreadyParsed
  /-- The one attempt at reading has failed before. -/
  | unusable
  deriving DecidableEq, Repr

namespace ParseError

def kind : ParseError → String
  | unknownOperator .. => "UnknownOperator"
  | unsupportedOperator .. => "UnsupportedOperator"
  | expectedString .. => "ExpectedString"
  | unexpectedEnd .. => "UnexpectedEnd"
  | unterminatedString .. => "UnterminatedString"
  | alreadyParsed => "AlreadyParsed"
  | unusable => "Unusable"

def message : ParseError → String
  | unknownOperator found position =>
    "unknown comparison operator " ++ quoteText found ++ " at position " ++ toString position
  | unsupportedOperator operator => "unsupported comparison type " ++ operator.symbol
  | expectedString found position =>
    "expected string beginning, " ++ toString found.toNat ++ " (" ++ quoteChar found ++
      ") found at position " ++ toString position
  | unexpectedEnd expected => "unexpected end of input, expected " ++ expected
  | unterminatedString literal position =>
    "unterminated string " ++ quoteText literal ++ " at position " ++ toString position
  | alreadyParsed => "token already parsed"
  | unusable => "token unusable after a failed parse"

def description (e : ParseError) : String :=
  match e with
  | unknownOperator found position =>
    compact e.kind [("found", quoteText found), ("position", toString position)]
  | unsupportedOperator operator => e.kind ++ "(" ++ operator.name ++ ")"
  | expectedString found position =>
    compact e.kind [("found", quoteChar found), ("position", toString position)]
  | unexpectedEnd expected => compact e.kind [("expected", quoteText expected)]
  | unterminatedString literal position =>
    compact e.kind [("literal", quoteText literal), ("position", toString position)]
  | alreadyParsed | unusable => e.kind

end ParseError

inductive Comparison where
  | equal
  | approximatelyEqual
  | notEqual
  deriving DecidableEq, Repr

namespace Comparison

def operator : Comparison → Operator
  | equal => .equal
  | approximatelyEqual => .approximatelyEqual
  | notEqual => .notEqual

def name (c : Comparison) : String := c.operator.name

def symbol (c : Comparison) : String := c.operator.symbol

/-- Refuses the operators that ask for an order. -/
def narrow : Operator → Except ParseError Comparison
  | .equal => .ok equal
  | .approximatelyEqual => .ok approximatelyEqual
  | .notEqual => .ok notEqual
  | o => .error (.unsupportedOperator o)

theorem narrow_eq_ok {o : Operator} {c : Comparison} : narrow o = .ok c ↔ o = c.operator := by
  cases o <;> cases c <;> simp [narrow, operator]

@[simp] theorem narrow_operator (c : Comparison) : narrow c.operator = .ok c :=
  narrow_eq_ok.mpr rfl

end Comparison
end TextPredicate
