import TextPredicate.Reading

/-!
Predicates on subjects: a condition on the text that is extracted from a subject. A predicate is
made without its condition, which is read once; any later attempt is refused, and neither moves the
cursor nor leaves a record. If the one attempt fails, the predicate is of no use any more. A
predicate without a condition holds of nothing, extracts no text and leaves a warning each time it
is applied. Descriptions show the option and what is known of the condition, and not the way in
which texts are extracted.
-/
namespace TextPredicate
open Text

structure MatchOptions where
  /-- Whether equality and inequality ignore the case of letters. -/
  ignoreCase : Bool := false
  deriving DecidableEq, Repr

namespace MatchOptions

def withIgnoreCase (o : MatchOptions) (ignoreCase : Bool) : MatchOptions := { o with ignoreCase }

def description (o : MatchOptions) : String :=
  Text.compact "MatchOptions" [("ignore_case", toString o.ignoreCase)]

end MatchOptions

inductive Predicate.State where
  | unparsed
  | parsed (condition : Condition)
  | failed
  deriving DecidableEq, Repr

structure Predicate (σ : Type) where
  extract : σ → String
  ignoreCase : Bool
  state : Predicate.State := .unparsed

namespace Predicate
variable {σ : Type}

def ofOptions (extract : σ → String) (options : MatchOptions) : Predicate σ :=
  { extract, ignoreCase := options.ignoreCase }

def condition? (p : Predicate σ) : Option Condition :=
  match p.state with
  | .parsed condition => some condition
  | .unparsed | .failed => none

def comparison? (p : Predicate σ) : Option Comparison := p.condition?.map (·.comparison)

def literal? (p : Predicate σ) : Option String := p.condition?.map (·.literal)

def isParsed (p : Predicate σ) : Bool := p.condition?.isSome

structure Attempt (σ : Type) where
  result : Except ParseError Unit
  predicate : Predicate σ
  cursor : Cursor
  log : List LogRecord

def parse (p : Predicate σ) (c : Cursor) : Attempt σ :=
  match p.state with
  | .parsed _ => ⟨.error .alreadyParsed, p, c, []⟩
  | .failed => ⟨.error .unusable, p, c, []⟩
  | .unparsed =>
    let reading := Condition.read c
    match reading.result with
    | .ok condition =>
      ⟨.ok (), { p with state := .parsed condition }, reading.cursor,
        reading.log ++ [.conditionParsed condition.comparison condition.literal]⟩
    | .error e =>
      ⟨.error e, { p with state := .failed }, reading.cursor, reading.log ++ [.parseFailed e]⟩

/-- An attempt on the whole of a text; what follows the condition is not looked at. -/
def ofText (extract : σ → String) (ignoreCase : Bool) (text : String) : Attempt σ :=
  parse { extract, ignoreCase } (.ofText text)

/-- What came of applying a predicate: those subjects of which it holds, those whose text was
extracted, and the records, all in order. -/
structure Selection (σ : Type) where
  kept : List σ := []
  asked : List σ := []
  log : List LogRecord := []

def Selection.append (a b : Selection σ) : Selection σ :=
  ⟨a.kept ++ b.kept, a.asked ++ b.asked, a.log ++ b.log⟩

def holds (p : Predicate σ) (s : σ) : Bool :=
  match p.condition? with
  | some condition => condition.holds p.ignoreCase (p.extract s)
  | none => false

def apply (p : Predicate σ) (s : σ) : Selection σ :=
  match p.condition? with
  | some _ => { kept := if p.holds s then [s] else [], asked := [s] }
  | none => { log := [.appliedUnparsed] }

/-- Applies the predicate to one subject after the other until `limit` were kept. Once they are, no
further subject is looked at. -/
def select (p : Predicate σ) : Nat → List σ → Selection σ
  | 0, _ | _, [] => {}
  | limit + 1, s :: rest =>
    let first := p.apply s
    first.append (p.select (limit + 1 - first.kept.length) rest)

def filter (p : Predicate σ) (subjects : List σ) : Selection σ := p.select subjects.length subjects

def fields (p : Predicate σ) : List Field :=
  ("ignore_case", toString p.ignoreCase) ::
    match p.state with
    | .unparsed => []
    | .failed => [("failed", "true")]
    | .parsed condition =>
      [("comparison", condition.comparison.name), ("literal", quoteText condition.literal)]

def description (p : Predicate σ) : String := compact "StringToken" p.fields

def expandedDescription (p : Predicate σ) : String := expanded "StringToken" p.fields

end Predicate
end TextPredicate
