import TextPredicate.Comparison

/-!
Conditions on a text: a comparison with a literal. In a literal for approximate equality a star
counts only as the first or the last character, and stands for any text; letter case never matters
there. What such a literal asks for is said twice, of its characters and by the slice of its bytes
that is taken out.
-/
namespace TextPredicate
open Text

inductive Pattern where
  | anything
  | contains (part : List Char)
  | endsWith (part : List Char)
  | startsWith (part : List Char)
  | exactly (whole : List Char)
  deriving DecidableEq, Repr

namespace Pattern

/-- A star alone is both the first and the last character. -/
def ofLiteral (literal : List Char) : Pattern :=
  if literal = ['*'] then anything
  else
    match decide (literal.head? = some '*'), decide (literal.getLast? = some '*') with
    | true, true => contains literal.tail.dropLast
    | true, false => endsWith literal.tail
    | false, true => startsWith literal.dropLast
    | false, false => exactly literal

/-- Text and part are lowercased each on its own. A pattern without stars is compared letter by
letter instead. -/
def holds (p : Pattern) (text : List Char) : Bool :=
  match p with
  | anything => true
  | contains part => occursIn (lowercase part) (lowercase text)
  | endsWith part => decide (lowercase part <:+ lowercase text)
  | startsWith part => decide (lowercase part <+: lowercase text)
  | exactly whole => sameLetters text whole

inductive Cut where
  /-- The literal is not cut. -/
  | whole (asked : Pattern)
  /-- A slice of the literal is looked for, in one of the ways that stars stand for. -/
  | part (asked : List Char → Pattern) (lo hi : Nat)

/-- How a literal is cut, by the characters at its ends and the number of its bytes. -/
def cut (literal : String) : Cut :=
  let size := literal.utf8ByteSize
  let first := literal.toList.head? = some '*'
  let last := literal.toList.getLast? = some '*'
  if first ∧ last then if size = 1 then .whole anything else .part contains 1 (size - 1)
  else if first then .part endsWith 1 size
  else if last then .part startsWith 0 (size - 1)
  else .whole (exactly literal.toList)

def Cut.made? (literal : String) : Cut → Option Pattern
  | whole asked => some asked
  | part asked lo hi => (slice? literal lo hi).map fun s => asked s.toList

end Pattern

structure Condition where
  comparison : Comparison
  literal : String
  deriving DecidableEq, Repr

namespace Condition

def equalTexts (ignoreCase : Bool) (received literal : String) : Bool :=
  if ignoreCase then sameLetters received.toList literal.toList else received == literal

/-- Whether a text satisfies the condition. Approximate equality ignores case in any event. -/
def holds (c : Condition) (ignoreCase : Bool) (received : String) : Bool :=
  match c.comparison with
  | .equal => equalTexts ignoreCase received c.literal
  | .notEqual => !equalTexts ignoreCase received c.literal
  | .approximatelyEqual => (Pattern.ofLiteral c.literal.toList).holds received.toList

/-- Whether a text satisfies the condition, with the part that stars stand beside cut out of the
literal. There is no answer if that cut cannot be made. -/
def holdsByCut? (k : Condition) (ignoreCase : Bool) (received : String) : Option Bool :=
  match k.comparison with
  | .equal => some (equalTexts ignoreCase received k.literal)
  | .notEqual => some (!equalTexts ignoreCase received k.literal)
  | .approximatelyEqual =>
    ((Pattern.cut k.literal).made? k.literal).map fun asked => asked.holds received.toList

/-- A text from which the condition can be read, if the literal has no double quote. -/
def render (c : Condition) : String := c.comparison.symbol ++ " \"" ++ c.literal ++ "\""

end Condition
end TextPredicate
