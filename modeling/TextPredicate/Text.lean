import TextPredicate.Unicode.CaseMapping
import TextPredicate.Unicode.Properties

/-!
What is done with texts. They are shown between delimiters, with escapes that begin with a backslash
for whatever would not be seen or would end the quoted text; values with named fields are shown on
one line or spread over several. In a lowercased text all characters but one are mapped on their
own; a capital sigma at the end of a word becomes the final small sigma, and any other the medial
one. Equality up to case compares characters position by position, so that what surrounds a letter
never matters. A slice is given by byte offsets, and is there only if these do not cut through a
character.
-/
namespace TextPredicate.Text

/-- The code point in hexadecimal, without leading zeros. -/
def codePointEscape (c : Char) : List Char :=
  ['\\', 'u', '\x7b'] ++ Nat.toDigits 16 c.toNat ++ ['\x7d']

/-- The written form of one character. Only the delimiter in use is escaped, not the other one. -/
def escape (delimiter c : Char) : List Char :=
  if c = '\x00' then ['\\', '0']
  else if c = '\t' then ['\\', 't']
  else if c = '\r' then ['\\', 'r']
  else if c = '\n' then ['\\', 'n']
  else if c = '\\' ∨ c = delimiter then ['\\', c]
  else if Unicode.isCombining c || !Unicode.isPrintable c then codePointEscape c
  else [c]

def quoted (delimiter : Char) (cs : List Char) : List Char :=
  delimiter :: (cs.flatMap (escape delimiter) ++ [delimiter])

def quoteText (s : String) : String := String.ofList (quoted '"' s.toList)

def quoteChar (c : Char) : String := String.ofList (quoted '\'' [c])

abbrev Field := String × String

/-- `Name { field: value, field: value }`, on one line. -/
def compact (name : String) (fields : List Field) : String :=
  name ++ " \x7b " ++ ", ".intercalate (fields.map fun f => f.1 ++ ": " ++ f.2) ++ " \x7d"

/-- A line for each field, indented by four spaces and ended by a comma. -/
def expanded (name : String) (fields : List Field) : String :=
  let lines := fields.map fun f => "    " ++ f.1 ++ ": " ++ f.2 ++ ",\n"
  name ++ " \x7b\n" ++ String.join lines ++ "\x7d"

/-- The nearest character that is not looked through is a letter with case. -/
def meetsCased (cs : List Char) : Bool :=
  match cs.dropWhile Unicode.isCaseIgnorable with
  | [] => false
  | c :: _ => Unicode.isCased c

/-- The small form of a character between those before it, nearest first, and those after it. -/
def lowercaseAt (before : List Char) (c : Char) (after : List Char) : List Char :=
  if c = 'Σ' then
    if meetsCased before && !meetsCased after then ['ς'] else ['σ']
  else Unicode.lowerForm c

/-- Lowercases what follows the characters of `before`, nearest first. -/
def lowercaseAfter (before : List Char) : List Char → List Char
  | [] => []
  | c :: after => lowercaseAt before c after ++ lowercaseAfter (c :: before) after

def lowercase (cs : List Char) : List Char := lowercaseAfter [] cs

@[simp] theorem lowercase_nil : lowercase [] = [] := rfl

theorem lowercaseAt_of_ne {before after : List Char} {c : Char} (h : c ≠ 'Σ') :
    lowercaseAt before c after = Unicode.lowerForm c := by
  simp [lowercaseAt, h]

theorem lowercaseAt_ne_nil (before : List Char) (c : Char) (after : List Char) :
    lowercaseAt before c after ≠ [] := by
  unfold lowercaseAt Unicode.lowerForm
  split <;> split <;> simp

/-- Tries the cheap tests first: the same character, the same capital, the same letter folded
through its capital. -/
def sameLetter (a b : Char) : Bool :=
  a == b || Unicode.upper a == Unicode.upper b ||
    Unicode.lower (Unicode.upper a) == Unicode.lower (Unicode.upper b)

def sameLetters (as bs : List Char) : Bool :=
  as.length == bs.length && (as.zip bs).all fun (a, b) => sameLetter a b

theorem sameLetters_nil : sameLetters [] [] = true := rfl

theorem sameLetters_cons (a b : Char) (as bs : List Char) :
    sameLetters (a :: as) (b :: bs) = (sameLetter a b && sameLetters as bs) := by
  simp [sameLetters, Bool.and_left_comm]

def occursIn (part : List Char) : List Char → Bool
  | [] => part.isEmpty
  | c :: rest => part.isPrefixOf (c :: rest) || occursIn part rest

theorem occursIn_iff {part text : List Char} : occursIn part text = true ↔ part <:+: text := by
  induction text with
  | nil => simp [occursIn]
  | cons c rest ih => simp [occursIn, ih, List.infix_cons_iff]

/-- A slice that may be taken: its bounds are in order, do not go beyond the bytes of the text, and
do not cut through a character. -/
structure Sliceable (s : String) (lo hi : Nat) : Prop where
  ordered : lo ≤ hi
  within : hi ≤ s.utf8ByteSize
  first : String.Pos.Raw.IsValid s ⟨lo⟩
  last : String.Pos.Raw.IsValid s ⟨hi⟩

instance (s : String) (lo hi : Nat) : Decidable (Sliceable s lo hi) :=
  decidable_of_iff (lo ≤ hi ∧ hi ≤ s.utf8ByteSize ∧ String.Pos.Raw.IsValid s ⟨lo⟩ ∧
      String.Pos.Raw.IsValid s ⟨hi⟩)
    ⟨fun h => ⟨h.1, h.2.1, h.2.2.1, h.2.2.2⟩, fun h => ⟨h.ordered, h.within, h.first, h.last⟩⟩

/-- The bytes from one offset up to another, as a text. -/
def slice? (s : String) (lo hi : Nat) : Option String :=
  if h : Sliceable s lo hi then some (s.extract ⟨⟨lo⟩, h.first⟩ ⟨⟨hi⟩, h.last⟩) else none

end TextPredicate.Text
