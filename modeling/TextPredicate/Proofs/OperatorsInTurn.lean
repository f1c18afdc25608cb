import Mathlib.Data.List.Chain
import TextPredicate.Proofs.OperatorReading

/-!
Operators that are written one behind the other and read from a single cursor. Blanks must stand
between two of them only where the first would become longer by the `=` of the second. Main
statement: as many readings as there are operators find them in order, and every further one finds
the end.
-/
namespace TextPredicate.Operator
open Source Cursor

/-- What so many readings come to, each from where the one before has stopped. -/
def readings (c : Cursor) : Nat → List (Reading Operator)
  | 0 => []
  | n + 1 => read c :: readings (read c).cursor n

lemma length_readings (c : Cursor) (n : Nat) : (readings c n).length = n := by
  induction n generalizing c with
  | zero => rfl
  | succ n ih => rw [readings, List.length_cons, ih]

lemma readings_blank {c : Cursor} {w : List Char} (hw : Blank w) (hc : c.events = w.map some)
    (n : Nat) :
    (readings c n).map (·.result) =
        List.replicate n (.error (.unexpectedEnd "comparison operator")) ∧
      ∀ r ∈ readings c n, r.cursor.position = c.position + w.length := by
  induction n generalizing c w with
  | zero => exact ⟨rfl, by simp [readings]⟩
  | succ n ih =>
    have hread := read_blank hw hc
    obtain ⟨hresults, hposition⟩ := ih (c := (read c).cursor) (w := []) (by simp [Blank])
      (by rw [hread]; rfl)
    refine ⟨?_, ?_⟩
    · rw [readings, List.map_cons, hresults, hread, List.replicate_succ]
    · intro r hr
      obtain rfl | hr := List.mem_cons.1 hr
      · rw [hread]
      · rw [hposition r hr, hread]
        rfl

/-- An operator in one of its spellings, with the blanks before it. -/
structure Spelled where
  before : List Char
  spelling : List Char
  operator : Operator
  blank_before : Blank before
  spelled : (spelling, operator) ∈ spellings

namespace Spelled

def text (xs : List Spelled) : List Char := xs.flatMap fun x => x.before ++ x.spelling

/-- Without blanks between them, the first spelling would be read as a longer one. -/
def Merges (x y : Spelled) : Prop :=
  x.spelling ∈ [['='], ['~'], ['<'], ['>']] ∧ y.spelling.head? = some '='

def Apart (x y : Spelled) : Prop := Merges x y → y.before ≠ []

lemma text_cons (x : Spelled) (xs : List Spelled) :
    text (x :: xs) = x.before ++ (x.spelling ++ text xs) := by
  simp [text]

lemma head?_text_ne {x : Spelled} {xs : List Spelled} {behind : List Char}
    (hapart : ∀ y ∈ xs.head?, Apart x y) (hbehind : Blank behind)
    (hlength : x.spelling.length = 1) : (text xs ++ behind).head? ≠ some '=' := by
  cases xs with
  | nil => simpa [text] using head?_blanks_append_ne (s := []) hbehind (by simp)
  | cons y ys =>
    rw [text_cons, List.append_assoc]
    refine head?_blanks_append_ne y.blank_before fun hnone => ?_
    have hsingle : ∀ z ∈ spellings, z.1.length = 1 → z.1 ∈ [['='], ['~'], ['<'], ['>']] := by
      decide
    have hhead : y.spelling.head? ≠ some '=' := fun h =>
      hapart y rfl ⟨hsingle _ x.spelled hlength, h⟩ hnone
    obtain ⟨ch, -, hch | hch⟩ := spelling_cases y.spelled <;> simpa [hch] using hhead

/-- The operators are found in order, and then what stands behind them is left to be read. -/
lemma exists_readings {c : Cursor} {xs : List Spelled} {behind : List Char}
    (hapart : xs.IsChain Apart) (hbehind : Blank behind)
    (hc : c.events = (text xs ++ behind).map some) (n : Nat) :
    ∃ d : Cursor, readings c (xs.length + n) = readings c xs.length ++ readings d n ∧
      (readings c xs.length).map (·.result) = xs.map (.ok ·.operator) ∧
      d.events = behind.map some ∧ d.position = c.position + (text xs).length := by
  -- of the cursor behind an operator no more is known than what it has still to read
  induction xs generalizing c with
  | nil => exact ⟨c, by simp [readings], rfl, by simpa [text] using hc, rfl⟩
  | cons x xs ih =>
    obtain ⟨hnext, hapart⟩ := List.isChain_cons.1 hapart
    have hlong : Longest (x.spelling ++ (text xs ++ behind)) x.spelling x.operator :=
      longest_mk x.spelled (head?_text_ne hnext hbehind)
    obtain ⟨c', hread, hev, hpos⟩ := read_longest (c := c) x.blank_before hlong
      (by rw [hc, text_cons]; simp)
    obtain ⟨d, happend, hresults, hrest, hposition⟩ := ih hapart hev
    refine ⟨d, ?_, ?_, hrest, ?_⟩
    · rw [List.length_cons, Nat.succ_add, readings, readings, hread, happend, List.cons_append]
    · rw [List.length_cons, readings, List.map_cons, List.map_cons, hread, hresults]
    · rw [hposition, hpos, text_cons, List.length_append, List.length_append]
      omega

def ofSymbol (before : List Char) (h : Blank before) (o : Operator) : Spelled :=
  ⟨before, o.symbol.toList, o, h, symbol_mem_spellings o⟩

lemma intercalate_symbols {sep : List Char} (hsep : Blank sep) (o : Operator)
    (ops : List Operator) :
    sep.intercalate ((o :: ops).map (·.symbol.toList)) =
      o.symbol.toList ++ text (ops.map (ofSymbol sep hsep)) := by
  induction ops generalizing o with
  | nil => simp [text]
  | cons o' ops ih =>
    have hrest := ih o'
    rw [List.map_cons] at hrest
    rw [List.map_cons, List.map_cons, List.intercalate_cons_cons, hrest, List.map_cons, text_cons,
      List.append_assoc]
    rfl

lemma exists_symbols (ops : List Operator) {sep : List Char} (hsep : Blank sep) (hne : sep ≠ []) :
    ∃ xs : List Spelled, xs.map (·.operator) = ops ∧ xs.IsChain Apart ∧
      text xs = sep.intercalate (ops.map (·.symbol.toList)) := by
  cases ops with
  | nil => exact ⟨[], rfl, .nil, rfl⟩
  | cons o ops =>
    have hoperators : (ops.map (ofSymbol sep hsep)).map (·.operator) = ops := by
      rw [List.map_map]
      exact List.map_id ops
    have hapart : ∀ x y, y ∈ ops.map (ofSymbol sep hsep) → Apart x y := by
      intro x y hy _
      obtain ⟨o', -, rfl⟩ := List.mem_map.1 hy
      exact hne
    refine ⟨ofSymbol [] (by simp [Blank]) o :: ops.map (ofSymbol sep hsep), ?_, ?_, ?_⟩
    · rw [List.map_cons, hoperators]
      rfl
    · refine List.isChain_cons.2 ⟨fun y hy => hapart _ y (List.mem_of_mem_head? hy), ?_⟩
      exact (List.pairwise_of_forall_mem_list fun x _ y hy => hapart x y hy).isChain
    · rw [intercalate_symbols hsep, text_cons]
      rfl

/-- As many readings as there are operators find them, and all others find the end. -/
lemma readings_text {xs : List Spelled} {behind : List Char} (hapart : xs.IsChain Apart)
    (hbehind : Blank behind) (n : Nat) :
    let found := readings (.ofText (String.ofList (text xs ++ behind))) (xs.length + n)
    found.map (·.result) = xs.map (.ok ·.operator) ++
        List.replicate n (.error (.unexpectedEnd "comparison operator")) ∧
      ∀ r ∈ found.drop xs.length, r.cursor.position = (text xs ++ behind).length := by
  intro found
  obtain ⟨d, hfound, hresults, hev, hpos⟩ := exists_readings
    (c := .ofText (String.ofList (text xs ++ behind))) hapart hbehind (by simp) n
  obtain ⟨hend, hposition⟩ := readings_blank hbehind hev n
  refine ⟨?_, fun r hr => ?_⟩
  · rw [show found = _ from hfound, List.map_append, hresults, hend]
  · rw [show found = _ from hfound, List.drop_left' (length_readings _ _)] at hr
    rw [hposition r hr, hpos, List.length_append]
    exact congrArg (· + behind.length) (Nat.zero_add _)

end Spelled

/-- Operators that are written one behind the other are read from one cursor in order, and every
further reading finds the end of the text. It is enough that blanks stand between any two of which
the first would become longer by the second. In particular operators are found in their symbols,
joined by blanks. -/
theorem readings_spelled :
    (∀ (xs : List Spelled) (behind : List Char), xs.IsChain Spelled.Apart → Blank behind → ∀ n,
      let text := Spelled.text xs ++ behind
      let found := readings (.ofText (String.ofList text)) (xs.length + n)
      found.map (·.result) = xs.map (.ok ·.operator) ++
          List.replicate n (.error (.unexpectedEnd "comparison operator")) ∧
        ∀ r ∈ found.drop xs.length, r.cursor.position = text.length) ∧
    ∀ (ops : List Operator) (sep : String), Blank sep.toList → sep ≠ "" → ∀ n,
      let found := readings (.ofText (sep.intercalate (ops.map symbol))) (ops.length + n)
      found.map (·.result) = ops.map .ok ++
        List.replicate n (.error (.unexpectedEnd "comparison operator")) := by
  refine ⟨fun xs behind hapart hbehind n => Spelled.readings_text hapart hbehind n, ?_⟩
  intro ops sep hsep hne n found
  have hchars : sep.toList ≠ [] := by simpa using hne
  obtain ⟨xs, hops, hapart, htext⟩ := Spelled.exists_symbols ops hsep hchars
  have hlength : xs.length = ops.length := by rw [← hops, List.length_map]
  have hresults : xs.map (fun x => (.ok x.operator : Except ParseError Operator)) =
      ops.map .ok := by
    rw [← hops, List.map_map]
    rfl
  have hjoined : String.ofList (Spelled.text xs ++ []) = sep.intercalate (ops.map symbol) := by
    rw [List.append_nil, htext, ← String.toList_inj, String.toList_ofList,
      String.toList_intercalate, List.map_map]
    rfl
  have hnone : Blank [] := by simp [Blank]
  have hfound := (Spelled.readings_text hapart hnone n).1
  rwa [hjoined, hlength, hresults] at hfound

/-- Operators touch where the second does not begin with `=`, or the first cannot become longer; two
equality signs remain two for the blank between them. -/
theorem readings_spelled_touching :
    let xs : List Spelled := [⟨[], ['<'], .less, by simp [Blank], by decide⟩,
      ⟨[], ['!', '='], .notEqual, by simp [Blank], by decide⟩,
      ⟨[], ['='], .equal, by simp [Blank], by decide⟩,
      ⟨['\n'], ['='], .equal, by simp [Blank, isBlank], by decide⟩]
    xs.IsChain Spelled.Apart ∧ Blank ['\t'] ∧
      (readings (.ofText "<!==\n=\t") (4 + 2)).map (·.result) =
        [.ok .less, .ok .notEqual, .ok .equal, .ok .equal] ++
          List.replicate 2 (.error (.unexpectedEnd "comparison operator")) := by
  intro xs
  have hapart : xs.IsChain Spelled.Apart := by simp [xs, Spelled.Apart, Spelled.Merges]
  have hbehind : Blank ['\t'] := by simp [Blank, isBlank]
  exact ⟨hapart, hbehind, (readings_spelled.1 xs ['\t'] hapart hbehind 2).1⟩

-- Without a blank between them, two equality signs are one operator.
example : (readings (.ofText "==") 2).map (·.result) =
    [.ok .equal, .error (.unexpectedEnd "comparison operator")] := rfl

end TextPredicate.Operator
