import TextPredicate.Proofs.LifeCycle
import TextPredicate.Proofs.RejectedText

/-!
Conditions that are written one behind the other and read from a single cursor. Reading one ends in
front of the operator of the next, since the blanks behind a condition are skipped; the next reading
does not miss them. Main statement: as many new predicates as there are conditions find them in
order, and one more finds the end.
-/
namespace TextPredicate
open Source Cursor

/-- A written condition with nothing but blanks behind it. -/
structure Entry extends Written where
  blank_behind : Blank behind

namespace Entry

def text (entries : List Entry) : List Char := entries.flatMap fun e => e.chars

/-- Where the operator of an entry stands in the text of all entries. Behind the last one it is the
end of the text. -/
def operatorOffset : List Entry → Nat → Nat
  | [], _ => 0
  | e :: _, 0 => e.before.length
  | e :: rest, i + 1 => e.chars.length + operatorOffset rest i

lemma text_cons (e : Entry) (rest : List Entry) : text (e :: rest) = e.chars ++ text rest := rfl

lemma text_eq_before_append (e : Entry) (rest : List Entry) :
    text (e :: rest) = e.before ++ (text (e :: rest)).dropWhile isBlank := by
  obtain ⟨x, xs, hx, hblank⟩ := Written.exists_cons_of_spelling e.spelled
  have htext : text (e :: rest) = e.before ++
      x :: (xs ++ e.between ++ '"' :: e.literal ++ '"' :: e.behind ++ text rest) := by
    simp [text_cons, Written.chars, hx]
  rw [htext, List.dropWhile_append_of_pos e.blank_before,
    List.dropWhile_cons_of_neg (by simp [hblank])]

lemma exists_text_eq (entries : List Entry) (i : Nat) :
    ∃ gone, text entries = gone ++ (text (entries.drop i)).dropWhile isBlank ∧
      operatorOffset entries i = gone.length := by
  induction entries generalizing i with
  | nil => exact ⟨[], by simp [text], rfl⟩
  | cons e rest ih =>
    cases i with
    | zero => exact ⟨e.before, text_eq_before_append e rest, rfl⟩
    | succ i =>
      obtain ⟨gone, hgone, hlength⟩ := ih i
      refine ⟨e.chars ++ gone, ?_, ?_⟩
      · rw [text_cons, List.drop_succ_cons, List.append_assoc, ← hgone]
      · rw [operatorOffset, hlength, List.length_append]

lemma operatorOffset_length (entries : List Entry) :
    operatorOffset entries entries.length = (text entries).length := by
  obtain ⟨gone, htext, hlength⟩ := exists_text_eq entries entries.length
  have hgone : text entries = gone := by simpa [text] using htext
  rw [hlength, hgone]

end Entry

lemma Written.exists_behind_blanks {w : Written} {b r : List Char} (hb : Blank b)
    (h : w.chars = b ++ r) :
    ∃ w' : Written, w'.chars = r ∧ w'.condition = w.condition ∧ w'.behind = w.behind := by
  obtain ⟨x, xs, hx, hblank⟩ := exists_cons_of_spelling w.spelled
  have hcut : w.before ++
      (w.spelling ++ (w.between ++ '"' :: (w.literal ++ '"' :: w.behind))) = b ++ r := by
    simpa [chars] using h
  obtain ⟨before, hbefore, hr⟩ : ∃ before, w.before = b ++ before ∧
      r = before ++ (w.spelling ++ (w.between ++ '"' :: (w.literal ++ '"' :: w.behind))) := by
    obtain ⟨more, hmore, hspelling⟩ | h := List.append_eq_append_iff.1 hcut
    · -- the blanks cannot reach into the operator
      have hnil : more = [] := by
        cases more with
        | nil => rfl
        | cons y more =>
          obtain rfl : x = y := by
            rw [hx] at hspelling
            simpa using congrArg List.head? hspelling
          have hx : isBlank x = true := hb x (by simp [hmore])
          simp [hblank] at hx
      subst hnil
      exact ⟨[], by simpa using hmore.symm, by simpa using hspelling.symm⟩
    · exact h
  have hblank : Blank before := fun ch hch => w.blank_before ch (by simp [hbefore, hch])
  refine ⟨{ w with before, blank_before := hblank }, ?_, rfl, rfl⟩
  simp [hr, chars]

namespace Condition

/-- The cursor from which a number of conditions have been read, one behind the other. -/
def cursorAfter (c : Cursor) : Nat → Cursor
  | 0 => c
  | n + 1 => (read (cursorAfter c n)).cursor

/-- The first entry is read, and the cursor then stands at the next operator. -/
lemma read_entry {c : Cursor} {e : Entry} {rest : List Entry} {b r : List Char} (hb : Blank b)
    (htext : Entry.text (e :: rest) = b ++ r) (hc : c.events = r.map some) :
    (read c).result = .ok e.condition ∧
    (read c).cursor.events = ((Entry.text rest).dropWhile isBlank).map some ∧
    (read c).cursor.position + ((Entry.text rest).dropWhile isBlank).length =
      c.position + r.length := by
  have hcut : (e.extend (Entry.text rest)).chars = b ++ r := by
    rw [Written.chars_extend, ← htext, Entry.text_cons]
  obtain ⟨w, hchars, hcondition, hbehind⟩ := Written.exists_behind_blanks hb hcut
  have hread := read_written w (by rw [hchars, hc])
  have hdrop : w.behind.dropWhile isBlank = (Entry.text rest).dropWhile isBlank := by
    rw [hbehind]
    exact List.dropWhile_append_of_pos e.blank_behind
  rwa [hcondition, hdrop, hchars] at hread

variable {c : Cursor} {entries : List Entry} {i : Nat}

/-- In front of every entry some of the blanks before it may be gone, and nothing else. -/
lemma cursorAfter_entries (hc : c.events = (Entry.text entries).map some)
    (hi : i ≤ entries.length) :
    ∃ b r, Blank b ∧ Entry.text (entries.drop i) = b ++ r ∧
      (cursorAfter c i).events = r.map some ∧
      (cursorAfter c i).position + r.length = c.position + (Entry.text entries).length := by
  induction i with
  | zero => exact ⟨[], Entry.text entries, by simp [Blank], rfl, hc, rfl⟩
  | succ i ih =>
    obtain ⟨b, r, hb, htext, hev, hpos⟩ := ih (by omega)
    rw [List.drop_eq_getElem_cons hi] at htext
    obtain ⟨-, hev', hpos'⟩ := read_entry hb htext hev
    have hblank : Blank ((Entry.text (entries.drop (i + 1))).takeWhile isBlank) :=
      List.all_eq_true.1 List.all_takeWhile
    refine ⟨_, _, hblank, List.takeWhile_append_dropWhile.symm, hev', ?_⟩
    rw [cursorAfter, hpos', hpos]

lemma read_cursorAfter (hc : c.events = (Entry.text entries).map some) (hstart : c.position = 0)
    (hi : i < entries.length) :
    (read (cursorAfter c i)).result = .ok entries[i].condition ∧
      (read (cursorAfter c i)).cursor.StandsAt (Entry.text entries)
        (Entry.operatorOffset entries (i + 1)) := by
  obtain ⟨b, r, hb, htext, hev, hpos⟩ := cursorAfter_entries hc (Nat.le_of_lt hi)
  rw [List.drop_eq_getElem_cons hi] at htext
  obtain ⟨hresult, hev', hpos'⟩ := read_entry hb htext hev
  obtain ⟨gone, hgone, hlength⟩ := Entry.exists_text_eq entries (i + 1)
  have hsum := congrArg List.length hgone
  rw [List.length_append] at hsum
  exact ⟨hresult, standsAt_append hgone hlength (by omega) hev'⟩

lemma read_behind_entries (hc : c.events = (Entry.text entries).map some) :
    (read (cursorAfter c entries.length)).result =
      .error (.unexpectedEnd "comparison operator") := by
  obtain ⟨b, r, -, htext, hev, -⟩ := cursorAfter_entries hc (Nat.le_refl _)
  obtain ⟨-, rfl⟩ : b = [] ∧ r = [] := by simpa [Entry.text] using htext.symm
  obtain ⟨hend, -⟩ := skipBlanks_to_end (w := []) (by simp [Blank]) hev
  rw [reads_iff.1 (.noOperator (.nothing (by rw [read_nil hend])))]

lemma exists_written_render {k : Condition} (hquote : '"' ∉ k.literal.toList) :
    ∃ w : Written, w.condition = k ∧ w.chars = k.render.toList := by
  have hspelled : (k.comparison.symbol.toList, k.comparison) ∈ Comparison.spellings :=
    Comparison.mem_spellings.2 (Operator.symbol_mem_spellings k.comparison.operator)
  have hblank : Blank [' '] := by simp [Blank, isBlank]
  refine ⟨⟨[], k.comparison, _, [' '], k.literal.toList, [], by simp [Blank], hspelled, hblank,
    hquote⟩, ?_, ?_⟩
  · simp [Written.condition]
  · simp [Written.chars, render]

end Condition

namespace Predicate
variable {σ : Type}

lemma quote_not_mem_of_parse {p : Predicate σ} {c : Cursor} {k : Condition}
    (hp : p.state = .unparsed) (hk : (p.parse c).predicate.condition? = some k) :
    '"' ∉ k.literal.toList := by
  cases hread : (Condition.read c).result with
  | ok k' =>
    rw [parse_of_read hp hread] at hk
    obtain rfl : k' = k := by simpa [condition?] using hk
    exact Condition.quote_not_mem_literal hread
  | error e =>
    rw [parse_of_refused hp hread] at hk
    simp [condition?] at hk

/-- Conditions that are written one behind the other are read from one cursor, each by any new
predicate, which leaves the cursor at the next operator; another predicate is refused at the end.
In particular a condition that was read is read again from its rendering. -/
theorem parse_entries (entries : List Entry) :
    let text := Entry.text entries
    let c := Condition.cursorAfter (.ofText (String.ofList text))
    (∀ (i : Nat) (hi : i < entries.length) {σ : Type} (p : Predicate σ), p.state = .unparsed →
      (p.parse (c i)).result = .ok () ∧
      (p.parse (c i)).predicate.comparison? = some entries[i].comparison ∧
      (p.parse (c i)).predicate.literal? = some (String.ofList entries[i].literal) ∧
      (p.parse (c i)).cursor = c (i + 1) ∧
      (c (i + 1)).StandsAt text (Entry.operatorOffset entries (i + 1))) ∧
    Entry.operatorOffset entries entries.length = text.length ∧
    (∀ {σ : Type} (p : Predicate σ), p.state = .unparsed →
      (p.parse (c entries.length)).result = .error (.unexpectedEnd "comparison operator")) ∧
    ∀ {σ τ : Type} (p : Predicate σ) (d : Cursor) (k : Condition), p.state = .unparsed →
      (p.parse d).predicate.condition? = some k →
      ∀ (extract : τ → String) (ignoreCase : Bool),
        (ofText extract ignoreCase k.render).result = .ok () ∧
        (ofText extract ignoreCase k.render).predicate.condition? = some k := by
  intro text c
  have hc : (Cursor.ofText (String.ofList text)).events = text.map some := by simp
  refine ⟨fun i hi σ p hp => ?_, Entry.operatorOffset_length entries, fun p hp => ?_,
    fun p d k hp hk extract ignoreCase => ?_⟩
  · obtain ⟨hresult, hat⟩ := Condition.read_cursorAfter hc rfl hi
    rw [parse_of_read hp hresult]
    exact ⟨rfl, rfl, rfl, rfl, hat⟩
  · rw [parse_of_refused hp (Condition.read_behind_entries hc)]
  · obtain ⟨w, rfl, hw⟩ := Condition.exists_written_render (quote_not_mem_of_parse hp hk)
    obtain ⟨hresult, hpredicate⟩ := ofText_of_written extract ignoreCase hw
    rw [hresult, hpredicate]
    exact ⟨rfl, rfl⟩

-- Without a blank between them, the operator of the second condition is pending behind the first.
example : Condition.cursorAfter (.ofText "=\"a\"~ \"b\"") 1 =
    ⟨Source.ofText " \"b\"", some '~', 4⟩ := by decide

end Predicate
end TextPredicate
