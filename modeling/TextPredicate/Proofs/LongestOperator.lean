import TextPredicate.Proofs.RejectedText

/-!
Reading an operator from the beginning of a text. Main statement: behind the blanks the longest
spelling is read and nothing more, and where no spelling stands the first character tells why. That
character is found by the next reading, too, unless it is `!`.
-/
namespace TextPredicate.Operator
open Source Cursor

lemma exists_longest_iff {u : List Char} :
    (∃ sp o, Longest u sp o) ↔ ∃ x ∈ spellings, x.1 <+: u := by
  constructor
  · rintro ⟨sp, o, hsp, hpre, -⟩
    exact ⟨(sp, o), hsp, hpre⟩
  · rintro ⟨⟨sp, o⟩, hsp, after, rfl⟩
    obtain ⟨ch, hch, rfl | rfl⟩ := spelling_cases hsp
    · obtain ⟨sp', o', rest, hlong, heq⟩ | ⟨rfl, -⟩ := exists_longest hch after
      · exact ⟨sp', o', by simpa [heq] using hlong⟩
      · have hbang : ∀ o, (['!'], o) ∉ spellings := by
          intro o
          cases o <;> decide
        exact absurd hsp (hbang o)
    · exact ⟨_, o, longest_mk hsp (by simp)⟩

lemma not_starter_of_no_spelling {ch : Char} {after : List Char}
    (h : ¬ ∃ x ∈ spellings, x.1 <+: ch :: after) (hne : ch ≠ '!') : ch ∉ starters := by
  intro hch
  obtain ⟨sp, o, rest, hlong, heq⟩ | ⟨rfl, -⟩ := exists_longest hch after
  · rw [heq] at h
    exact h (exists_longest_iff.1 ⟨sp, o, hlong⟩)
  · exact hne rfl

lemma rejected_of_no_spelling {w after : List Char} {ch : Char} (hw : Blank w)
    (hb : isBlank ch = false) (h : ¬ ∃ x ∈ spellings, x.1 <+: ch :: after) :
    OperatorRejected (w ++ ch :: after) (.unknownOperator ch.toString w.length)
      (w.length + if ch = '!' then 1 else 0) := by
  by_cases hch : ch = '!'
  · subst hch
    have hafter : after.head? ≠ some '=' := by
      intro hhead
      obtain ⟨after, rfl⟩ := List.head?_eq_some_iff.1 hhead
      exact h ⟨(['!', '='], .notEqual), by decide, by simp⟩
    exact .bang hw hafter
  · rw [if_neg hch]
    exact .stray hw hb (not_starter_of_no_spelling h hch)

/-- A character that begins no operator is found again, and stays pending. Behind an end it could be
a blank, which is skipped when it comes up again. -/
lemma read_read_stray {c : Cursor} {w : List Char} {s : Source} {ch : Char} (hw : Blank w)
    (hb : isBlank ch = false) (hch : ch ∉ starters) (hc : c.events = w.map some ++ some ch :: s) :
    read (read c).cursor = read c := by
  rw [read_stray hw hb hch hc]
  exact read_stray (w := []) (by simp [Blank]) hb hch rfl

section OfText
variable {t : String} {w u : List Char}

lemma read_ofText_of_longest (hw : Blank w) (ht : t.toList = w ++ u) {sp : List Char} {o : Operator}
    (h : Longest u sp o) :
    (read (.ofText t)).result = .ok o ∧
      (read (.ofText t)).cursor.StandsAt t.toList (w.length + sp.length) := by
  obtain ⟨after, rfl⟩ := h.2.1
  obtain ⟨c', hread, hev, hpos⟩ := read_longest (c := .ofText t) hw h (by rw [events_ofText, ht])
  have hcut : t.toList = (w ++ sp) ++ after := by rw [ht, List.append_assoc]
  rw [hread]
  refine ⟨rfl, standsAt_append hcut List.length_append.symm ?_ hev⟩
  rw [hpos]
  show 0 + w.length + sp.length = w.length + sp.length
  omega

lemma read_ofText_of_rejected {e : ParseError} {n : Nat} (h : OperatorRejected t.toList e n) :
    (read (.ofText t)).result = .error e ∧ (read (.ofText t)).cursor.StandsAt t.toList n := by
  obtain ⟨c', hread, hat⟩ := read_rejected (c := .ofText t) h (events_ofText t) rfl
  rw [hread]
  exact ⟨rfl, hat⟩

lemma read_ofText_of_blank (hw : Blank w) (ht : t.toList = w) :
    (read (.ofText t)).result = .error (.unexpectedEnd "comparison operator") ∧
      (read (.ofText t)).cursor.StandsAt t.toList w.length := by
  have hnothing : OperatorRejected w (.unexpectedEnd "comparison operator") w.length := .nothing hw
  rw [← ht] at hnothing ⊢
  exact read_ofText_of_rejected hnothing

lemma read_ofText_of_no_spelling (hw : Blank w) {ch : Char} {after : List Char}
    (ht : t.toList = w ++ ch :: after) (hb : isBlank ch = false)
    (h : ¬ ∃ x ∈ spellings, x.1 <+: ch :: after) :
    (read (.ofText t)).result = .error (.unknownOperator ch.toString w.length) ∧
      (read (.ofText t)).cursor.StandsAt t.toList (w.length + if ch = '!' then 1 else 0) := by
  have hrejected := rejected_of_no_spelling hw hb h
  rw [← ht] at hrejected
  exact read_ofText_of_rejected hrejected

lemma read_ofText_eq_ok (hw : Blank w) (hu : ∀ ch, u.head? = some ch → isBlank ch = false)
    (ht : t.toList = w ++ u) {o : Operator} :
    (read (.ofText t)).result = .ok o ↔ ∃ sp, Longest u sp o := by
  constructor
  · intro hresult
    by_cases h : ∃ x ∈ spellings, x.1 <+: u
    · obtain ⟨sp, o', hlong⟩ := exists_longest_iff.2 h
      obtain rfl : o' = o :=
        Except.ok.inj ((read_ofText_of_longest hw ht hlong).1.symm.trans hresult)
      exact ⟨sp, hlong⟩
    · cases u with
      | nil =>
        rw [(read_ofText_of_blank hw (by simpa using ht)).1] at hresult
        cases hresult
      | cons ch after =>
        rw [(read_ofText_of_no_spelling hw ht (hu ch rfl) h).1] at hresult
        cases hresult
  · rintro ⟨sp, h⟩
    exact (read_ofText_of_longest hw ht h).1

lemma read_read_ofText (hw : Blank w) (hu : ∀ ch, u.head? = some ch → isBlank ch = false)
    (ht : t.toList = w ++ u) {found : String} {position : Nat}
    (h : (read (.ofText t)).result = .error (.unknownOperator found position)) (hne : found ≠ "!") :
    read (read (.ofText t)).cursor = read (.ofText t) := by
  have hnone : ¬ ∃ x ∈ spellings, x.1 <+: u := by
    intro hspelling
    obtain ⟨sp, o, hlong⟩ := exists_longest_iff.2 hspelling
    rw [(read_ofText_of_longest hw ht hlong).1] at h
    cases h
  cases u with
  | nil =>
    rw [(read_ofText_of_blank hw (by simpa using ht)).1] at h
    cases h
  | cons ch after =>
    rw [(read_ofText_of_no_spelling hw ht (hu ch rfl) hnone).1] at h
    obtain ⟨rfl, -⟩ : ch.toString = found ∧ w.length = position := by
      simpa only [Except.error.injEq, ParseError.unknownOperator.injEq] using h
    have hbang : ch ≠ '!' := by
      rintro rfl
      exact hne rfl
    have hch : ch ∉ starters := not_starter_of_no_spelling hnone hbang
    exact read_read_stray (s := after.map some) hw (hu ch rfl) hch (by simp [ht])

end OfText

/-- An operator is read from a text exactly if a spelling stands behind the blanks, and then it is
the longest one that is read, to its end. Otherwise the text is at its end or its first character
is no operator. That character stays to be read, unless it is `!`, and is found by every further
reading. -/
theorem read_ofText_longest_spelling (t : String) :
    ((∃ o, (read (.ofText t)).result = .ok o) ↔
      ∃ x ∈ spellings, x.1 <+: t.toList.dropWhile isBlank) ∧
    let w := t.toList.takeWhile isBlank
    let u := t.toList.dropWhile isBlank
    let reading := read (.ofText t)
    (∀ o, reading.result = .ok o ↔ ∃ sp, Longest u sp o) ∧
    (∀ sp o, Longest u sp o → reading.cursor.StandsAt t.toList (w.length + sp.length)) ∧
    (u = [] → reading.result = .error (.unexpectedEnd "comparison operator") ∧
      reading.cursor.StandsAt t.toList w.length) ∧
    (∀ ch after, u = ch :: after → (¬ ∃ x ∈ spellings, x.1 <+: u) →
      reading.result = .error (.unknownOperator ch.toString w.length) ∧
      reading.cursor.StandsAt t.toList (w.length + if ch = '!' then 1 else 0)) ∧
    (∀ found position, reading.result = .error (.unknownOperator found position) →
      found ≠ "!" → read reading.cursor = reading) := by
  let w := t.toList.takeWhile isBlank
  let u := t.toList.dropWhile isBlank
  have hw : Blank w := List.all_eq_true.1 List.all_takeWhile
  have ht : t.toList = w ++ u := List.takeWhile_append_dropWhile.symm
  have hu : ∀ ch, u.head? = some ch → isBlank ch = false := by
    intro ch hch
    have hnot := List.head?_dropWhile_not isBlank t.toList
    rwa [show (t.toList.dropWhile isBlank).head? = some ch from hch] at hnot
  have hok : ∀ o, (read (.ofText t)).result = .ok o ↔ ∃ sp, Longest u sp o :=
    fun o => read_ofText_eq_ok hw hu ht
  refine ⟨?_, hok, fun sp o h => (read_ofText_of_longest hw ht h).2, fun hnil => ?_,
    fun ch after hcons hnone => ?_, fun found position h hne => read_read_ofText hw hu ht h hne⟩
  · rw [← exists_longest_iff, exists_comm]
    exact exists_congr hok
  · have hnil : u = [] := hnil
    rw [hnil, List.append_nil] at ht
    exact read_ofText_of_blank hw ht
  · have hcons : u = ch :: after := hcons
    have hb : isBlank ch = false := hu ch (by rw [hcons]; rfl)
    have hnone : ¬ ∃ x ∈ spellings, x.1 <+: u := hnone
    rw [hcons] at ht hnone
    exact read_ofText_of_no_spelling hw ht hb hnone

example : read (.ofText "\t<==") =
    ⟨.ok .lessOrEqual, ⟨Source.ofText "=", none, 3⟩, [.operatorRead .lessOrEqual 1]⟩ := rfl

end TextPredicate.Operator
