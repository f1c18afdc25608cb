import Mathlib.Data.List.Basic
import Mathlib.Tactic.SplitIfs
import TextPredicate.Text

/-!
Text that can be read back. What is written is self-delimiting if it tells its own end, whatever
comes behind it. Main statement: a text between delimiters is, with whatever quotes, backslashes and
controls it holds, since each escape is, and none looks like the closing delimiter.
-/
namespace TextPredicate.Text

/-- What was written, and what stands behind it, are known from the two together. -/
def SelfDelimiting {α : Type} (write : α → List Char) : Prop :=
  ∀ ⦃a b : α⦄ ⦃r s : List Char⦄, write a ++ r = write b ++ s → a = b ∧ r = s

/-- What is known from its first character alone, among all that may be written. -/
lemma selfDelimiting_of_head {α : Type} {write : α → List Char} (hne : ∀ a, write a ≠ [])
    (hhead : ∀ a b, (write a).head? = (write b).head? → a = b) : SelfDelimiting write := by
  intro a b r s h
  have hfirst := congrArg List.head? h
  rw [List.head?_append_of_ne_nil _ (hne a), List.head?_append_of_ne_nil _ (hne b)] at hfirst
  obtain rfl := hhead a b hfirst
  exact ⟨rfl, List.append_cancel_left h⟩

/-- A run of one kind of characters ends where another character comes. -/
lemma cut_unique {p : Char → Bool} {a b s t : List Char} {x y : Char} (ha : ∀ ch ∈ a, p ch = true)
    (hb : ∀ ch ∈ b, p ch = true) (hx : p x = false) (hy : p y = false)
    (h : a ++ x :: s = b ++ y :: t) : a = b ∧ x = y ∧ s = t := by
  have hrun : a = b := by
    have hcut := congrArg (List.takeWhile p) h
    simpa [List.takeWhile_append_of_pos ha, List.takeWhile_append_of_pos hb, hx, hy] using hcut
  subst hrun
  simpa using h

def digitValue (c : Char) : Nat := if c.isDigit then c.toNat - 48 else c.toNat - 87

def ofHex (cs : List Char) : Nat := cs.foldl (fun n c => n * 16 + digitValue c) 0

lemma digitValue_digitChar : ∀ d < 16, digitValue (Nat.digitChar d) = d := by decide

lemma digitChar_ne_brace : ∀ d < 16, Nat.digitChar d ≠ '\x7d' := by decide

lemma ofHex_append (cs : List Char) (c : Char) :
    ofHex (cs ++ [c]) = ofHex cs * 16 + digitValue c := by
  simp [ofHex]

lemma ofHex_toDigits (n : Nat) : ofHex (Nat.toDigits 16 n) = n := by
  induction n using Nat.strongRecOn with
  | ind n ih =>
    rw [Nat.toDigits_eq_if (by decide)]
    split
    · next h => simp [ofHex, digitValue_digitChar n h]
    · next h =>
      rw [ofHex_append, ih (n / 16) (by omega), digitValue_digitChar _ (Nat.mod_lt n (by decide))]
      omega

lemma brace_not_mem_toDigits (n : Nat) : '\x7d' ∉ Nat.toDigits 16 n := by
  induction n using Nat.strongRecOn with
  | ind n ih =>
    rw [Nat.toDigits_eq_if (by decide)]
    split
    · next h => simp [(digitChar_ne_brace n h).symm]
    · next h =>
      have hlast := digitChar_ne_brace _ (Nat.mod_lt n (by decide))
      simpa [hlast.symm] using ih (n / 16) (by omega)

/-- Reads an escape from behind its backslash, and gives what follows it. -/
def readEscape : List Char → Option (Char × List Char)
  | '0' :: rest => some ('\x00', rest)
  | 't' :: rest => some ('\t', rest)
  | 'r' :: rest => some ('\r', rest)
  | 'n' :: rest => some ('\n', rest)
  | 'u' :: '\x7b' :: rest =>
    some (Char.ofNat (ofHex (rest.takeWhile (· ≠ '\x7d'))), (rest.dropWhile (· ≠ '\x7d')).tail)
  | c :: rest => some (c, rest)
  | [] => none

/-- Reads one character in its written form, and gives what follows it. -/
def readEscaped : List Char → Option (Char × List Char)
  | c :: rest => if c = '\\' then readEscape rest else some (c, rest)
  | [] => none

lemma readEscaped_codePointEscape (c : Char) (rest : List Char) :
    readEscaped (codePointEscape c ++ rest) = some (c, rest) := by
  have hdigits : ∀ x ∈ Nat.toDigits 16 c.toNat, decide (x ≠ '\x7d') = true := by
    intro x hx
    simpa using ne_of_mem_of_not_mem hx (brace_not_mem_toDigits _)
  have hshape : codePointEscape c ++ rest =
      '\\' :: 'u' :: '\x7b' :: (Nat.toDigits 16 c.toNat ++ '\x7d' :: rest) := by
    simp [codePointEscape]
  rw [hshape, readEscaped, if_pos rfl, readEscape, List.takeWhile_append_of_pos hdigits,
    List.dropWhile_append_of_pos hdigits]
  simp [ofHex_toDigits]

variable {delimiter : Char}

lemma readEscaped_escape (hd : delimiter = '"' ∨ delimiter = '\'') (c : Char) (rest : List Char) :
    readEscaped (escape delimiter c ++ rest) = some (c, rest) := by
  unfold escape
  split_ifs with h0 ht hr hn hself hcode
  · rw [h0]; rfl
  · rw [ht]; rfl
  · rw [hr]; rfl
  · rw [hn]; rfl
  · rcases hself with rfl | rfl
    · rfl
    · rcases hd with rfl | rfl <;> rfl
  · exact readEscaped_codePointEscape c rest
  · exact if_neg fun h => hself (.inl h)

lemma selfDelimiting_escape (hd : delimiter = '"' ∨ delimiter = '\'') :
    SelfDelimiting (escape delimiter) := by
  intro a b r s h
  have hread := congrArg readEscaped h
  rw [readEscaped_escape hd, readEscaped_escape hd] at hread
  exact Prod.mk.inj (Option.some.inj hread)

lemma escape_cases (delimiter c : Char) :
    (∃ rest, escape delimiter c = '\\' :: rest) ∨ escape delimiter c = [c] ∧ c ≠ delimiter := by
  unfold escape codePointEscape
  split_ifs with h0 ht hr hn hself hcode
  case neg => exact .inr ⟨rfl, fun h => hself (.inr h)⟩
  all_goals exact .inl ⟨_, rfl⟩

/-- The closing delimiter is not taken for the beginning of a character. -/
lemma escape_append_ne (hd : delimiter ≠ '\\') (c : Char) (r s : List Char) :
    escape delimiter c ++ r ≠ delimiter :: s := by
  intro h
  rcases escape_cases delimiter c with ⟨rest, heq⟩ | ⟨heq, hc⟩
  · rw [heq, List.cons_append] at h
    exact hd (List.cons.inj h).1.symm
  · rw [heq, List.cons_append] at h
    exact hc (List.cons.inj h).1

lemma flatMap_escape_unique (hd : delimiter = '"' ∨ delimiter = '\'') {as bs r s : List Char}
    (h : as.flatMap (escape delimiter) ++ delimiter :: r =
      bs.flatMap (escape delimiter) ++ delimiter :: s) : as = bs ∧ r = s := by
  have hne : delimiter ≠ '\\' := by rcases hd with rfl | rfl <;> decide
  induction as generalizing bs with
  | nil =>
    cases bs with
    | nil => exact ⟨rfl, (List.cons.inj h).2⟩
    | cons b bs =>
      rw [List.flatMap_cons, List.append_assoc] at h
      exact absurd h.symm (escape_append_ne hne b _ _)
  | cons a as ih =>
    cases bs with
    | nil =>
      rw [List.flatMap_cons, List.append_assoc] at h
      exact absurd h (escape_append_ne hne a _ _)
    | cons b bs =>
      rw [List.flatMap_cons, List.flatMap_cons, List.append_assoc, List.append_assoc] at h
      obtain ⟨rfl, hrest⟩ := selfDelimiting_escape hd h
      obtain ⟨rfl, hbehind⟩ := ih hrest
      exact ⟨rfl, hbehind⟩

theorem selfDelimiting_quoted (hd : delimiter = '"' ∨ delimiter = '\'') :
    SelfDelimiting (quoted delimiter) := by
  intro as bs r s h
  simp only [quoted, List.cons_append, List.append_assoc, List.nil_append, List.cons.injEq,
    true_and] at h
  exact flatMap_escape_unique hd h

lemma selfDelimiting_quoteText : SelfDelimiting fun s : String => (quoteText s).toList := by
  intro a b r s h
  simp only [quoteText, String.toList_ofList] at h
  obtain ⟨heq, hrest⟩ := selfDelimiting_quoted (.inl rfl) h
  exact ⟨String.toList_inj.1 heq, hrest⟩

lemma toList_toString (n : Nat) : (toString n).toList = Nat.toDigits 10 n := by
  rw [Nat.toString_eq_ofList_toDigits, String.toList_ofList]

lemma toString_injective {m n : Nat} (h : (toString m).toList = (toString n).toList) : m = n := by
  rw [toList_toString, toList_toString] at h
  have hread := congrArg (fun cs => Nat.ofDigitChars 10 cs 0) h
  simpa [Nat.ofDigitChars_toDigits] using hread

lemma digits_unique {m n : Nat} {x y : Char} {r s : List Char} (hx : x.isDigit = false)
    (hy : y.isDigit = false)
    (h : (toString m).toList ++ x :: r = (toString n).toList ++ y :: s) : m = n ∧ r = s := by
  have hdigit : ∀ k : Nat, ∀ c ∈ (toString k).toList, c.isDigit = true := by
    intro k c hc
    rw [toList_toString] at hc
    exact Nat.isDigit_of_mem_toDigits (by decide) (by decide) hc
  obtain ⟨heq, -, hrest⟩ := cut_unique (hdigit m) (hdigit n) hx hy h
  exact ⟨toString_injective heq, hrest⟩

end TextPredicate.Text
