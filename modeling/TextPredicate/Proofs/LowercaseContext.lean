import Mathlib.Data.List.Infix
import TextPredicate.Proofs.LetterCase

/-!
Small letters inside a longer text. Only a capital sigma looks at what stands around it, so a part
of a text is lowercased as if it stood alone exactly if each of its sigmas ends a word there as it
does in the whole text (`SigmasKept`). The part then appears in the lowercased text. A star is no
letter, so that a text is lowercased beside a star as if it ended there.
-/
namespace TextPredicate.Text
open Unicode

/-- A sigma between these, the nearest characters before it first, ends a word. -/
def endsWord (before after : List Char) : Bool := meetsCased before && !meetsCased after

/-- The small form of a part of a text, between what stands before it, nearest first, and what
stands after it. -/
def lowercaseIn (before : List Char) : List Char → List Char → List Char
  | [], _ => []
  | c :: cs, after => lowercaseAt before c (cs ++ after) ++ lowercaseIn (c :: before) cs after

/-- Each capital sigma of `m` ends a word in `a ++ m ++ b` exactly if it does in `m` alone. -/
def SigmasKept (a m b : List Char) : Prop :=
  ∀ x y, m = x ++ 'Σ' :: y → endsWord (x.reverse ++ a.reverse) (y ++ b) = endsWord x.reverse y

lemma lowercaseAfter_append (before cs after : List Char) :
    lowercaseAfter before (cs ++ after) =
      lowercaseIn before cs after ++ lowercaseAfter (cs.reverse ++ before) after := by
  induction cs generalizing before with
  | nil => rfl
  | cons c cs ih => simp [lowercaseAfter, lowercaseIn, ih]

lemma lowercaseIn_nil_right (before cs : List Char) :
    lowercaseIn before cs [] = lowercaseAfter before cs := by
  have hsplit := lowercaseAfter_append before cs []
  simpa [lowercaseAfter] using hsplit.symm

lemma lowercase_append (a m b : List Char) :
    lowercase (a ++ m ++ b) = lowercaseIn [] a (m ++ b) ++ lowercaseIn a.reverse m b ++
      lowercaseAfter (m.reverse ++ a.reverse) b := by
  rw [lowercase, List.append_assoc, lowercaseAfter_append, lowercaseAfter_append, List.append_nil,
    List.append_assoc]

lemma lowercaseAt_sigma (before after : List Char) :
    lowercaseAt before 'Σ' after = if endsWord before after then ['ς'] else ['σ'] := if_pos rfl

lemma lowercaseAt_eq_iff {c : Char} {p q s t : List Char} :
    lowercaseAt p c s = lowercaseAt q c t ↔ (c = 'Σ' → endsWord p s = endsWord q t) := by
  by_cases hc : c = 'Σ'
  · subst hc
    rw [lowercaseAt_sigma, lowercaseAt_sigma]
    cases endsWord p s <;> cases endsWord q t <;> simp
  · simp [lowercaseAt_of_ne hc, hc]

lemma length_lowercaseAt (p s : List Char) (c : Char) :
    (lowercaseAt p c s).length = (lowerForm c).length := by
  by_cases hc : c = 'Σ'
  · subst hc
    rw [lowercaseAt_sigma, lowerForm_of_ne (by simp)]
    split <;> simp
  · rw [lowercaseAt_of_ne hc]

lemma length_lowercaseIn (p q s t m : List Char) :
    (lowercaseIn p m s).length = (lowercaseIn q m t).length := by
  induction m generalizing p q with
  | nil => rfl
  | cons c m ih =>
    rw [lowercaseIn, lowercaseIn, List.length_append, List.length_append, length_lowercaseAt,
      length_lowercaseAt, ih (c :: p) (c :: q)]

lemma length_lowercaseIn_eq (p s m : List Char) :
    (lowercaseIn p m s).length = (lowercase m).length := by
  rw [lowercase, ← lowercaseIn_nil_right]
  exact length_lowercaseIn p [] s [] m

lemma lowercaseIn_eq_iff {p q s t m : List Char} :
    lowercaseIn p m s = lowercaseIn q m t ↔
      ∀ x y, m = x ++ 'Σ' :: y → endsWord (x.reverse ++ p) (y ++ s) =
        endsWord (x.reverse ++ q) (y ++ t) := by
  induction m generalizing p q with
  | nil => simp [lowercaseIn]
  | cons c m ih =>
    have hcut : lowercaseIn p (c :: m) s = lowercaseIn q (c :: m) t ↔
        lowercaseAt p c (m ++ s) = lowercaseAt q c (m ++ t) ∧
          lowercaseIn (c :: p) m s = lowercaseIn (c :: q) m t := by
      rw [lowercaseIn, lowercaseIn]
      constructor
      · intro h
        exact List.append_inj h (by rw [length_lowercaseAt, length_lowercaseAt])
      · rintro ⟨hhead, htail⟩
        rw [hhead, htail]
    rw [hcut, lowercaseAt_eq_iff, ih]
    constructor
    · rintro ⟨hhead, htail⟩ x y hxy
      cases x with
      | nil =>
        obtain ⟨rfl, rfl⟩ : c = 'Σ' ∧ m = y := by simpa using hxy
        exact hhead rfl
      | cons d x =>
        obtain ⟨rfl, rfl⟩ : c = d ∧ m = x ++ 'Σ' :: y := by simpa using hxy
        simpa using htail x y rfl
    · intro h
      refine ⟨?_, fun x y hxy => ?_⟩
      · rintro rfl
        simpa using h [] m rfl
      · simpa using h (c :: x) y (by rw [hxy]; rfl)

lemma lowercaseIn_eq_lowercase_iff {a m b : List Char} :
    lowercase m = lowercaseIn a.reverse m b ↔ SigmasKept a m b := by
  rw [lowercase, ← lowercaseIn_nil_right, eq_comm, lowercaseIn_eq_iff]
  simp [SigmasKept]

/-- What surrounds a part hides it from no search, as long as its sigmas are kept. -/
lemma lowercase_isInfix {a m b : List Char} (h : SigmasKept a m b) :
    lowercase m <:+: lowercase (a ++ m ++ b) := by
  rw [lowercase_append, lowercaseIn_eq_lowercase_iff.2 h]
  exact List.infix_append _ _ _

lemma lowercase_prefix_iff {m b : List Char} :
    lowercase m <+: lowercase (m ++ b) ↔ SigmasKept [] m b := by
  have hsplit : lowercase (m ++ b) = lowercaseIn [] m b ++ lowercaseAfter m.reverse b := by
    simpa [lowercaseIn] using lowercase_append [] m b
  have hlen : (lowercase m).length = (lowercaseIn [] m b).length :=
    (length_lowercaseIn_eq [] b m).symm
  rw [hsplit, ← lowercaseIn_eq_lowercase_iff, List.reverse_nil]
  constructor
  · intro h
    exact (List.prefix_of_prefix_length_le h (List.prefix_append ..) hlen.le).eq_of_length hlen
  · intro h
    rw [h]
    exact List.prefix_append ..

lemma lowercase_suffix_iff {a m : List Char} :
    lowercase m <:+ lowercase (a ++ m) ↔ SigmasKept a m [] := by
  have hsplit : lowercase (a ++ m) = lowercaseIn [] a m ++ lowercaseIn a.reverse m [] := by
    simpa [lowercaseAfter] using lowercase_append a m []
  have hlen : (lowercase m).length = (lowercaseIn a.reverse m []).length :=
    (length_lowercaseIn_eq a.reverse [] m).symm
  rw [hsplit, ← lowercaseIn_eq_lowercase_iff]
  constructor
  · intro h
    exact (List.suffix_of_suffix_length_le h (List.suffix_append ..) hlen.le).eq_of_length hlen
  · intro h
    rw [h]
    exact List.suffix_append ..

/-- Whether a letter is met among the first characters does not depend on what follows them, unless
one is met there. -/
lemma meetsCased_append {rest : List Char} (h : meetsCased rest = false) (cs : List Char) :
    meetsCased (cs ++ rest) = meetsCased cs := by
  induction cs with
  | nil => exact h
  | cons c cs ih =>
    by_cases hc : isCaseIgnorable c = true
    · simpa [meetsCased, hc] using ih
    · simp [meetsCased, hc]

/-- A star is no letter, so that no word goes on behind it. -/
lemma meetsCased_star (rest : List Char) : meetsCased ('*' :: rest) = false := by
  have hignorable : isCaseIgnorable '*' = false := by decide +kernel
  have hcased : isCased '*' = false := by decide +kernel
  simp [meetsCased, hignorable, hcased]

lemma sigmasKept_of_not_mem {a m b : List Char} (h : 'Σ' ∉ m) : SigmasKept a m b := by
  rintro x y rfl
  simp at h

/-- A part with no letter next to it keeps its sigmas, for its words are words of the text. -/
lemma sigmasKept_of_not_meetsCased {a m b : List Char} (ha : meetsCased a.reverse = false)
    (hb : meetsCased b = false) : SigmasKept a m b := by
  intro x y _
  rw [endsWord, endsWord, meetsCased_append ha, meetsCased_append hb]

lemma lowercase_append_of_sigmasKept {a b : List Char} (ha : SigmasKept [] a b)
    (hb : SigmasKept a b []) : lowercase (a ++ b) = lowercase a ++ lowercase b := by
  have hsplit := lowercase_append [] a b
  rw [List.nil_append] at hsplit
  have hfront : lowercaseIn [] a b = lowercase a := (lowercaseIn_eq_lowercase_iff.2 ha).symm
  have hback : lowercaseAfter a.reverse b = lowercase b := by
    rw [← lowercaseIn_nil_right, lowercaseIn_eq_lowercase_iff.2 hb]
  simpa [lowercaseIn, hfront, hback] using hsplit

lemma lowercase_star : lowercase ['*'] = ['*'] := by decide +kernel

lemma lowercase_star_cons (m : List Char) : lowercase ('*' :: m) = '*' :: lowercase m := by
  have hsplit : lowercase (['*'] ++ m) = lowercase ['*'] ++ lowercase m :=
    lowercase_append_of_sigmasKept (sigmasKept_of_not_mem (by simp))
      (sigmasKept_of_not_meetsCased (meetsCased_star []) rfl)
  rwa [lowercase_star] at hsplit

lemma lowercase_append_star (m : List Char) : lowercase (m ++ ['*']) = lowercase m ++ ['*'] := by
  have hsplit : lowercase (m ++ ['*']) = lowercase m ++ lowercase ['*'] :=
    lowercase_append_of_sigmasKept (sigmasKept_of_not_meetsCased rfl (meetsCased_star []))
      (sigmasKept_of_not_mem (by simp))
  rwa [lowercase_star] at hsplit

end TextPredicate.Text
