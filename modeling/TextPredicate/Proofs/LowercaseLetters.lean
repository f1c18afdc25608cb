import Mathlib.Data.List.Infix
import TextPredicate.Proofs.LetterCase

/-!
Equality of small forms against equality letter by letter. Where no character has a small form of
two characters, equal small forms mean equal letters. Equal letters mean equal small forms where
every letter has the small form of its capital. Where some have not, the small form of a text with
the letters of another both begins and ends with the other's only if the two are equal.
-/
namespace TextPredicate.Text
open Unicode
variable {before cs ds : List Char}

lemma length_eq_of_sameLetters (h : sameLetters cs ds = true) : cs.length = ds.length := by
  simpa using congrArg List.length (sameLetters_iff.1 h)

lemma length_lowercase (h : 'İ' ∉ cs) : (lowercase cs).length = cs.length := by
  simpa using congrArg List.length (map_letter_lowercase h)

lemma length_le_length_lowercaseAfter : cs.length ≤ (lowercaseAfter before cs).length := by
  induction cs generalizing before with
  | nil => exact Nat.zero_le _
  | cons c cs ih =>
    have hhead := List.length_pos_iff.2 (lowercaseAt_ne_nil before c cs)
    have hrest : cs.length ≤ (lowercaseAfter (c :: before) cs).length := ih
    rw [lowercaseAfter, List.length_append, List.length_cons]
    omega

/-- Between texts of one length there is no room around the small form. -/
lemma lowercase_eq_of_isInfix (hlength : cs.length = ds.length) (hcs : 'İ' ∉ cs)
    (h : lowercase ds <:+: lowercase cs) : lowercase cs = lowercase ds := by
  have hle : (lowercase cs).length ≤ (lowercase ds).length :=
    calc (lowercase cs).length = ds.length := by rw [length_lowercase hcs, hlength]
      _ ≤ (lowercase ds).length := length_le_length_lowercaseAfter
  exact (h.eq_of_length_le hle).symm

lemma sameLetters_of_lowercase_eq (hcs : 'İ' ∉ cs) (hds : 'İ' ∉ ds)
    (h : lowercase cs = lowercase ds) : sameLetters cs ds = true := by
  rw [sameLetters_iff]
  calc cs.map letter = (lowercase cs).map letter := (map_letter_lowercase hcs).symm
    _ = (lowercase ds).map letter := by rw [h]
    _ = ds.map letter := map_letter_lowercase hds

def Steady (c : Char) : Prop := c ≠ 'Σ' ∧ lowerForm c = [lower (upper c)]

lemma lowercase_eq_of_steady (h : sameLetters cs ds = true) (hcs : ∀ c ∈ cs, Steady c)
    (hds : ∀ d ∈ ds, Steady d) : lowercase cs = lowercase ds :=
  calc lowercase cs = cs.map letter := lowercaseAfter_eq_map hcs
    _ = ds.map letter := sameLetters_iff.1 h
    _ = lowercase ds := (lowercaseAfter_eq_map hds).symm

-- Letters that are their own small form, but not that of their capital.
example : ['ς', 'ſ', 'µ', 'ı'].map (fun c => (lower c, lower (upper c))) =
    [('ς', 'σ'), ('ſ', 's'), ('µ', 'μ'), ('ı', 'i')] := by decide +kernel

/-- How many characters are not the dot above. A small form has as many as its text. -/
def undotted (cs : List Char) : Nat := cs.countP (· ≠ '\u0307')

lemma undotted_append (cs ds : List Char) : undotted (cs ++ ds) = undotted cs + undotted ds :=
  List.countP_append

lemma undotted_eq_zero : undotted cs = 0 ↔ ∀ c ∈ cs, c = '\u0307' := by
  simp [undotted]

lemma undotted_map_letter (cs : List Char) : undotted (cs.map letter) = undotted cs := by
  rw [undotted, undotted, List.countP_map]
  refine List.countP_congr fun c _ => ?_
  simp [caseless_dot.letter_eq_iff]

lemma undotted_eq_of_sameLetters (h : sameLetters cs ds = true) : undotted cs = undotted ds := by
  rw [← undotted_map_letter, sameLetters_iff.1 h, undotted_map_letter]

lemma undotted_lowercaseAt (before after : List Char) (c : Char) :
    undotted (lowercaseAt before c after) = undotted [c] := by
  by_cases hc : c = 'İ'
  · subst hc
    rw [lowercaseAt_of_ne (by simp)]
    decide +kernel
  · obtain ⟨small, hsmall, hletter⟩ := exists_lowercaseAt hc before after
    rw [hsmall, ← undotted_map_letter, ← undotted_map_letter [c], List.map_singleton,
      List.map_singleton, hletter]

lemma undotted_lowercaseAfter : undotted (lowercaseAfter before cs) = undotted cs := by
  induction cs generalizing before with
  | nil => rfl
  | cons c cs ih =>
    calc undotted (lowercaseAfter before (c :: cs))
        = undotted (lowercaseAt before c cs) + undotted (lowercaseAfter (c :: before) cs) :=
          undotted_append _ _
      _ = undotted [c] + undotted cs := by rw [undotted_lowercaseAt, ih]
      _ = undotted (c :: cs) := (undotted_append [c] cs).symm

lemma undotted_lowercase (cs : List Char) : undotted (lowercase cs) = undotted cs :=
  undotted_lowercaseAfter

/-- A text that can be moved over a row of one character is made of that character. -/
lemma eq_of_append_replicate {xs : List Char} {d : Char} {k : Nat}
    (h : xs ++ List.replicate (k + 1) d = List.replicate (k + 1) d ++ xs) : ∀ x ∈ xs, x = d := by
  induction xs with
  | nil => simp
  | cons x xs ih =>
    obtain ⟨rfl, hrest⟩ : x = d ∧ xs ++ List.replicate (k + 1) d = List.replicate k d ++ x :: xs := by
      simpa [List.replicate_succ] using h
    have hmove : List.replicate k x ++ x :: xs = List.replicate (k + 1) x ++ xs := by
      simp [List.replicate_succ']
    exact List.forall_mem_cons.2 ⟨rfl, ih (hrest.trans hmove)⟩

/-- What stands in the small form of the first text beyond that of the second can only be dots, at
either end: the second would then be made of dots, and so would the first. -/
lemma lowercase_eq_of_prefix_of_suffix (h : sameLetters cs ds = true)
    (hstart : lowercase ds <+: lowercase cs) (hend : lowercase ds <:+ lowercase cs) :
    lowercase cs = lowercase ds := by
  obtain ⟨after, hafter⟩ := hstart
  obtain ⟨front, hfront⟩ := hend
  have hcount : undotted (lowercase cs) = undotted (lowercase ds) := by
    rw [undotted_lowercase, undotted_lowercase, undotted_eq_of_sameLetters h]
  have hafterDots : ∀ c ∈ after, c = '\u0307' := by
    rw [← undotted_eq_zero]
    rw [← hafter, undotted_append] at hcount
    omega
  have hfrontDots : ∀ c ∈ front, c = '\u0307' := by
    rw [← undotted_eq_zero]
    rw [← hfront, undotted_append] at hcount
    omega
  have hlength : front.length = after.length := by
    have hboth := congrArg List.length (hfront.trans hafter.symm)
    rw [List.length_append, List.length_append] at hboth
    omega
  cases hk : after.length with
  | zero => rw [← hafter, List.length_eq_zero_iff.1 hk, List.append_nil]
  | succ k =>
    -- dots that can stand on either side of a text without changing it leave no room for a letter
    rw [List.eq_replicate_of_mem hafterDots, hk] at hafter
    rw [List.eq_replicate_of_mem hfrontDots, hlength, hk] at hfront
    have hds : ∀ d ∈ ds, d = '\u0307' := by
      rw [← undotted_eq_zero, ← undotted_lowercase, undotted_eq_zero]
      exact eq_of_append_replicate (hafter.trans hfront.symm)
    have hcs : ∀ c ∈ cs, c = '\u0307' := by
      rw [← undotted_eq_zero, undotted_eq_of_sameLetters h, undotted_eq_zero]
      exact hds
    rw [List.eq_replicate_of_mem hcs, List.eq_replicate_of_mem hds, length_eq_of_sameLetters h]

end TextPredicate.Text
