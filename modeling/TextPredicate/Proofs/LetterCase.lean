import Mathlib.Tactic.Lemma
import TextPredicate.Text

/-!
Letters up to case. A character is known up to case by the small form of its capital, its `letter`,
and its capital and its small form are the same letter. Two texts are the same letters if they have
one image under `letter`, and lowercasing a text keeps the image. Only a dotted capital I has a
small form of two characters, of which the second, a dot above, is a letter by itself and by no
change of case.
-/
namespace TextPredicate.Text
open Unicode

/-- The letter that a character is, in whatever case it is written. -/
def letter (c : Char) : Char := lower (upper c)

lemma sameLetter_iff {a b : Char} : sameLetter a b = true ↔ letter a = letter b := by
  simp only [sameLetter, letter, Bool.or_eq_true, beq_iff_eq]
  constructor
  · rintro ((rfl | hupper) | hlower)
    · rfl
    · rw [hupper]
    · exact hlower
  · exact .inr

lemma sameLetters_iff {cs ds : List Char} :
    sameLetters cs ds = true ↔ cs.map letter = ds.map letter := by
  induction cs generalizing ds with
  | nil =>
    cases ds with
    | nil => simp [sameLetters_nil]
    | cons d ds => simp [sameLetters]
  | cons c cs ih =>
    cases ds with
    | nil => simp [sameLetters]
    | cons d ds =>
      rw [sameLetters_cons, Bool.and_eq_true, sameLetter_iff, ih]
      simp

/-- The small form of a letter has the same capital, or one whose small form is the same: a few
letters share a small form, and some small forms have no capital that is one character. -/
lemma upper_lower_of_mem_codes : ∀ r ∈ lowercaseRuns, ∀ n ∈ r.codes,
    upper (lower (Char.ofNat n)) = upper (Char.ofNat n) ∨
      lower (upper (lower (Char.ofNat n))) = lower (upper (Char.ofNat n)) := by
  decide +kernel

lemma letter_lower (c : Char) : letter (lower c) = letter c := by
  by_cases hc : lower c = c
  · rw [hc]
  · obtain ⟨r, hr, hcovers, -⟩ := CaseTree.exists_run_of_map_ne hc
    rw [lowercaseTree, CaseTree.toList_ofRuns] at hr
    have hcode := upper_lower_of_mem_codes r hr c.toNat (CaseRun.mem_codes hcovers)
    rw [Char.ofNat_toNat] at hcode
    rw [letter, letter]
    obtain hupper | hletter := hcode
    · rw [hupper]
    · exact hletter

lemma toNat_ofNat_or (n : Nat) : (Char.ofNat n).toNat = n ∨ (Char.ofNat n).toNat = 0 := by
  by_cases h : n.isValidChar
  · left
    rw [Char.ofNat, dif_pos h]
    rfl
  · right
    rw [Char.ofNat, dif_neg h]
    rfl

/-- A character outside the images of all runs comes from no other. -/
lemma eq_of_map_eq {t : CaseTree} {c d : Char} (hzero : d.toNat ≠ 0)
    (himages : ∀ r ∈ t.toList, d.toNat < r.target ∨ r.target + (r.last - r.first) < d.toNat)
    (hmap : t.map c = d) : c = d := by
  by_cases hc : t.map c = c
  · exact hc.symm.trans hmap
  · obtain ⟨r, hr, ⟨hfirst, hlast, -⟩, himage⟩ := CaseTree.exists_run_of_map_ne hc
    have hcode : (Char.ofNat (r.image c.toNat)).toNat = d.toNat := by rw [← himage, hmap]
    have houtside := himages r hr
    rw [CaseRun.image] at hcode
    obtain hvalid | hzero' := toNat_ofNat_or (r.target + (c.toNat - r.first))
    · omega
    · omega

/-- Where no run starts from an image of another, moving twice is moving once. -/
lemma map_map_of_images {t : CaseTree} (hzero : t.find? 0 = none)
    (himages : ∀ r ∈ t.toList, ∀ n ∈ r.codes, t.find? (r.image n) = none) (c : Char) :
    t.map (t.map c) = t.map c := by
  by_cases hc : t.map c = c
  · exact congrArg t.map hc
  · obtain ⟨r, hr, hcovers, himage⟩ := CaseTree.exists_run_of_map_ne hc
    have hcode : t.find? (r.image c.toNat) = none :=
      himages r hr c.toNat (CaseRun.mem_codes hcovers)
    have hnone : t.find? (t.map c).toNat = none := by
      rw [himage]
      obtain hvalid | hzero' := toNat_ofNat_or (r.image c.toNat)
      · rwa [hvalid]
      · rwa [hzero']
    rw [CaseTree.map, hnone]

lemma lower_lower (c : Char) : lower (lower c) = lower c :=
  map_map_of_images (by decide +kernel)
    (by rw [lowercaseTree, CaseTree.toList_ofRuns]; decide +kernel) c

lemma upper_upper (c : Char) : upper (upper c) = upper c :=
  map_map_of_images (by decide +kernel)
    (by rw [uppercaseTree, CaseTree.toList_ofRuns]; decide +kernel) c

lemma letter_upper (c : Char) : letter (upper c) = letter c := congrArg lower (upper_upper c)

/-- No change of case leads away from the character or to it. -/
def Caseless (d : Char) : Prop :=
  d.toNat ≠ 0 ∧ letter d = d ∧ ∀ r ∈ lowercaseRuns ++ uppercaseRuns,
    d.toNat < r.target ∨ r.target + (r.last - r.first) < d.toNat

instance (d : Char) : Decidable (Caseless d) := inferInstanceAs (Decidable (_ ∧ _))

lemma caseless_dot : Caseless '\u0307' := by decide +kernel

lemma caseless_star : Caseless '*' := by decide +kernel

lemma Caseless.letter_eq_iff {c d : Char} (h : Caseless d) : letter c = d ↔ c = d := by
  obtain ⟨hzero, hself, houtside⟩ := h
  constructor
  · intro hletter
    rw [letter] at hletter
    have hupper : upper c = d := by
      refine eq_of_map_eq hzero (fun r hr => houtside r (List.mem_append_left _ ?_)) hletter
      rwa [lowercaseTree, CaseTree.toList_ofRuns] at hr
    refine eq_of_map_eq hzero (fun r hr => houtside r (List.mem_append_right _ ?_)) hupper
    rwa [uppercaseTree, CaseTree.toList_ofRuns] at hr
  · rintro rfl
    exact hself

lemma lowerForm_of_ne {c : Char} (h : c ≠ 'İ') : lowerForm c = [lower c] := if_neg h

lemma exists_lowercaseAt {c : Char} (h : c ≠ 'İ') (before after : List Char) :
    ∃ small, lowercaseAt before c after = [small] ∧ letter small = letter c := by
  by_cases hc : c = 'Σ'
  · subst hc
    rw [lowercaseAt, if_pos rfl]
    split
    · exact ⟨'ς', rfl, by decide +kernel⟩
    · exact ⟨'σ', rfl, by decide +kernel⟩
  · refine ⟨lower c, ?_, letter_lower c⟩
    rw [lowercaseAt_of_ne hc, lowerForm_of_ne h]

lemma map_letter_lowercaseAfter {before cs : List Char} (h : 'İ' ∉ cs) :
    (lowercaseAfter before cs).map letter = cs.map letter := by
  induction cs generalizing before with
  | nil => rfl
  | cons c cs ih =>
    rw [List.mem_cons, not_or] at h
    obtain ⟨small, hsmall, hletter⟩ := exists_lowercaseAt (Ne.symm h.1) before cs
    rw [lowercaseAfter, hsmall, List.map_append, ih h.2, List.map_singleton, hletter,
      List.map_cons, List.singleton_append]

lemma map_letter_lowercase {cs : List Char} (h : 'İ' ∉ cs) :
    (lowercase cs).map letter = cs.map letter :=
  map_letter_lowercaseAfter h

lemma lowercaseAfter_eq_map {before cs : List Char} {f : Char → Char}
    (h : ∀ c ∈ cs, c ≠ 'Σ' ∧ lowerForm c = [f c]) : lowercaseAfter before cs = cs.map f := by
  induction cs generalizing before with
  | nil => rfl
  | cons c cs ih =>
    rw [List.forall_mem_cons] at h
    have hhead : lowercaseAt before c cs = [f c] := by rw [lowercaseAt_of_ne h.1.1, h.1.2]
    rw [lowercaseAfter, hhead, ih h.2]
    rfl

end TextPredicate.Text
