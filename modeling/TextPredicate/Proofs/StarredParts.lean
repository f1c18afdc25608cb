import TextPredicate.Proofs.LowercaseContext
import TextPredicate.Proofs.StarredLiteral

/-!
Which parts of a text a starred literal finds. A part of the text, starred where the text goes on,
is found where it stands as long as each of its capital sigmas ends a word in the text exactly if it
does in the part alone; nothing else around the part matters. Without a capital sigma and a dotted
capital I a text is lowercased one character at a time, and a literal finds the parts that have its
small letters place by place, anywhere, at the end or at the beginning, as its stars say.
-/
namespace TextPredicate.Condition
open Text
variable {a m b : String} {ignoreCase : Bool}

lemma like_within_own (h : SigmasKept a.toList m.toList b.toList) :
    (like ("*" ++ m ++ "*")).holds ignoreCase (a ++ m ++ b) = true := by
  rw [like_within, String.toList_append, String.toList_append]
  exact lowercase_isInfix h

/-- A part that begins with a star is asked for without it, and is found behind the star. -/
lemma like_at_start_own (h : SigmasKept [] m.toList b.toList) :
    (like (m ++ "*")).holds ignoreCase (m ++ b) = true := by
  have hprefix : lowercase m.toList <+: lowercase (m ++ b).toList := by
    rw [String.toList_append]
    exact lowercase_prefix_iff.2 h
  by_cases hstar : m.toList.head? = some '*'
  · obtain ⟨rest, hm⟩ := List.head?_eq_some_iff.1 hstar
    have hpattern : (m ++ "*").toList = '*' :: (rest ++ ['*']) := by simp [hm]
    rw [holds_like, hpattern, Pattern.holds_both_stars]
    rw [hm, lowercase_star_cons] at hprefix
    exact (List.suffix_cons '*' (lowercase rest)).isInfix.trans hprefix.isInfix
  · rwa [like_at_start hstar]

lemma like_at_end_own (h : SigmasKept a.toList m.toList []) :
    (like ("*" ++ m)).holds ignoreCase (a ++ m) = true := by
  have hsuffix : lowercase m.toList <:+ lowercase (a ++ m).toList := by
    rw [String.toList_append]
    exact lowercase_suffix_iff.2 h
  by_cases hstar : m.toList.getLast? = some '*'
  · obtain ⟨rest, hm⟩ := List.getLast?_eq_some_iff.1 hstar
    have hpattern : ("*" ++ m).toList = '*' :: (rest ++ ['*']) := by simp [hm]
    rw [holds_like, hpattern, Pattern.holds_both_stars]
    rw [hm, lowercase_append_star] at hsuffix
    exact (List.prefix_append (lowercase rest) ['*']).isInfix.trans hsuffix.isInfix
  · rwa [like_at_end hstar]

/-- Behind or before a part that has no star of its own there, the condition on the sigmas is also
needed. It is met by a part without capital sigmas, and by one with no letter next to it. -/
theorem like_own_part (a m b : String) (ignoreCase : Bool) :
    (SigmasKept a.toList m.toList b.toList →
      (like ("*" ++ m ++ "*")).holds ignoreCase (a ++ m ++ b) = true) ∧
    (SigmasKept [] m.toList b.toList → (like (m ++ "*")).holds ignoreCase (m ++ b) = true) ∧
    (SigmasKept a.toList m.toList [] → (like ("*" ++ m)).holds ignoreCase (a ++ m) = true) ∧
    (m.toList.head? ≠ some '*' → (like (m ++ "*")).holds ignoreCase (m ++ b) = true →
      SigmasKept [] m.toList b.toList) ∧
    (m.toList.getLast? ≠ some '*' → (like ("*" ++ m)).holds ignoreCase (a ++ m) = true →
      SigmasKept a.toList m.toList []) ∧
    ('Σ' ∉ m.toList ∨ meetsCased a.toList.reverse = false ∧ meetsCased b.toList = false →
      (like ("*" ++ m ++ "*")).holds ignoreCase (a ++ m ++ b) = true ∧
      (like (m ++ "*")).holds ignoreCase (m ++ b) = true ∧
      (like ("*" ++ m)).holds ignoreCase (a ++ m) = true) := by
  refine ⟨like_within_own, like_at_start_own, like_at_end_own, ?_, ?_, ?_⟩
  · intro hstar hlike
    rw [like_at_start hstar, String.toList_append] at hlike
    exact lowercase_prefix_iff.1 hlike
  · intro hstar hlike
    rw [like_at_end hstar, String.toList_append] at hlike
    exact lowercase_suffix_iff.1 hlike
  · rintro (hsigma | ⟨ha, hb⟩)
    · exact ⟨like_within_own (sigmasKept_of_not_mem hsigma),
        like_at_start_own (sigmasKept_of_not_mem hsigma),
        like_at_end_own (sigmasKept_of_not_mem hsigma)⟩
    · exact ⟨like_within_own (sigmasKept_of_not_meetsCased ha hb),
        like_at_start_own (sigmasKept_of_not_meetsCased rfl hb),
        like_at_end_own (sigmasKept_of_not_meetsCased ha rfl)⟩

/-- A sigma behind a letter ends a word, but alone it ends none. -/
theorem not_forall_like_own_part : ¬ ∀ (a m b : String) (ignoreCase : Bool),
    (like ("*" ++ m ++ "*")).holds ignoreCase (a ++ m ++ b) = true ∧
    (like (m ++ "*")).holds ignoreCase (m ++ b) = true ∧
    (like ("*" ++ m)).holds ignoreCase (a ++ m) = true := by
  intro h
  have hwithin := (h "a" "Σ" "" false).1
  revert hwithin
  decide +kernel

end TextPredicate.Condition

namespace TextPredicate
open Text Unicode

namespace Text
variable {cs ds : List Char}

lemma lowercase_eq_map (hsigma : 'Σ' ∉ cs) (hdotted : 'İ' ∉ cs) : lowercase cs = cs.map lower :=
  lowercaseAfter_eq_map fun _ hc =>
    ⟨ne_of_mem_of_not_mem hc hsigma, lowerForm_of_ne (ne_of_mem_of_not_mem hc hdotted)⟩

def Aligned (cs ds : List Char) : Prop :=
  cs.length = ds.length ∧
    ∀ (i : Nat) (hc : i < cs.length) (hd : i < ds.length), lower cs[i] = lower ds[i]

lemma aligned_iff : Aligned cs ds ↔ ds.map lower = cs.map lower := by
  rw [eq_comm, List.ext_getElem_iff]
  simp only [Aligned, List.length_map, List.getElem_map]

variable {s : String} {P : List Char → Prop}

lemma exists_infix_iff :
    (∃ x, x <:+: s.toList ∧ P x) ↔ ∃ a x b : String, s = a ++ x ++ b ∧ P x.toList := by
  constructor
  · rintro ⟨x, ⟨a, b, h⟩, hx⟩
    refine ⟨.ofList a, .ofList x, .ofList b, ?_, by rwa [String.toList_ofList]⟩
    rw [← String.toList_inj]
    simp [← h]
  · rintro ⟨a, x, b, rfl, hx⟩
    exact ⟨x.toList, ⟨a.toList, b.toList, by simp⟩, hx⟩

lemma exists_suffix_iff :
    (∃ x, x <:+ s.toList ∧ P x) ↔ ∃ a x : String, s = a ++ x ∧ P x.toList := by
  constructor
  · rintro ⟨x, ⟨a, h⟩, hx⟩
    refine ⟨.ofList a, .ofList x, ?_, by rwa [String.toList_ofList]⟩
    rw [← String.toList_inj]
    simp [← h]
  · rintro ⟨a, x, rfl, hx⟩
    exact ⟨x.toList, ⟨a.toList, by simp⟩, hx⟩

lemma exists_prefix_iff :
    (∃ x, x <+: s.toList ∧ P x) ↔ ∃ x b : String, s = x ++ b ∧ P x.toList := by
  constructor
  · rintro ⟨x, ⟨b, h⟩, hx⟩
    refine ⟨.ofList x, .ofList b, ?_, by rwa [String.toList_ofList]⟩
    rw [← String.toList_inj]
    simp [← h]
  · rintro ⟨x, b, rfl, hx⟩
    exact ⟨x.toList, ⟨b.toList, by simp⟩, hx⟩

end Text

namespace Condition

/-- The parts that a literal with stars finds are those with its letters. The stars tell where in
the text they may stand, and all other stars are letters as any. -/
theorem like_iff_aligned (r m : String) (ignoreCase : Bool) (hr : 'Σ' ∉ r.toList ∧ 'İ' ∉ r.toList)
    (hm : 'Σ' ∉ m.toList ∧ 'İ' ∉ m.toList) :
    ((like ("*" ++ m ++ "*")).holds ignoreCase r = true ↔
      ∃ a x b : String, r = a ++ x ++ b ∧ Aligned x.toList m.toList) ∧
    (m.toList.getLast? ≠ some '*' →
      ((like ("*" ++ m)).holds ignoreCase r = true ↔
        ∃ a x : String, r = a ++ x ∧ Aligned x.toList m.toList)) ∧
    (m.toList.head? ≠ some '*' →
      ((like (m ++ "*")).holds ignoreCase r = true ↔
        ∃ x b : String, r = x ++ b ∧ Aligned x.toList m.toList)) := by
  have hsmallR : lowercase r.toList = r.toList.map lower := lowercase_eq_map hr.1 hr.2
  have hsmallM : lowercase m.toList = m.toList.map lower := lowercase_eq_map hm.1 hm.2
  simp only [aligned_iff]
  refine ⟨?_, fun hlast => ?_, fun hfirst => ?_⟩
  · rw [like_within, hsmallR, hsmallM, List.infix_map_iff, exists_infix_iff]
  · rw [like_at_end hlast, hsmallR, hsmallM, List.suffix_map_iff, exists_suffix_iff]
  · rw [like_at_start hfirst, hsmallR, hsmallM, List.prefix_map_iff, exists_prefix_iff]

/-- Letters with accents are aligned with their capitals, and the star inside is a letter. -/
theorem like_iff_aligned_of_accents :
    (like ("*" ++ "é*" ++ "*")).holds false "LIBERTÉ*" = true ∧
      (like ("*" ++ "é")).holds false "LIBERTÉ" = true ∧
      (like ("épée" ++ "*")).holds false "ÉPÉE D'ACIER" = true := by
  refine ⟨?_, ?_, ?_⟩
  · exact (like_iff_aligned "LIBERTÉ*" "é*" false (by decide) (by decide)).1.2
      ⟨"LIBERT", "É*", "", by decide, aligned_iff.2 (by decide +kernel)⟩
  · exact ((like_iff_aligned "LIBERTÉ" "é" false (by decide) (by decide)).2.1 (by decide)).2
      ⟨"LIBERT", "É", by decide, aligned_iff.2 (by decide +kernel)⟩
  · exact ((like_iff_aligned "ÉPÉE D'ACIER" "épée" false (by decide) (by decide)).2.2 (by decide)).2
      ⟨"ÉPÉE", " D'ACIER", by decide, aligned_iff.2 (by decide +kernel)⟩

end Condition
end TextPredicate
