import TextPredicate.Proofs.LowercaseContext
import TextPredicate.Proofs.StarredLiteral

/-!
Texts and literals that are lowercased beforehand. A text in small letters stays as it is, and a
star at the end of a literal is a star of its small form and of no other, so that lowercasing a
literal and taking its stars off can be done in either order. Main statements: every text is matched
by itself as a literal, and a literal with a star matches the same texts whether text and literal
are lowercased before or not.
-/
namespace TextPredicate
open Text Unicode

namespace Text
variable {before after cs : List Char} {c d : Char}

lemma lowerForm_dotted : lowerForm 'İ' = ['i', '\u0307'] := by decide +kernel

lemma lower_of_mem_lowercaseAt (h : d ∈ lowercaseAt before c after) : lower d = d := by
  by_cases hsigma : c = 'Σ'
  · subst hsigma
    rw [lowercaseAt_sigma] at h
    split at h
    · rw [List.mem_singleton.1 h]
      decide +kernel
    · rw [List.mem_singleton.1 h]
      decide +kernel
  · rw [lowercaseAt_of_ne hsigma] at h
    by_cases hdotted : c = 'İ'
    · subst hdotted
      rw [lowerForm_dotted, List.mem_pair] at h
      obtain rfl | rfl := h
      · decide +kernel
      · decide +kernel
    · rw [lowerForm_of_ne hdotted, List.mem_singleton] at h
      rw [h, lower_lower]

lemma lower_of_mem_lowercaseAfter (h : d ∈ lowercaseAfter before cs) : lower d = d := by
  induction cs generalizing before with
  | nil => simp [lowercaseAfter] at h
  | cons c cs ih =>
    rw [lowercaseAfter, List.mem_append] at h
    obtain hhead | hrest := h
    · exact lower_of_mem_lowercaseAt hhead
    · exact ih hrest

/-- The letters that depend on what surrounds them are capitals. -/
lemma lowerForm_of_lower_eq (h : lower c = c) : c ≠ 'Σ' ∧ lowerForm c = [c] := by
  have hsigma : c ≠ 'Σ' := by
    rintro rfl
    revert h
    decide +kernel
  have hdotted : c ≠ 'İ' := by
    rintro rfl
    revert h
    decide +kernel
  exact ⟨hsigma, by rw [lowerForm_of_ne hdotted, h]⟩

lemma lowercaseAfter_eq_self (h : ∀ c ∈ cs, lower c = c) : lowercaseAfter before cs = cs := by
  have hmap : lowercaseAfter before cs = cs.map id :=
    lowercaseAfter_eq_map fun c hc => lowerForm_of_lower_eq (h c hc)
  rwa [List.map_id] at hmap

lemma lowercase_lowercase (cs : List Char) : lowercase (lowercase cs) = lowercase cs :=
  lowercaseAfter_eq_self fun _ => lower_of_mem_lowercaseAfter

lemma eq_star_of_mem_lowercaseAt (h : '*' ∈ lowercaseAt before c after) : c = '*' := by
  by_cases hdotted : c = 'İ'
  · subst hdotted
    rw [lowercaseAt_of_ne (by simp), lowerForm_dotted] at h
    simp at h
  · obtain ⟨small, hsmall, hletter⟩ := exists_lowercaseAt hdotted before after
    obtain rfl : '*' = small := by simpa [hsmall] using h
    have hstar : letter c = '*' := hletter.symm.trans (caseless_star.letter_eq_iff.2 rfl)
    exact caseless_star.letter_eq_iff.1 hstar

lemma lowercase_ne_nil (h : cs ≠ []) : lowercase cs ≠ [] := by
  cases cs with
  | nil => exact absurd rfl h
  | cons c cs => simp [lowercase, lowercaseAfter, lowercaseAt_ne_nil]

lemma eq_star_of_head?_lowercaseAfter (h : (lowercaseAfter before (c :: cs)).head? = some '*') :
    c = '*' := by
  rw [lowercaseAfter, List.head?_append_of_ne_nil _ (lowercaseAt_ne_nil before c cs)] at h
  exact eq_star_of_mem_lowercaseAt (List.mem_of_mem_head? h)

lemma head?_lowercase_ne_star (h : cs.head? ≠ some '*') : (lowercase cs).head? ≠ some '*' := by
  cases cs with
  | nil => simp
  | cons c cs =>
    intro hstar
    have hc : c = '*' := eq_star_of_head?_lowercaseAfter hstar
    exact h (by rw [hc, List.head?_cons])

lemma getLast?_lowercase_ne_star (h : cs.getLast? ≠ some '*') :
    (lowercase cs).getLast? ≠ some '*' := by
  obtain rfl | ⟨front, c, rfl⟩ := cs.eq_nil_or_concat'
  · simp
  · intro hstar
    have hlast : lowercase (front ++ [c]) =
        lowercaseIn [] front [c] ++ lowercaseAt front.reverse c [] := by
      rw [lowercase, lowercaseAfter_append, List.append_nil, lowercaseAfter, lowercaseAfter,
        List.append_nil]
    rw [hlast, List.getLast?_append_of_ne_nil _ (lowercaseAt_ne_nil front.reverse c [])] at hstar
    have hc : c = '*' := eq_star_of_mem_lowercaseAt (List.mem_of_getLast? hstar)
    exact h (by rw [hc, List.getLast?_append_cons, List.getLast?_singleton])

def lowercaseString (s : String) : String := String.ofList (lowercase s.toList)

lemma toList_lowercaseString (s : String) : (lowercaseString s).toList = lowercase s.toList :=
  String.toList_ofList

end Text

namespace Pattern
variable {p : Pattern} {literal : List Char}

lemma holds_self (text : List Char) : (ofLiteral text).holds text = true := by
  have hasks := asks_ofLiteral text
  generalize ofLiteral text = p at hasks ⊢
  cases hasks with
  | starAlone => rfl
  | bothStars m =>
    rw [holds, occursIn_iff, lowercase_star_cons, lowercase_append_star]
    exact ⟨['*'], ['*'], by simp⟩
  | firstStar =>
    rw [holds, decide_eq_true_iff, lowercase_star_cons]
    exact List.suffix_cons _ _
  | lastStar =>
    rw [holds, decide_eq_true_iff, lowercase_append_star]
    exact List.prefix_append _ _
  | noStar => rw [holds, sameLetters_iff]

/-- The pattern that asks for the small form of what it asks for. -/
def lowercased : Pattern → Pattern
  | anything => anything
  | contains part => contains (lowercase part)
  | endsWith part => endsWith (lowercase part)
  | startsWith part => startsWith (lowercase part)
  | exactly whole => exactly (lowercase whole)

lemma Asks.lowercased (h : Asks literal p) : Asks (lowercase literal) p.lowercased := by
  cases h with
  | starAlone =>
    rw [lowercase_star]
    exact .starAlone
  | bothStars m =>
    rw [lowercase_star_cons, lowercase_append_star]
    exact .bothStars (lowercase m)
  | firstStar hm h =>
    rw [lowercase_star_cons]
    exact .firstStar (lowercase_ne_nil hm) (getLast?_lowercase_ne_star h)
  | lastStar hm h =>
    rw [lowercase_append_star]
    exact .lastStar (lowercase_ne_nil hm) (head?_lowercase_ne_star h)
  | noStar hfirst hlast =>
    exact .noStar (head?_lowercase_ne_star hfirst) (getLast?_lowercase_ne_star hlast)

lemma ofLiteral_lowercase (literal : List Char) :
    ofLiteral (lowercase literal) = (ofLiteral literal).lowercased :=
  asks_iff.1 (asks_ofLiteral literal).lowercased

/-- With a star, nothing but small forms is looked at. -/
lemma holds_lowercased (h : ∀ whole, p ≠ exactly whole) (text : List Char) :
    p.lowercased.holds text = p.holds text ∧ p.holds (lowercase text) = p.holds text := by
  cases p with
  | anything => exact ⟨rfl, rfl⟩
  | contains part | endsWith part | startsWith part =>
    simp only [lowercased, holds, lowercase_lowercase, and_self]
  | exactly whole => exact absurd rfl (h whole)

lemma ofLiteral_ne_exactly (h : literal.head? = some '*' ∨ literal.getLast? = some '*')
    (whole : List Char) : ofLiteral literal ≠ exactly whole := by
  intro hexact
  cases asks_iff.2 hexact with
  | noStar hfirst hlast => exact h.elim hfirst hlast

end Pattern

namespace Condition

/-- The stars are read off the literal, but the text keeps them and is lowercased with them. -/
theorem like_self (s : String) (ignoreCase : Bool) : (like s).holds ignoreCase s = true := by
  rw [holds_like]
  exact Pattern.holds_self s.toList

/-- Lowercasing the text or a literal with a star changes nothing, for it is done anyway, and behind
the star that is taken off it does the same as before. -/
theorem like_lowercased (r l : String) (ignoreCase : Bool) :
    (l.toList.head? = some '*' ∨ l.toList.getLast? = some '*' →
      (like l).holds ignoreCase (lowercaseString r) = (like l).holds ignoreCase r ∧
      (like (lowercaseString l)).holds ignoreCase r = (like l).holds ignoreCase r ∧
      (like (lowercaseString l)).holds ignoreCase (lowercaseString r) =
        (like l).holds ignoreCase r) ∧
    Pattern.ofLiteral (lowercaseString l).toList = (Pattern.ofLiteral l.toList).lowercased ∧
    lowercaseString (lowercaseString r) = lowercaseString r := by
  refine ⟨fun hstar => ?_, ?_, ?_⟩
  · have hsmall := Pattern.holds_lowercased (Pattern.ofLiteral_ne_exactly hstar)
    refine ⟨?_, ?_, ?_⟩
    · rw [holds_like, holds_like, toList_lowercaseString, (hsmall _).2]
    · rw [holds_like, holds_like, toList_lowercaseString, Pattern.ofLiteral_lowercase,
        (hsmall _).1]
    · rw [holds_like, holds_like, toList_lowercaseString, toList_lowercaseString,
        Pattern.ofLiteral_lowercase, (hsmall _).1, (hsmall _).2]
  · rw [toList_lowercaseString, Pattern.ofLiteral_lowercase]
  · rw [lowercaseString, toList_lowercaseString, lowercase_lowercase, lowercaseString]

/-- The sigma ends the word in the literal, behind the star, as it does in the text. -/
theorem like_lowercased_of_capitals :
    (like (lowercaseString "*ΟΔΟΣ")).holds false (lowercaseString "İ ΟΔΟΣ") = true :=
  ((like_lowercased "İ ΟΔΟΣ" "*ΟΔΟΣ" false).1 (by decide)).2.2.trans (by decide +kernel)

end Condition
end TextPredicate
