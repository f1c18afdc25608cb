import TextPredicate.Proofs.LowercaseLetters
import TextPredicate.Proofs.StarredLiteral

/-!
Stars added to a literal and taken away. A literal with a star looks for small forms, one without
compares letters. A second star never loses a text that one star matches. A first star loses those
texts that have the letters of the literal in other small forms, as a final sigma has beside a
medial one. Taking all stars away loses no text of the literal's length.
-/
namespace TextPredicate.Condition
open Text
variable {r p : String} {ignoreCase : Bool}

lemma like_within_of_like (hfirst : p.toList.head? ≠ some '*')
    (hlast : p.toList.getLast? ≠ some '*')
    (h : (like (p ++ "*")).holds ignoreCase r = true ∨
      (like ("*" ++ p)).holds ignoreCase r = true) :
    (like ("*" ++ p ++ "*")).holds ignoreCase r = true := by
  rw [like_at_start hfirst, like_at_end hlast] at h
  rw [like_within]
  obtain hstart | hend := h
  · exact hstart.isInfix
  · exact hend.isInfix

lemma like_at_ends_of_lowercase_eq (hfirst : p.toList.head? ≠ some '*')
    (hlast : p.toList.getLast? ≠ some '*') (h : lowercase r.toList = lowercase p.toList) :
    (like (p ++ "*")).holds ignoreCase r = true ∧ (like ("*" ++ p)).holds ignoreCase r = true := by
  rw [like_at_start hfirst, like_at_end hlast, h]
  exact ⟨List.prefix_refl _, List.suffix_refl _⟩

/-- A text that a literal without stars matches is matched with a star at the one end and with one
at the other exactly if it has the literal's small form. It has, if no letter of either has a small
form other than that of its capital. -/
theorem like_add_star (r p : String) (ignoreCase : Bool) (hfirst : p.toList.head? ≠ some '*')
    (hlast : p.toList.getLast? ≠ some '*') :
    ((like (p ++ "*")).holds ignoreCase r = true ∨ (like ("*" ++ p)).holds ignoreCase r = true →
      (like ("*" ++ p ++ "*")).holds ignoreCase r = true) ∧
    ((like p).holds ignoreCase r = true →
      ((like (p ++ "*")).holds ignoreCase r = true ∧
          (like ("*" ++ p)).holds ignoreCase r = true ↔
        lowercase r.toList = lowercase p.toList) ∧
      ('İ' ∉ r.toList →
        ((like (p ++ "*")).holds ignoreCase r = true ↔
          lowercase r.toList = lowercase p.toList) ∧
        ((like ("*" ++ p)).holds ignoreCase r = true ↔
          lowercase r.toList = lowercase p.toList)) ∧
      ((∀ c ∈ r.toList ++ p.toList, Steady c) →
        (like (p ++ "*")).holds ignoreCase r = true ∧
          (like ("*" ++ p)).holds ignoreCase r = true)) := by
  refine ⟨like_within_of_like hfirst hlast, fun hlike => ?_⟩
  rw [like_whole hfirst hlast] at hlike
  have hends : lowercase r.toList = lowercase p.toList →
      (like (p ++ "*")).holds ignoreCase r = true ∧
        (like ("*" ++ p)).holds ignoreCase r = true :=
    like_at_ends_of_lowercase_eq hfirst hlast
  refine ⟨⟨fun hboth => ?_, hends⟩, fun hdotted => ⟨⟨fun hstart => ?_, fun heq => (hends heq).1⟩,
    ⟨fun hend => ?_, fun heq => (hends heq).2⟩⟩, fun hsteady => hends ?_⟩
  · rw [like_at_start hfirst, like_at_end hlast] at hboth
    exact lowercase_eq_of_prefix_of_suffix hlike hboth.1 hboth.2
  · rw [like_at_start hfirst] at hstart
    exact lowercase_eq_of_isInfix (length_eq_of_sameLetters hlike) hdotted hstart.isInfix
  · rw [like_at_end hlast] at hend
    exact lowercase_eq_of_isInfix (length_eq_of_sameLetters hlike) hdotted hend.isInfix
  · rw [List.forall_mem_append] at hsteady
    exact lowercase_eq_of_steady hlike hsteady.1 hsteady.2

/-- The sigma at the end of the word is written as such on both sides. -/
theorem like_add_star_of_capitals :
    (like ("οδος" ++ "*")).holds false "ΟΔΟΣ" = true ∧
      (like ("*" ++ "οδος")).holds false "ΟΔΟΣ" = true :=
  ((like_add_star "ΟΔΟΣ" "οδος" false (by decide) (by decide)).2 (by decide +kernel)).1.2
    (by decide +kernel)

/-- The final and the medial sigma are one letter, but each is its own small form. -/
theorem not_forall_like_add_star : ¬ ∀ (r p : String) (ignoreCase : Bool),
    p.toList.head? ≠ some '*' → p.toList.getLast? ≠ some '*' →
    ((like p).holds ignoreCase r = true →
      (like (p ++ "*")).holds ignoreCase r = true ∧
        (like ("*" ++ p)).holds ignoreCase r = true) ∧
    ((like (p ++ "*")).holds ignoreCase r = true ∨ (like ("*" ++ p)).holds ignoreCase r = true →
      (like ("*" ++ p ++ "*")).holds ignoreCase r = true) := by
  intro h
  have hstart := ((h "ς" "σ" false (by decide) (by decide)).1 (by decide +kernel)).1
  revert hstart
  decide +kernel

/-- In a text of its own length a literal with stars finds nothing but its own letters, wherever the
stars stand. -/
theorem like_drop_star (r p : String) (ignoreCase : Bool) (hlength : r.length = p.length)
    (hr : 'İ' ∉ r.toList) (hp : 'İ' ∉ p.toList) :
    (p.toList.head? ≠ some '*' → p.toList.getLast? ≠ some '*' →
      ((like (p ++ "*")).holds ignoreCase r = true ∨
          (like ("*" ++ p)).holds ignoreCase r = true ∨
          (like ("*" ++ p ++ "*")).holds ignoreCase r = true ↔
        lowercase r.toList = lowercase p.toList) ∧
      ((like (p ++ "*")).holds ignoreCase r = true ∨
          (like ("*" ++ p)).holds ignoreCase r = true ∨
          (like ("*" ++ p ++ "*")).holds ignoreCase r = true →
        (like p).holds ignoreCase r = true ∧
          (Condition.mk .equal p).holds true r = true)) ∧
    (lowercase r.toList = lowercase p.toList → sameLetters r.toList p.toList = true) := by
  have hletters : lowercase r.toList = lowercase p.toList →
      sameLetters r.toList p.toList = true := sameLetters_of_lowercase_eq hr hp
  refine ⟨fun hfirst hlast => ?_, hletters⟩
  have hsmall : (like (p ++ "*")).holds ignoreCase r = true ∨
      (like ("*" ++ p)).holds ignoreCase r = true ∨
      (like ("*" ++ p ++ "*")).holds ignoreCase r = true →
      lowercase r.toList = lowercase p.toList := by
    intro hstarred
    have hwithin : (like ("*" ++ p ++ "*")).holds ignoreCase r = true := by
      obtain hstart | hend | hwithin := hstarred
      · exact like_within_of_like hfirst hlast (.inl hstart)
      · exact like_within_of_like hfirst hlast (.inr hend)
      · exact hwithin
    rw [like_within] at hwithin
    have hlists : r.toList.length = p.toList.length := by
      rw [String.length_toList, String.length_toList, hlength]
    exact lowercase_eq_of_isInfix hlists hr hwithin
  refine ⟨⟨hsmall, fun heq => .inl (like_at_ends_of_lowercase_eq hfirst hlast heq).1⟩,
    fun hstarred => ?_⟩
  have hsame := hletters (hsmall hstarred)
  exact ⟨(like_whole hfirst hlast).trans hsame, hsame⟩

/-- The final sigma of the literal is found in capitals with stars, and so without. -/
theorem like_drop_star_of_capitals :
    (like "οδος").holds false "ΟΔΟΣ" = true ∧ (Condition.mk .equal "οδος").holds true "ΟΔΟΣ" = true :=
  ((like_drop_star "ΟΔΟΣ" "οδος" false (by decide) (by decide) (by decide)).1 (by decide)
    (by decide)).2 (.inr (.inr (by decide +kernel)))

end TextPredicate.Condition
