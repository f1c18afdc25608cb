import Mathlib.Data.List.Infix
import Mathlib.Tactic.Lemma
import TextPredicate.Condition

/-!
What a literal asks for, by the stars at its ends (`Asks`). The lemmas say it first of the
characters of a literal and then of conditions. An empty part between or beside stars is found in
every text.
-/
namespace TextPredicate
open Text

namespace Pattern
variable {m text : List Char}

lemma ofLiteral_both_stars (m : List Char) : ofLiteral ('*' :: (m ++ ['*'])) = contains m := by
  have hlast : ('*' :: (m ++ ['*'])).getLast? = some '*' :=
    List.getLast?_append_cons ('*' :: m) '*' []
  simp [ofLiteral, hlast]

lemma ofLiteral_last_star (hm : m ≠ []) (h : m.head? ≠ some '*') :
    ofLiteral (m ++ ['*']) = startsWith m := by
  have hfirst : (m ++ ['*']).head? = m.head? := List.head?_append_of_ne_nil m hm
  simp [ofLiteral, hm, hfirst, h, -List.head?_append]

lemma ofLiteral_first_star (hm : m ≠ []) (h : m.getLast? ≠ some '*') :
    ofLiteral ('*' :: m) = endsWith m := by
  have hlast : ('*' :: m).getLast? = m.getLast? := by
    cases m with
    | nil => exact absurd rfl hm
    | cons c m => exact List.getLast?_cons_cons
  simp [ofLiteral, hm, hlast, h]

lemma ofLiteral_no_star (hfirst : m.head? ≠ some '*') (hlast : m.getLast? ≠ some '*') :
    ofLiteral m = exactly m := by
  have hm : m ≠ ['*'] := by
    rintro rfl
    exact hfirst rfl
  simp [ofLiteral, hm, hfirst, hlast]

/-- What a literal asks for, one rule for each way in which stars stand at its ends. -/
inductive Asks : List Char → Pattern → Prop where
  | starAlone : Asks ['*'] anything
  | bothStars (m : List Char) : Asks ('*' :: (m ++ ['*'])) (contains m)
  | firstStar {m : List Char} (hm : m ≠ []) (h : m.getLast? ≠ some '*') :
    Asks ('*' :: m) (endsWith m)
  | lastStar {m : List Char} (hm : m ≠ []) (h : m.head? ≠ some '*') :
    Asks (m ++ ['*']) (startsWith m)
  | noStar {m : List Char} (hfirst : m.head? ≠ some '*') (hlast : m.getLast? ≠ some '*') :
    Asks m (exactly m)

lemma asks_ofLiteral (literal : List Char) : Asks literal (ofLiteral literal) := by
  by_cases halone : literal = ['*']
  · subst halone
    exact .starAlone
  · by_cases hfirst : literal.head? = some '*'
    · obtain ⟨m, rfl⟩ := List.head?_eq_some_iff.1 hfirst
      have hm : m ≠ [] := fun h => halone (by rw [h])
      by_cases hlast : m.getLast? = some '*'
      · obtain ⟨m, rfl⟩ := List.getLast?_eq_some_iff.1 hlast
        rw [ofLiteral_both_stars]
        exact .bothStars m
      · rw [ofLiteral_first_star hm hlast]
        exact .firstStar hm hlast
    · by_cases hlast : literal.getLast? = some '*'
      · obtain ⟨m, rfl⟩ := List.getLast?_eq_some_iff.1 hlast
        have hm : m ≠ [] := fun h => halone (by rw [h, List.nil_append])
        rw [List.head?_append_of_ne_nil m hm] at hfirst
        rw [ofLiteral_last_star hm hfirst]
        exact .lastStar hm hfirst
      · rw [ofLiteral_no_star hfirst hlast]
        exact .noStar hfirst hlast

lemma asks_iff {literal : List Char} {p : Pattern} : Asks literal p ↔ ofLiteral literal = p := by
  constructor
  · intro h
    cases h with
    | starAlone => rfl
    | bothStars m => exact ofLiteral_both_stars m
    | firstStar hm h => exact ofLiteral_first_star hm h
    | lastStar hm h => exact ofLiteral_last_star hm h
    | noStar hfirst hlast => exact ofLiteral_no_star hfirst hlast
  · rintro rfl
    exact asks_ofLiteral literal

lemma holds_both_stars :
    (ofLiteral ('*' :: (m ++ ['*']))).holds text = true ↔ lowercase m <:+: lowercase text := by
  rw [ofLiteral_both_stars, holds, occursIn_iff]

lemma holds_last_star (h : m.head? ≠ some '*') :
    (ofLiteral (m ++ ['*'])).holds text = true ↔ lowercase m <+: lowercase text := by
  by_cases hm : m = []
  · subst hm
    simp [ofLiteral, holds]
  · rw [ofLiteral_last_star hm h, holds, decide_eq_true_iff]

lemma holds_first_star (h : m.getLast? ≠ some '*') :
    (ofLiteral ('*' :: m)).holds text = true ↔ lowercase m <:+ lowercase text := by
  by_cases hm : m = []
  · subst hm
    simp [ofLiteral, holds]
  · rw [ofLiteral_first_star hm h, holds, decide_eq_true_iff]

lemma holds_no_star (hfirst : m.head? ≠ some '*') (hlast : m.getLast? ≠ some '*') :
    (ofLiteral m).holds text = sameLetters text m := by
  rw [ofLiteral_no_star hfirst hlast, holds]

end Pattern

namespace Condition
variable {p r : String} {ignoreCase : Bool}

def like (literal : String) : Condition := ⟨.approximatelyEqual, literal⟩

lemma holds_like (literal received : String) :
    (like literal).holds ignoreCase received =
      (Pattern.ofLiteral literal.toList).holds received.toList := rfl

lemma like_within : (like ("*" ++ p ++ "*")).holds ignoreCase r = true ↔
    lowercase p.toList <:+: lowercase r.toList := by
  rw [holds_like, ← Pattern.holds_both_stars]
  simp

lemma like_at_start (h : p.toList.head? ≠ some '*') :
    (like (p ++ "*")).holds ignoreCase r = true ↔ lowercase p.toList <+: lowercase r.toList := by
  rw [holds_like, ← Pattern.holds_last_star h]
  simp

lemma like_at_end (h : p.toList.getLast? ≠ some '*') :
    (like ("*" ++ p)).holds ignoreCase r = true ↔ lowercase p.toList <:+ lowercase r.toList := by
  rw [holds_like, ← Pattern.holds_first_star h]
  simp

lemma like_whole (hfirst : p.toList.head? ≠ some '*') (hlast : p.toList.getLast? ≠ some '*') :
    (like p).holds ignoreCase r = sameLetters r.toList p.toList := by
  rw [holds_like, Pattern.holds_no_star hfirst hlast]

end Condition
end TextPredicate
