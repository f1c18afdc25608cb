import Mathlib.Data.List.Forall2
import TextPredicate.Condition
import TextPredicate.Proofs.LetterCase

/-!
Equality of texts that ignores case. Of a character nothing counts but the small form of its
capital, and a capital or a small form has the same. Main statements: the equality is an equivalence
that compares place by place, so that it can be checked part by part, and it does not change when
any letters of either text are written as capitals or small.
-/
namespace TextPredicate
open Text Unicode

namespace Text
variable {c d : Char} {cs ds : List Char}

def Recased (cs ds : List Char) : Prop :=
  List.Forall₂ (fun c d => d = c ∨ d = upper c ∨ d = lower c) cs ds

instance (cs ds : List Char) : Decidable (Recased cs ds) :=
  inferInstanceAs (Decidable (List.Forall₂ _ cs ds))

lemma letter_of_recased (h : d = c ∨ d = upper c ∨ d = lower c) : letter d = letter c := by
  obtain h | h | h := h
  · rw [h]
  · rw [h, letter_upper]
  · rw [h, letter_lower]

lemma map_letter_of_recased (h : Recased cs ds) : ds.map letter = cs.map letter := by
  induction h with
  | nil => rfl
  | cons hletter _ ih => rw [List.map_cons, List.map_cons, letter_of_recased hletter, ih]

end Text

namespace Condition
variable {a b : String}

lemma equal_iff_map : (Condition.mk .equal b).holds true a = true ↔
    a.toList.map letter = b.toList.map letter :=
  sameLetters_iff

lemma notEqual_eq_not (ignoreCase : Bool) : (Condition.mk .notEqual b).holds ignoreCase a =
    !(Condition.mk .equal b).holds ignoreCase a := rfl

lemma equal_iff_letters : (Condition.mk .equal b).holds true a = true ↔
    a.length = b.length ∧
      ∀ (i : Nat) (ha : i < a.toList.length) (hb : i < b.toList.length),
        letter a.toList[i] = letter b.toList[i] := by
  rw [equal_iff_map, List.ext_getElem_iff]
  simp only [List.length_map, List.getElem_map, String.length_toList]

lemma equal_equivalence :
    Equivalence fun a b : String => (Condition.mk .equal b).holds true a = true := by
  simp only [equal_iff_map]
  exact ⟨fun _ => rfl, Eq.symm, Eq.trans⟩

lemma equal_append_iff {a b c d : String} (h : a.length = c.length) :
    (Condition.mk .equal (c ++ d)).holds true (a ++ b) = true ↔
      (Condition.mk .equal c).holds true a = true ∧
        (Condition.mk .equal d).holds true b = true := by
  simp only [equal_iff_map, String.toList_append, List.map_append]
  constructor
  · intro hboth
    exact List.append_inj hboth (by simpa only [List.length_map, String.length_toList] using h)
  · rintro ⟨hfront, hback⟩
    rw [hfront, hback]

/-- Two texts are equal but for case exactly if they have the same letters in the same places. So
what stands around a part never matters to it, and texts that are equal as they are stay equal. -/
theorem equal_ignoring_case (a b c d : String) :
    ((Condition.mk .equal b).holds true a = true ↔
      a.length = b.length ∧
        ∀ (i : Nat) (ha : i < a.toList.length) (hb : i < b.toList.length),
          lower (upper a.toList[i]) = lower (upper b.toList[i])) ∧
    (Equivalence fun a b : String => (Condition.mk .equal b).holds true a = true) ∧
    ((Condition.mk .equal b).holds false a = true → (Condition.mk .equal b).holds true a = true) ∧
    (a.length = c.length →
      ((Condition.mk .equal (c ++ d)).holds true (a ++ b) = true ↔
        (Condition.mk .equal c).holds true a = true ∧
          (Condition.mk .equal d).holds true b = true)) ∧
    (Condition.mk .notEqual b).holds true a = !(Condition.mk .equal b).holds true a := by
  refine ⟨equal_iff_letters, equal_equivalence, fun hexact => ?_, equal_append_iff,
    notEqual_eq_not true⟩
  obtain rfl : a = b := beq_iff_eq.1 hexact
  exact equal_equivalence.refl a

/-- Where a word ends changes how its sigma is written small, but not which letter it is. -/
theorem equal_ignoring_case_of_parts :
    "ΟΔΟΣ".length = "οδος".length ∧
      (Condition.mk .equal ("οδος" ++ "S")).holds true ("ΟΔΟΣ" ++ "ſ") = true :=
  ⟨by decide, ((equal_ignoring_case "ΟΔΟΣ" "ſ" "οδος" "S").2.2.2.1 (by decide)).2
    ⟨by decide +kernel, by decide +kernel⟩⟩

/-- Capitals and small letters may be exchanged in both texts, at any places and at each for itself.
-/
theorem equal_recased (a b a' b' : String) (ha : Recased a.toList a'.toList)
    (hb : Recased b.toList b'.toList) :
    (Condition.mk .equal b').holds true a' = (Condition.mk .equal b).holds true a ∧
      (Condition.mk .notEqual b').holds true a' = (Condition.mk .notEqual b).holds true a := by
  have hequal : (Condition.mk .equal b').holds true a' = (Condition.mk .equal b).holds true a := by
    rw [Bool.eq_iff_iff, equal_iff_map, equal_iff_map, map_letter_of_recased ha,
      map_letter_of_recased hb]
  exact ⟨hequal, by rw [notEqual_eq_not, notEqual_eq_not, hequal]⟩

/-- A long s has the capital of another letter, a sharp s has no capital of one character, and a
titlecase letter is neither a capital nor small. -/
theorem equal_recased_of_letters :
    (Condition.mk .equal "StraßE Ǆ").holds true "STRAßE Ǆ" =
        (Condition.mk .equal "straße ǆ").holds true "ſtraße ǅ" ∧
      (Condition.mk .notEqual "StraßE Ǆ").holds true "STRAßE Ǆ" =
        (Condition.mk .notEqual "straße ǆ").holds true "ſtraße ǅ" :=
  equal_recased "ſtraße ǅ" "straße ǆ" "STRAßE Ǆ" "StraßE Ǆ" (by decide +kernel) (by decide +kernel)

end Condition
end TextPredicate
