import TextPredicate.Proofs.StarredLiteral

/-!
Cutting the stars off a literal by byte offsets. A star is one byte, but a character beside it may
be several, and a slice of a text may begin and end only between characters. Main statement:
whatever the literal, every slice that is asked for may be taken, and is the literal without those
stars; so evaluation in bytes always comes to an answer, and to the same one.
-/
namespace TextPredicate

namespace Text
variable {s before part after : String} {lo hi : Nat}

lemma sliceable_append (before part after : String) :
    Sliceable (before ++ part ++ after) before.utf8ByteSize
      (before.utf8ByteSize + part.utf8ByteSize) where
  ordered := Nat.le_add_right _ _
  within := by
    rw [String.utf8ByteSize_append, String.utf8ByteSize_append]
    exact Nat.le_add_right _ _
  first := String.Pos.Raw.isValid_iff_exists_append.2
    ⟨before, part ++ after, String.append_assoc, rfl⟩
  last := by
    refine String.Pos.Raw.isValid_iff_exists_append.2 ⟨before ++ part, after, rfl, ?_⟩
    rw [← String.utf8ByteSize_append]
    rfl

/-- A bare star has no slice between its first star and its last one. -/
example : Sliceable "*ä*" 1 3 ∧ ¬ Sliceable "*ä*" 1 2 ∧ ¬ Sliceable "*" 1 0 := by decide

lemma toByteArray_of_slice? (h : slice? s lo hi = some part) :
    part.toByteArray = s.toByteArray.extract lo hi := by
  unfold slice? at h
  split at h
  · obtain rfl := Option.some.inj h
    rfl
  · exact absurd h (by simp)

lemma extract_between (a b c : ByteArray) : (a ++ b ++ c).extract a.size (a.size + b.size) = b := by
  rw [ByteArray.append_assoc]
  calc (a ++ (b ++ c)).extract (a.size + 0) (a.size + b.size)
      = (b ++ c).extract 0 b.size := ByteArray.extract_append_size_add
    _ = b := ByteArray.extract_append_eq_left rfl

lemma slice?_append (before part after : String) :
    slice? (before ++ part ++ after) before.utf8ByteSize
      (before.utf8ByteSize + part.utf8ByteSize) = some part := by
  rw [slice?, dif_pos (sliceable_append before part after), Option.some.injEq,
    ← String.toByteArray_inj, String.toByteArray_extract]
  simp only [String.toByteArray_append]
  exact extract_between _ _ _

end Text

namespace Pattern
open Text

def firstStar (literal : String) : String :=
  if literal.toList.head? = some '*' then "*" else ""

def lastStar (literal : String) : String :=
  if literal.toList.getLast? = some '*' then "*" else ""

@[simp] lemma utf8ByteSize_star : ("*" : String).utf8ByteSize = 1 := rfl

lemma head?_star_append (s : String) : ("*" ++ s).toList.head? = some '*' := by simp

lemma getLast?_append_star (s : String) : (s ++ "*").toList.getLast? = some '*' := by simp

variable {m : String}

lemma cut_both_stars (m : String) :
    cut ("*" ++ m ++ "*") = .part contains 1 (1 + m.utf8ByteSize) := by
  have hfirst : ("*" ++ m ++ "*").toList.head? = some '*' := by
    rw [String.append_assoc]
    exact head?_star_append (m ++ "*")
  have hsize : ("*" ++ m ++ "*").utf8ByteSize = 1 + m.utf8ByteSize + 1 := by
    rw [String.utf8ByteSize_append, String.utf8ByteSize_append, utf8ByteSize_star]
  simp only [cut]
  rw [if_pos ⟨hfirst, getLast?_append_star _⟩, hsize, if_neg (by omega), Nat.add_sub_cancel]

lemma cut_first_star (h : ("*" ++ m).toList.getLast? ≠ some '*') :
    cut ("*" ++ m) = .part endsWith 1 (1 + m.utf8ByteSize) := by
  simp only [cut]
  rw [if_neg fun hboth => h hboth.2, if_pos (head?_star_append m), String.utf8ByteSize_append,
    utf8ByteSize_star]

lemma cut_last_star (h : (m ++ "*").toList.head? ≠ some '*') :
    cut (m ++ "*") = .part startsWith 0 m.utf8ByteSize := by
  simp only [cut]
  rw [if_neg fun hboth => h hboth.1, if_neg h, if_pos (getLast?_append_star m),
    String.utf8ByteSize_append, utf8ByteSize_star, Nat.add_sub_cancel]

lemma cut_no_star (hfirst : m.toList.head? ≠ some '*') (hlast : m.toList.getLast? ≠ some '*') :
    cut m = .whole (exactly m.toList) := by
  simp only [cut]
  rw [if_neg fun hboth => hfirst hboth.1, if_neg hfirst, if_neg hlast]

/-- A literal is left whole, or the cut leaves the part between its stars; either way it comes to
what the literal asks for. -/
inductive CutsOff (literal : String) : Prop
  | nothing (h : cut literal = .whole (ofLiteral literal.toList))
  | stars {asked : List Char → Pattern} {before part after : String}
      (hfirst : firstStar literal = before) (hlast : lastStar literal = after)
      (hliteral : literal = before ++ part ++ after)
      (hcut : cut literal =
        .part asked before.utf8ByteSize (before.utf8ByteSize + part.utf8ByteSize))
      (hasked : ofLiteral literal.toList = asked part.toList)

lemma cutsOff (literal : String) : CutsOff literal := by
  obtain ⟨l, rfl⟩ : ∃ l, literal = String.ofList l := ⟨literal.toList, String.ofList_toList.symm⟩
  have hasks := asks_ofLiteral (String.ofList l).toList
  generalize hp : ofLiteral (String.ofList l).toList = p at hasks
  rw [String.toList_ofList] at hasks
  cases hasks with
  | starAlone => exact .nothing rfl
  | bothStars m =>
    have hliteral : String.ofList ('*' :: (m ++ ['*'])) = "*" ++ String.ofList m ++ "*" := by
      simp [String.append_assoc]
    rw [hliteral] at hp ⊢
    have hfirst : ("*" ++ String.ofList m ++ "*").toList.head? = some '*' := by
      rw [String.append_assoc]
      exact head?_star_append _
    exact .stars (if_pos hfirst) (if_pos (getLast?_append_star _)) rfl (cut_both_stars _)
      (by rw [hp, String.toList_ofList])
  | @firstStar m hm h =>
    have hliteral : String.ofList ('*' :: m) = "*" ++ String.ofList m := by simp
    rw [hliteral] at hp ⊢
    have hlast : ("*" ++ String.ofList m).toList.getLast? ≠ some '*' := by
      rwa [String.toList_append, String.toList_ofList (l := m),
        List.getLast?_append_of_ne_nil _ hm]
    exact .stars (if_pos (head?_star_append _)) (if_neg hlast) String.append_empty.symm
      (cut_first_star hlast) (by rw [hp, String.toList_ofList])
  | @lastStar m hm h =>
    have hliteral : String.ofList (m ++ ['*']) = String.ofList m ++ "*" := by simp
    rw [hliteral] at hp ⊢
    have hfirst : (String.ofList m ++ "*").toList.head? ≠ some '*' := by
      rwa [String.toList_append, String.toList_ofList, List.head?_append_of_ne_nil _ hm]
    refine .stars (if_neg hfirst) (if_pos (getLast?_append_star _)) (by rw [String.empty_append])
      ?_ (by rw [hp, String.toList_ofList])
    rw [cut_last_star hfirst, String.utf8ByteSize_empty, Nat.zero_add]
  | noStar hfirst hlast =>
    rw [← String.toList_ofList (l := l)] at hfirst hlast
    exact .nothing (by rw [hp, cut_no_star hfirst hlast, String.toList_ofList])

lemma made?_cut (literal : String) :
    (cut literal).made? literal = some (ofLiteral literal.toList) := by
  cases cutsOff literal with
  | nothing h => rw [h, Cut.made?]
  | @stars asked before part after _ _ hliteral hcut hasked =>
    have hslice := slice?_append before part after
    rw [← hliteral] at hslice
    rw [hcut, Cut.made?, hslice, hasked, Option.map_some]

end Pattern

namespace Condition
open Text

/-- Between two stars the slice runs from the first byte behind the one to the last before the
other; with one star it runs from it to the other end of the literal, or from there up to it; a lone
star and a literal without stars are not cut. So a slice always has its bounds in order, within the
bytes of the literal and between characters, and is the literal without its stars. Evaluation never
fails, and answers as `Condition.holds` does. -/
theorem holdsByCut?_eq_some (k : Condition) (ignoreCase : Bool) (received : String) :
    k.holdsByCut? ignoreCase received = some (k.holds ignoreCase received) ∧
    (∀ asked lo hi, Pattern.cut k.literal = .part asked lo hi →
      Sliceable k.literal lo hi ∧
      lo = (Pattern.firstStar k.literal).utf8ByteSize ∧
      hi + (Pattern.lastStar k.literal).utf8ByteSize = k.literal.utf8ByteSize ∧
      ∃ part : String,
        k.literal = Pattern.firstStar k.literal ++ part ++ Pattern.lastStar k.literal ∧
        part.toByteArray = k.literal.toByteArray.extract lo hi ∧
        Pattern.ofLiteral k.literal.toList = asked part.toList) ∧
    Pattern.cut "*" = .whole .anything ∧
    ∀ m : String,
      Pattern.cut ("*" ++ m ++ "*") = .part .contains 1 (1 + m.utf8ByteSize) ∧
      (("*" ++ m).toList.getLast? ≠ some '*' →
        Pattern.cut ("*" ++ m) = .part .endsWith 1 (1 + m.utf8ByteSize)) ∧
      ((m ++ "*").toList.head? ≠ some '*' →
        Pattern.cut (m ++ "*") = .part .startsWith 0 m.utf8ByteSize) ∧
      (m.toList.head? ≠ some '*' → m.toList.getLast? ≠ some '*' →
        Pattern.cut m = .whole (.exactly m.toList)) := by
  refine ⟨?_, ?_, rfl, fun m => ⟨Pattern.cut_both_stars m, Pattern.cut_first_star,
    Pattern.cut_last_star, Pattern.cut_no_star⟩⟩
  · unfold holdsByCut? holds
    cases k.comparison with
    | equal | notEqual => rfl
    | approximatelyEqual => rw [Pattern.made?_cut, Option.map_some]
  · intro asked lo hi hcut
    cases Pattern.cutsOff k.literal with
    | nothing h => simp [h] at hcut
    | @stars asked' before part after hfirst hlast hliteral hcut' hasked =>
      obtain ⟨rfl, rfl, rfl⟩ : asked' = asked ∧ before.utf8ByteSize = lo ∧
          before.utf8ByteSize + part.utf8ByteSize = hi := by simpa [hcut'] using hcut
      have hsliceable := sliceable_append before part after
      have hslice := slice?_append before part after
      have hsize : before.utf8ByteSize + part.utf8ByteSize + after.utf8ByteSize =
          (before ++ part ++ after).utf8ByteSize := by
        rw [String.utf8ByteSize_append, String.utf8ByteSize_append]
      rw [← hliteral] at hsliceable hslice hsize
      rw [hfirst, hlast]
      exact ⟨hsliceable, rfl, hsize, part, hliteral, toByteArray_of_slice? hslice, hasked⟩

end Condition
end TextPredicate
