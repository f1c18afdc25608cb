import TextPredicate.Proofs.LowercaseLiteral

/-!
Literals that ask for nothing. What a literal asks for beside its stars is empty only if there is
nothing but stars, two at most; every other literal refuses the empty text. A third star stands
between the ends and is a character as any. Lowercasing makes no row of stars longer or shorter, so
the stars between the ends are looked for in the text as it is written. Main statement: which
literals match the empty text, which match every text, and what a longer row of stars matches.
-/
namespace TextPredicate
open Text

namespace Text
variable {before after cs ds : List Char} {c d : Char} {n : Nat}

lemma lowercase_eq_nil : lowercase cs = [] ↔ cs = [] := by
  constructor
  · intro h
    by_contra hcs
    exact lowercase_ne_nil hcs h
  · rintro rfl
    rfl

lemma sameLetters_nil_left : sameLetters [] cs = true ↔ cs = [] := by
  rw [sameLetters_iff, List.map_nil, eq_comm, List.map_eq_nil_iff]

lemma lowercaseAt_star (before after : List Char) : lowercaseAt before '*' after = ['*'] := by
  rw [lowercaseAt_of_ne (by simp)]
  decide +kernel

lemma star_cons_lowercaseAfter (before cs : List Char) :
    lowercaseAfter before ('*' :: cs) = '*' :: lowercaseAfter ('*' :: before) cs := by
  rw [lowercaseAfter, lowercaseAt_star, List.singleton_append]

lemma stars_prefix_of_lowercaseAfter (h : List.replicate n '*' <+: lowercaseAfter before cs) :
    List.replicate n '*' <+: cs := by
  induction cs generalizing before n with
  | nil => exact h
  | cons c cs ih =>
    cases n with
    | zero => exact List.nil_prefix
    | succ n =>
      have hc : c = '*' := by
        obtain ⟨rest, hrest⟩ := h
        have hhead : (lowercaseAfter before (c :: cs)).head? = some '*' := by
          rw [← hrest, List.replicate_succ, List.cons_append, List.head?_cons]
        exact eq_star_of_head?_lowercaseAfter hhead
      subst hc
      rw [star_cons_lowercaseAfter, List.replicate_succ, List.cons_prefix_cons] at h
      rw [List.replicate_succ, List.cons_prefix_cons]
      exact ⟨rfl, ih h.2⟩

lemma replicate_infix_of_append (hds : d ∉ ds) (h : List.replicate (n + 1) d <:+: ds ++ cs) :
    List.replicate (n + 1) d <:+: cs := by
  induction ds with
  | nil => exact h
  | cons c ds ih =>
    rw [List.mem_cons, not_or] at hds
    rw [List.cons_append, List.infix_cons_iff, List.replicate_succ, List.cons_prefix_cons] at h
    obtain ⟨hfirst, -⟩ | hrest := h
    · exact absurd hfirst hds.1
    · exact ih hds.2 hrest

lemma stars_infix_of_lowercaseAfter (h : List.replicate n '*' <:+: lowercaseAfter before cs) :
    List.replicate n '*' <:+: cs := by
  induction cs generalizing before with
  | nil => exact h
  | cons c cs ih =>
    rw [List.infix_cons_iff]
    by_cases hc : c = '*'
    · subst hc
      rw [star_cons_lowercaseAfter, List.infix_cons_iff, ← star_cons_lowercaseAfter] at h
      -- the row begins at this star or behind it
      obtain hstart | hrest := h
      · exact .inl (stars_prefix_of_lowercaseAfter hstart)
      · exact .inr (ih hrest)
    · cases n with
      | zero => exact .inl List.nil_prefix
      | succ n =>
        -- the small form of any other character may be longer than one, but has no star in it
        have hhead : '*' ∉ lowercaseAt before c cs := fun h => hc (eq_star_of_mem_lowercaseAt h)
        exact .inr (ih (replicate_infix_of_append hhead h))

lemma lowercase_replicate_star (n : Nat) :
    lowercase (List.replicate n '*') = List.replicate n '*' :=
  lowercaseAfter_eq_self fun c hc => by
    rw [List.eq_of_mem_replicate hc]
    decide +kernel

lemma stars_infix_lowercase_iff :
    List.replicate n '*' <:+: lowercase cs ↔ List.replicate n '*' <:+: cs := by
  refine ⟨stars_infix_of_lowercaseAfter, ?_⟩
  rintro ⟨a, b, rfl⟩
  have hstars : 'Σ' ∉ List.replicate n '*' := by simp
  have hinfix := lowercase_isInfix (a := a) (b := b) (sigmasKept_of_not_mem hstars)
  rwa [lowercase_replicate_star] at hinfix

end Text

namespace Pattern
variable {p : Pattern} {literal : List Char}

/-- The characters that are looked for, whichever way the stars stand. -/
def wanted : Pattern → List Char
  | anything => []
  | contains part | endsWith part | startsWith part => part
  | exactly whole => whole

lemma holds_nil : p.holds [] = true ↔ p.wanted = [] := by
  cases p with
  | anything => simp [holds, wanted]
  | contains part =>
    rw [holds, occursIn_iff, lowercase_nil, List.infix_nil, lowercase_eq_nil, wanted]
  | endsWith part =>
    rw [holds, decide_eq_true_iff, lowercase_nil, List.suffix_nil, lowercase_eq_nil, wanted]
  | startsWith part =>
    rw [holds, decide_eq_true_iff, lowercase_nil, List.prefix_nil, lowercase_eq_nil, wanted]
  | exactly whole => rw [holds, sameLetters_nil_left, wanted]

/-- One star more than two is between the ends, and wanted. -/
lemma Asks.wanted_eq_nil (h : Asks literal p) :
    p.wanted = [] ↔ literal = [] ∨ literal = ['*'] ∨ literal = ['*', '*'] := by
  cases h with
  | starAlone => simp [wanted]
  | bothStars m => simp [wanted]
  | @firstStar m hm h =>
    have hone : m ≠ ['*'] := by
      rintro rfl
      exact h rfl
    simp [wanted, hm, hone]
  | @lastStar m hm h =>
    have hone : m ≠ ['*'] := by
      rintro rfl
      exact h rfl
    have htwo : m ++ ['*'] ≠ ['*', '*'] := fun heq => hone (List.append_cancel_right heq)
    simp [wanted, hm, htwo]
  | noStar hfirst hlast =>
    constructor
    · exact .inl
    · rintro (hnil | rfl | rfl)
      · exact hnil
      · exact absurd rfl hfirst
      · exact absurd rfl hfirst

end Pattern

namespace Condition
variable {l r : String} {ignoreCase : Bool}

lemma like_empty : (like l).holds ignoreCase "" = true ↔ l = "" ∨ l = "*" ∨ l = "**" := by
  rw [holds_like, String.toList_empty, Pattern.holds_nil,
    (Pattern.asks_ofLiteral l.toList).wanted_eq_nil, ← String.toList_inj, ← String.toList_inj,
    ← String.toList_inj]
  rfl

lemma like_stars (n : Nat) :
    (like (String.ofList (List.replicate (n + 2) '*'))).holds ignoreCase r = true ↔
      List.replicate n '*' <:+: r.toList := by
  have hends : List.replicate (n + 2) '*' = '*' :: (List.replicate n '*' ++ ['*']) := by
    rw [List.replicate_succ, List.replicate_succ']
  rw [holds_like, String.toList_ofList, hends, Pattern.holds_both_stars, lowercase_replicate_star,
    stars_infix_lowercase_iff]

/-- The empty text is matched by the empty literal and by one star or two, and no literal but these
stars matches every text. A longer row of stars matches the texts with as many stars in a row, less
the two at its ends, and so none without a star. -/
theorem like_bare_stars (l : String) (ignoreCase : Bool) :
    ((like l).holds ignoreCase "" = true ↔ l = "" ∨ l = "*" ∨ l = "**") ∧
    ((∀ r, (like l).holds ignoreCase r = true) ↔ l = "*" ∨ l = "**") ∧
    ∀ (n : Nat) (r : String),
      (like (String.ofList (List.replicate (n + 3) '*'))).holds ignoreCase r = true ↔
        List.replicate (n + 1) '*' <:+: r.toList := by
  refine ⟨like_empty, ⟨fun hall => ?_, ?_⟩, fun n r => like_stars (n + 1)⟩
  · obtain rfl | hstars := like_empty.1 (hall "")
    · -- the empty literal has no star that a longer text could stand for
      have hlong := hall "*"
      rw [like_whole (by simp) (by simp)] at hlong
      exact absurd hlong (by decide)
    · exact hstars
  · rintro (rfl | rfl) r
    · rfl
    · exact (like_stars 0).2 List.nil_infix

end Condition
end TextPredicate
