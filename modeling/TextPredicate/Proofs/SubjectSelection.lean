import Mathlib.Tactic.Lemma
import Mathlib.Data.List.Infix
import TextPredicate.Predicate

/-!
What is selected from a list of subjects, and which of them are looked at. Main statement: those
that are kept are the first of which the predicate holds, no subject is asked for its text behind
the last of them, and a predicate without a condition warns of each subject instead.
-/
namespace TextPredicate

/-- The shortest beginning of a list with so many subjects of one kind, or the whole list if it has
fewer. -/
structure ShortestWith {σ : Type} (p : σ → Bool) (n : Nat) (subjects beginning : List σ) :
    Prop where
  begins : beginning <+: subjects
  enough : n ≤ subjects.countP p → beginning.countP p = n
  whole : subjects.countP p < n → beginning = subjects
  least : ∀ other, other <+: subjects → n ≤ other.countP p → beginning <+: other

namespace ShortestWith
variable {σ : Type} {p : σ → Bool} {n : Nat} {s : σ} {rest beginning : List σ}

lemma zero (p : σ → Bool) (subjects : List σ) : ShortestWith p 0 subjects [] where
  begins := List.nil_prefix
  enough _ := rfl
  whole h := absurd h (Nat.not_lt_zero _)
  least _ _ _ := List.nil_prefix

lemma nil (p : σ → Bool) (n : Nat) : ShortestWith p n [] [] where
  begins := List.nil_prefix
  enough h := (Nat.le_zero.1 h).symm
  whole _ := rfl
  least _ _ _ := List.nil_prefix

/-- The first subject belongs to the beginning, and counts if it is of the kind. -/
lemma cons (h : ShortestWith p (n + 1 - if p s then 1 else 0) rest beginning) :
    ShortestWith p (n + 1) (s :: rest) (s :: beginning) := by
  refine ⟨List.cons_prefix_cons.2 ⟨rfl, h.begins⟩, fun hn => ?_, fun hn => ?_,
    fun other hother hn => ?_⟩
  · rw [List.countP_cons] at hn ⊢
    rw [h.enough (by omega)]
    split <;> omega
  · rw [List.countP_cons] at hn
    rw [h.whole (by omega)]
  · cases other with
    | nil => simp at hn
    | cons x other =>
      obtain ⟨rfl, hrest⟩ := List.cons_prefix_cons.1 hother
      rw [List.countP_cons] at hn
      exact List.cons_prefix_cons.2 ⟨rfl, h.least other hrest (by omega)⟩

end ShortestWith

namespace Predicate
variable {σ : Type} {p : Predicate σ} {k : Condition}

lemma select_zero (p : Predicate σ) (subjects : List σ) : p.select 0 subjects = {} := by
  simp [select]

lemma select_nil (p : Predicate σ) (n : Nat) : p.select n [] = {} := by
  cases n <;> rfl

lemma holds_eq (hk : p.condition? = some k) (s : σ) :
    p.holds s = k.holds p.ignoreCase (p.extract s) := by
  simp [holds, hk]

lemma select_cons (hk : p.condition? = some k) (n : Nat) (s : σ) (rest : List σ) :
    p.select (n + 1) (s :: rest) =
      (Selection.mk (if p.holds s then [s] else []) [s] []).append
        (p.select (n + 1 - if p.holds s then 1 else 0) rest) := by
  have happly : p.apply s = { kept := if p.holds s then [s] else [], asked := [s] } := by
    simp [apply, hk]
  rw [select, happly]
  cases p.holds s <;> rfl

/-- The first of which the predicate holds are kept, the shortest beginning that has them is asked,
and nothing is noted down. -/
lemma select_parsed (hk : p.condition? = some k) (n : Nat) (subjects : List σ) :
    (p.select n subjects).kept = (subjects.filter p.holds).take n ∧
      ShortestWith p.holds n subjects (p.select n subjects).asked ∧
      (p.select n subjects).log = [] := by
  induction subjects generalizing n with
  | nil =>
    rw [select_nil]
    exact ⟨by simp, .nil _ n, rfl⟩
  | cons s rest ih =>
    cases n with
    | zero =>
      rw [select_zero]
      exact ⟨by simp, .zero _ _, rfl⟩
    | succ n =>
      -- only a subject that is kept uses up a part of the limit
      obtain ⟨hkept, hasked, hlog⟩ := ih (n + 1 - if p.holds s then 1 else 0)
      rw [select_cons hk]
      refine ⟨?_, hasked.cons, ?_⟩
      · simp only [Selection.append, hkept]
        cases h : p.holds s <;> simp [h]
      · simp [Selection.append, hlog]

lemma filter_parsed (hk : p.condition? = some k) (subjects : List σ) :
    (p.filter subjects).kept = subjects.filter p.holds := by
  rw [filter, (select_parsed hk subjects.length subjects).1]
  exact List.take_of_length_le (List.length_filter_le p.holds subjects)

lemma select_unparsed (hk : p.condition? = none) (n : Nat) (subjects : List σ) :
    p.select (n + 1) subjects = { log := List.replicate subjects.length .appliedUnparsed } := by
  induction subjects with
  | nil => rfl
  | cons s rest ih =>
    have happly : p.apply s = { log := [.appliedUnparsed] } := by simp [apply, hk]
    rw [select, happly, List.length_cons, List.replicate_succ]
    simp only [List.length_nil, Nat.sub_zero]
    rw [ih]
    rfl

lemma condition?_eq_none (h : ∀ k, p.state ≠ .parsed k) : p.condition? = none := by
  cases hp : p.state with
  | parsed k => exact absurd hp (h k)
  | unparsed | failed => simp [condition?, hp]

/-- Whatever number is asked for, exactly the first subjects of which the condition holds are kept,
in their order, and a text is extracted once from each subject up to the last of them, or from all
if there are fewer. A predicate that has no condition keeps nothing and extracts no text; as soon as
anything is asked for, it warns of every subject. -/
theorem select_lazily (p : Predicate σ) (n : Nat) (subjects : List σ) :
    let selection := p.select n subjects
    (∀ k, p.state = .parsed k →
      let holds := fun s => k.holds p.ignoreCase (p.extract s)
      selection.kept = (subjects.filter holds).take n ∧
      ShortestWith holds n subjects selection.asked ∧
      selection.log = [] ∧
      (p.filter subjects).kept = subjects.filter holds) ∧
    ((∀ k, p.state ≠ .parsed k) →
      selection.kept = [] ∧ selection.asked = [] ∧
      (0 < n → selection.log.map (fun r => (r.level, r.text)) =
        List.replicate subjects.length
          (.warn, "string comparison applied without a parsed literal"))) := by
  intro selection
  refine ⟨fun k hp => ?_, fun hp => ?_⟩
  · intro holds
    have hk : p.condition? = some k := by simp [condition?, hp]
    have hholds : p.holds = holds := funext (holds_eq hk)
    obtain ⟨hkept, hasked, hlog⟩ := select_parsed hk n subjects
    have hfilter := filter_parsed hk subjects
    rw [hholds] at hkept hasked hfilter
    exact ⟨hkept, hasked, hlog, hfilter⟩
  · have hk := condition?_eq_none hp
    cases n with
    | zero =>
      rw [show selection = _ from select_zero p subjects]
      exact ⟨rfl, rfl, by simp⟩
    | succ n =>
      rw [show selection = _ from select_unparsed hk n subjects]
      exact ⟨rfl, rfl, fun _ => List.map_replicate⟩

example : (⟨id, false, .parsed ⟨.notEqual, "a"⟩⟩ : Predicate String).select 1 ["a", "b", "c"] =
    ⟨["b"], ["a", "b"], []⟩ := by rfl

end Predicate
end TextPredicate
