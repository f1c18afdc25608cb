import TextPredicate.Proofs.ConditionReading
import TextPredicate.Proofs.SessionSteps

/-!
The life of a predicate in a session. Its condition is read in the first attempt or never:
`LifeCycle` ties the answers to all attempts to what the predicate has become. It is kept by every
step, whatever the step is taken on, and so by every run.
-/
namespace TextPredicate
variable {σ : Type}

/-- The answers to the attempts that were made on a predicate, and what it is after them. -/
inductive LifeCycle : List (Answer σ) → Predicate σ → Prop
  | untried {p} (h : p.state = .unparsed) : LifeCycle [] p
  | parsed {p k} (h : p.state = .parsed k) (hquote : '"' ∉ k.literal.toList) (n : Nat) :
      LifeCycle (.predicate p :: List.replicate n (.refused .alreadyParsed)) p
  | failed {p e} (h : p.state = .failed) (hparsed : e ≠ .alreadyParsed) (husable : e ≠ .unusable)
      (n : Nat) : LifeCycle (.refused e :: List.replicate n (.refused .unusable)) p

/-- What may become of a predicate: a first attempt may still settle it, nothing else changes. -/
structure Predicate.Continues (p q : Predicate σ) : Prop where
  extract : q.extract = p.extract
  ignoreCase : q.ignoreCase = p.ignoreCase
  settled : p.state ≠ .unparsed → q = p

namespace Condition

lemma quote_not_mem_literal {c : Cursor} {k : Condition} (h : (read c).result = .ok k) :
    '"' ∉ k.literal.toList := by
  obtain ⟨-, literal, s, -, hl, hk⟩ := parts_of_read h
  rwa [hk, String.toList_ofList]

lemma error_of_read {c : Cursor} {e : ParseError} (h : (read c).result = .error e) :
    e ≠ .alreadyParsed ∧ e ≠ .unusable := by
  obtain ⟨c', log, hreads⟩ := reads_of_result h
  cases hreads with
  | noOperator h => cases h <;> simp
  | unsupported h ho => simp [Comparison.error_of_narrow ho]
  | noLiteral h hl => cases hl <;> simp

end Condition

namespace Predicate

lemma Continues.refl (p : Predicate σ) : p.Continues p := ⟨rfl, rfl, fun _ => rfl⟩

lemma Continues.trans {p q r : Predicate σ} (h : p.Continues q) (g : q.Continues r) :
    p.Continues r := by
  refine ⟨g.extract.trans h.extract, g.ignoreCase.trans h.ignoreCase, fun hp => ?_⟩
  have hq : q = p := h.settled hp
  rw [g.settled (hq ▸ hp), hq]

lemma continues_parse (p : Predicate σ) (c : Cursor) : p.Continues (p.parse c).predicate := by
  cases hp : p.state with
  | unparsed =>
    cases hread : (Condition.read c).result with
    | ok k =>
      rw [parse_of_read hp hread]
      exact ⟨rfl, rfl, fun h => absurd hp h⟩
    | error e =>
      rw [parse_of_refused hp hread]
      exact ⟨rfl, rfl, fun h => absurd hp h⟩
  | parsed k =>
    rw [parse_of_parsed hp]
    exact .refl p
  | failed =>
    rw [parse_of_failed hp]
    exact .refl p

lemma parse_of_tried {p : Predicate σ} {c : Cursor} {e : ParseError}
    (h : (p.parse c).result = .error e) (he : e = .alreadyParsed ∨ e = .unusable) :
    p.parse c = ⟨.error e, p, c, []⟩ := by
  cases hp : p.state with
  | unparsed =>
    cases hread : (Condition.read c).result with
    | ok k => simp [parse_of_read hp hread] at h
    | error error =>
      obtain ⟨hparsed, husable⟩ := Condition.error_of_read hread
      obtain rfl : error = e := by simpa [parse_of_refused hp hread] using h
      exact absurd he (by simp [hparsed, husable])
  | parsed k =>
    rw [parse_of_parsed hp] at h ⊢
    obtain rfl : _ = e := Except.error.inj h
    rfl
  | failed =>
    rw [parse_of_failed hp] at h ⊢
    obtain rfl : _ = e := Except.error.inj h
    rfl

end Predicate

namespace LifeCycle

lemma parse {past : List (Answer σ)} {p : Predicate σ} (h : LifeCycle past p) (c : Cursor) :
    LifeCycle (past ++ [(p.parse c).answer]) (p.parse c).predicate := by
  cases h with
  | untried h =>
    cases hread : (Condition.read c).result with
    | ok k =>
      rw [Predicate.parse_of_read h hread]
      exact .parsed rfl (Condition.quote_not_mem_literal hread) 0
    | error e =>
      obtain ⟨hparsed, husable⟩ := Condition.error_of_read hread
      rw [Predicate.parse_of_refused h hread]
      exact .failed rfl hparsed husable 0
  | parsed h hquote n =>
    rw [Predicate.parse_of_parsed h]
    have hlist := LifeCycle.parsed h hquote (n + 1)
    rwa [List.replicate_succ'] at hlist
  | failed h hparsed husable n =>
    rw [Predicate.parse_of_failed h]
    have hlist := LifeCycle.failed h hparsed husable (n + 1)
    rwa [List.replicate_succ'] at hlist

lemma settled {past : List (Answer σ)} {p : Predicate σ} (h : LifeCycle past p)
    (hpast : past ≠ []) : p.state ≠ .unparsed := by
  cases h with
  | untried h => exact absurd rfl hpast
  | parsed h | failed h => simp [h]

/-- What the answers were, and what can be seen of the predicate after them. -/
lemma accessors {past : List (Answer σ)} {p : Predicate σ} (h : LifeCycle past p) :
    (past = [] ∧ p.comparison? = none ∧ p.literal? = none ∧ p.isParsed = false) ∨
    (∃ (k : Condition) (n : Nat),
      past = .predicate p :: List.replicate n (.refused .alreadyParsed) ∧
      p.comparison? = some k.comparison ∧ p.literal? = some k.literal ∧
      p.isParsed = true ∧ '"' ∉ k.literal.toList) ∨
    (∃ (error : ParseError) (n : Nat), error ≠ .alreadyParsed ∧ error ≠ .unusable ∧
      past = .refused error :: List.replicate n (.refused .unusable) ∧
      p.comparison? = none ∧ p.literal? = none ∧ p.isParsed = false) := by
  simp only [Predicate.comparison?, Predicate.literal?, Predicate.isParsed]
  cases h with
  | untried h =>
    have hnone : p.condition? = none := by simp [Predicate.condition?, h]
    rw [hnone]
    exact .inl ⟨rfl, rfl, rfl, rfl⟩
  | @parsed _ k h hquote n =>
    have hsome : p.condition? = some k := by simp [Predicate.condition?, h]
    rw [hsome]
    exact .inr (.inl ⟨k, n, rfl, rfl, rfl, rfl, hquote⟩)
  | @failed _ error h hparsed husable n =>
    have hnone : p.condition? = none := by simp [Predicate.condition?, h]
    rw [hnone]
    exact .inr (.inr ⟨error, n, hparsed, husable, rfl, rfl, rfl, rfl⟩)

end LifeCycle

namespace Session

/-- Takes note of what a step answers, if it is an attempt on the predicate of the name. A predicate
that is made anew has a history of its own; one that is made from a text begins with an attempt. -/
def noteAttempt (name : String) (past : List (Answer σ)) : Step σ × Reply σ → List (Answer σ)
  | (.create n .., _) => if n = name then [] else past
  | (.createFrom n .., reply) =>
    if n = name then
      match reply.answer with
      | .predicate p => [.predicate p]
      | _ => past
    else past
  | (.parse n _, reply) => if n = name then past ++ [reply.answer] else past
  | _ => past

def attempts (name : String) (taken : List (Step σ × Reply σ)) : List (Answer σ) :=
  taken.foldl (noteAttempt name) []

variable {s : Session σ} {name : String}

lemma noteAttempt_of_other {st : Step σ} (hst : ¬ st.Makes name)
    (hparse : ∀ index, st ≠ .parse name index) (past : List (Answer σ)) :
    noteAttempt name past (st, (s.step st).2) = past := by
  cases st with
  | create n extract options => exact if_neg hst
  | createFrom n extract options text =>
    by_cases hn : n = name
    · subst hn
      obtain ⟨e, log, hstep⟩ := step_createFrom_of_not_made (s := s) hst
      simp [noteAttempt, hstep]
    · exact if_neg hn
  | parse n index =>
    have hne : n ≠ name := by
      rintro rfl
      exact hparse index rfl
    exact if_neg hne
  | cursor | inspect | describe | apply | select => rfl

/-- Every step keeps the tie between the answers and the predicate. -/
lemma lifeCycle_step {past : List (Answer σ)}
    (h : ∀ e, s.entries name = some e → LifeCycle past e.predicate) (st : Step σ) {e : Entry σ}
    (he : (s.step st).1.entries name = some e) :
    LifeCycle (noteAttempt name past (st, (s.step st).2)) e.predicate := by
  by_cases hst : st.Makes name
  · cases st with
    | cursor | parse | inspect | describe | apply | select => exact hst.elim
    | create n extract options =>
      obtain rfl : n = name := hst
      obtain rfl : _ = e := by simpa [step] using he
      simpa [noteAttempt] using LifeCycle.untried rfl
    | createFrom n extract options text =>
      obtain ⟨rfl, hresult⟩ := hst
      have hfirst : LifeCycle [(Predicate.ofText extract options.ignoreCase text).answer]
          (Predicate.ofText extract options.ignoreCase text).predicate :=
        (LifeCycle.untried rfl).parse (.ofText text)
      rw [step_createFrom_of_ok hresult] at he ⊢
      obtain rfl : _ = e := by simpa using he
      simpa [noteAttempt, Predicate.Attempt.answer, hresult] using hfirst
  · cases hs : s.entries name with
    | none => simp [entries_step_of_none hs hst] at he
    | some e₀ =>
      obtain ⟨e', he', ⟨index, rfl, hp⟩ | ⟨hparse, hp⟩⟩ := entries_step hs hst
      · obtain rfl : e' = e := by simpa [he'] using he
        rw [hp, step_parse hs]
        simpa [noteAttempt] using (h e₀ hs).parse (s.cursors index)
      · obtain rfl : e' = e := by simpa [he'] using he
        rw [hp, noteAttempt_of_other hst hparse]
        exact h e₀ hs

lemma lifeCycle_run (name : String) (steps : List (Step σ)) {s : Session σ} {past : List (Answer σ)}
    (h : ∀ e, s.entries name = some e → LifeCycle past e.predicate) {e : Entry σ}
    (he : (s.run steps).1.entries name = some e) :
    LifeCycle ((steps.zip (s.run steps).2).foldl (noteAttempt name) past) e.predicate := by
  induction steps generalizing s past with
  | nil => exact h e he
  | cons st rest ih => exact ih (fun e' => lifeCycle_step h st) he

lemma continues_step {e : Entry σ} (he : s.entries name = some e) {st : Step σ}
    (hst : ¬ st.Makes name) :
    ∃ e', (s.step st).1.entries name = some e' ∧ e.predicate.Continues e'.predicate := by
  obtain ⟨e', he', ⟨index, -, hp⟩ | ⟨-, hp⟩⟩ := entries_step he hst
  · exact ⟨e', he', hp ▸ e.predicate.continues_parse (s.cursors index)⟩
  · exact ⟨e', he', hp ▸ .refl e.predicate⟩

lemma continues_run (later : List (Step σ)) {s : Session σ} {e : Entry σ}
    (he : s.entries name = some e) (hlater : ∀ st ∈ later, ¬ st.Makes name) :
    ∃ e', (s.run later).1.entries name = some e' ∧ e.predicate.Continues e'.predicate := by
  induction later generalizing s e with
  | nil => exact ⟨e, he, .refl e.predicate⟩
  | cons st rest ih =>
    obtain ⟨hst, hrest⟩ := List.forall_mem_cons.mp hlater
    obtain ⟨e₁, he₁, h₁⟩ := continues_step he hst
    obtain ⟨e₂, he₂, h₂⟩ := ih he₁ hrest
    exact ⟨e₂, he₂, h₁.trans h₂⟩

lemma step_parse_refused {index : Nat} {error : ParseError}
    (h : (s.step (.parse name index)).2.answer = .refused error)
    (herror : error = .alreadyParsed ∨ error = .unusable) :
    (s.step (.parse name index)).1 = s ∧ (s.step (.parse name index)).2.log = [] := by
  cases he : s.entries name with
  | none => simp [step, withEntry, he] at h
  | some e =>
    rw [step_parse he] at h ⊢
    have hparse := Predicate.parse_of_tried (Predicate.Attempt.result_of_answer h) herror
    rw [hparse]
    refine ⟨?_, rfl⟩
    show (s.setEntry name e).setCursor index (s.cursors index) = s
    rw [setEntry_self he, setCursor_self]

/-- The answers to all attempts on a predicate tell what it has become, at the end of every run.
From the first of them on it stays what it is; an attempt that is turned down for an earlier one
does nothing at all, and no step on another predicate touches it. -/
theorem run_lifeCycle (cursors : Nat → Cursor) (steps : List (Step σ)) (name : String) :
    let run := ({ cursors } : Session σ).run steps
    let answers := attempts name (steps.zip run.2)
    (∀ e, run.1.entries name = some e →
      (answers = [] ∧ e.predicate.comparison? = none ∧ e.predicate.literal? = none ∧
        e.predicate.isParsed = false) ∨
      (∃ (k : Condition) (n : Nat),
        answers = .predicate e.predicate :: List.replicate n (.refused .alreadyParsed) ∧
        e.predicate.comparison? = some k.comparison ∧ e.predicate.literal? = some k.literal ∧
        e.predicate.isParsed = true ∧ '"' ∉ k.literal.toList) ∨
      (∃ (error : ParseError) (n : Nat), error ≠ .alreadyParsed ∧ error ≠ .unusable ∧
        answers = .refused error :: List.replicate n (.refused .unusable) ∧
        e.predicate.comparison? = none ∧ e.predicate.literal? = none ∧
        e.predicate.isParsed = false)) ∧
    (∀ e later, run.1.entries name = some e → (∀ st ∈ later, ¬ st.Makes name) →
      ∃ e', (run.1.run later).1.entries name = some e' ∧
        e'.predicate.ignoreCase = e.predicate.ignoreCase ∧
        (answers ≠ [] → e'.predicate = e.predicate)) ∧
    (∀ index error, (run.1.step (.parse name index)).2.answer = .refused error →
      error = .alreadyParsed ∨ error = .unusable →
      (run.1.step (.parse name index)).1 = run.1 ∧
        (run.1.step (.parse name index)).2.log = []) ∧
    (∀ st : Step σ, st.name? ≠ some name →
      (run.1.step st).1.entries name = run.1.entries name) := by
  intro run answers
  have hlife : ∀ e, run.1.entries name = some e → LifeCycle answers e.predicate :=
    fun e he => lifeCycle_run name steps (by simp) he
  refine ⟨fun e he => ?_, fun e later he hlater => ?_, fun index error h herror => ?_,
    fun st hst => ?_⟩
  · exact (hlife e he).accessors
  · obtain ⟨e', he', hcontinues⟩ := continues_run later he hlater
    refine ⟨e', he', hcontinues.ignoreCase, fun hanswers => hcontinues.settled ?_⟩
    exact (hlife e he).settled hanswers
  · exact step_parse_refused h herror
  · exact entries_step_of_ne run.1 hst

end Session
end TextPredicate
