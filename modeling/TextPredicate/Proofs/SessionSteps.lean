import Mathlib.Tactic.Lemma
import TextPredicate.Session

/-!
What a step of a session does to the predicates. A step touches the predicate that it names and no
other, and of a predicate that is not made anew only an attempt changes more than the count of its
texts.
-/
namespace TextPredicate
variable {σ : Type}

def Step.name? : Step σ → Option String
  | .cursor .. => none
  | .create name .. | .createFrom name .. | .parse name _ | .inspect name | .describe name
  | .apply name _ | .select name .. => some name

/-- A step that makes a predicate of the name, in the place of one that had it. From a text that is
refused nothing is made. -/
def Step.Makes (name : String) : Step σ → Prop
  | .create n .. => n = name
  | .createFrom n extract options text =>
    n = name ∧ (Predicate.ofText extract options.ignoreCase text).result = .ok ()
  | _ => False

namespace Predicate

def Attempt.answer (a : Attempt σ) : Answer σ :=
  match a.result with
  | .ok () => .predicate a.predicate
  | .error e => .refused e

lemma Attempt.result_of_answer {a : Attempt σ} {e : ParseError} (h : a.answer = .refused e) :
    a.result = .error e := by
  cases hr : a.result with
  | ok => simp [answer, hr] at h
  | error error => simpa [answer, hr] using h

end Predicate

namespace Session
variable {s : Session σ} {name : String}

@[simp] lemma entries_setCursor (s : Session σ) (index : Nat) (c : Cursor) :
    (s.setCursor index c).entries = s.entries := rfl

@[simp] lemma entries_setEntry_self (s : Session σ) (name : String) (e : Entry σ) :
    (s.setEntry name e).entries name = some e := if_pos rfl

lemma entries_setEntry_of_ne (s : Session σ) {name other : String} (e : Entry σ)
    (h : name ≠ other) : (s.setEntry name e).entries other = s.entries other := if_neg h.symm

lemma entries_record (s : Session σ) (name : String) (e : Entry σ)
    (selection : Predicate.Selection σ) (answer : Answer σ) :
    (s.record name e selection answer).1.entries name =
      some { e with calls := e.calls + selection.asked.length } := entries_setEntry_self s name _

@[simp] lemma setCursor_self (s : Session σ) (index : Nat) :
    s.setCursor index (s.cursors index) = s := by
  have hcursors : (fun i => if i = index then s.cursors index else s.cursors i) = s.cursors := by
    funext i
    split
    · next h => rw [h]
    · rfl
  simp [setCursor, hcursors]

lemma setEntry_self {e : Entry σ} (h : s.entries name = some e) : s.setEntry name e = s := by
  have hentries : (fun n => if n = name then some e else s.entries n) = s.entries := by
    funext n
    split
    · next heq => rw [heq, h]
    · rfl
  simp [setEntry, hentries]

lemma withEntry_of_some {e : Entry σ} (h : s.entries name = some e)
    (f : Entry σ → Session σ × Reply σ) : s.withEntry name f = f e := by
  rw [withEntry, h]

lemma withEntry_of_none (h : s.entries name = none) (f : Entry σ → Session σ × Reply σ) :
    s.withEntry name f = (s, { answer := .unknownName }) := by
  rw [withEntry, h]

lemma step_createFrom_of_ok {extract : σ → String} {options : MatchOptions} {text : String}
    (h : (Predicate.ofText extract options.ignoreCase text).result = .ok ()) :
    s.step (.createFrom name extract options text) =
      (s.setEntry name
          { predicate := (Predicate.ofText extract options.ignoreCase text).predicate },
        { answer := .predicate (Predicate.ofText extract options.ignoreCase text).predicate
          log := (Predicate.ofText extract options.ignoreCase text).log }) := by
  simp only [step, h]

lemma step_createFrom_of_not_made {extract : σ → String} {options : MatchOptions} {text : String}
    (h : ¬ (Step.createFrom name extract options text).Makes name) :
    ∃ e log, s.step (.createFrom name extract options text) =
      (s, { answer := .refused e, log }) := by
  cases hresult : (Predicate.ofText extract options.ignoreCase text).result with
  | ok => exact absurd ⟨rfl, hresult⟩ h
  | error e =>
    refine ⟨e, (Predicate.ofText extract options.ignoreCase text).log, ?_⟩
    simp only [step, hresult]

lemma step_parse {e : Entry σ} (h : s.entries name = some e) (index : Nat) :
    s.step (.parse name index) =
      ((s.setEntry name
          { e with predicate := (e.predicate.parse (s.cursors index)).predicate }).setCursor index
          (e.predicate.parse (s.cursors index)).cursor,
        { answer := (e.predicate.parse (s.cursors index)).answer
          position := (e.predicate.parse (s.cursors index)).cursor.position
          log := (e.predicate.parse (s.cursors index)).log }) := by
  rw [step, withEntry_of_some h]
  rfl

lemma entries_step_of_ne (s : Session σ) {st : Step σ} (h : st.name? ≠ some name) :
    (s.step st).1.entries name = s.entries name := by
  cases st with
  | cursor index action => rfl
  | create n extract options =>
    exact entries_setEntry_of_ne s _ (by simpa [Step.name?] using h)
  | createFrom n extract options text =>
    have hne : n ≠ name := by simpa [Step.name?] using h
    simp only [step]
    split
    · exact entries_setEntry_of_ne s _ hne
    · rfl
  | parse n index =>
    have hne : n ≠ name := by simpa [Step.name?] using h
    cases he : s.entries n with
    | none => rw [step, withEntry_of_none he]
    | some e => rw [step_parse he, entries_setCursor, entries_setEntry_of_ne _ _ hne]
  | inspect n | describe n =>
    simp only [step, withEntry]
    split <;> rfl
  | apply n subject | select n subjects limit =>
    have hne : n ≠ name := by simpa [Step.name?] using h
    simp only [step, withEntry]
    split
    · exact entries_setEntry_of_ne s _ hne
    · rfl

lemma entries_step_of_none (hs : s.entries name = none) {st : Step σ} (hst : ¬ st.Makes name) :
    (s.step st).1.entries name = none := by
  by_cases hname : st.name? = some name
  · cases st with
    | cursor index action => simp [Step.name?] at hname
    | create n extract options =>
      exact absurd (by simpa [Step.name?, Step.Makes] using hname) hst
    | createFrom n extract options text =>
      obtain rfl : n = name := by simpa [Step.name?] using hname
      obtain ⟨e, log, hstep⟩ := step_createFrom_of_not_made (s := s) hst
      rw [hstep]
      exact hs
    | parse n index | inspect n | describe n | apply n subject | select n subjects limit =>
      obtain rfl : n = name := by simpa [Step.name?] using hname
      rw [step, withEntry_of_none hs]
      exact hs
  · rw [entries_step_of_ne s hname, hs]

/-- Only an attempt changes a predicate that is not made anew. -/
lemma entries_step {e : Entry σ} (he : s.entries name = some e) {st : Step σ}
    (hst : ¬ st.Makes name) :
    ∃ e', (s.step st).1.entries name = some e' ∧
      ((∃ index, st = .parse name index ∧
          e'.predicate = (e.predicate.parse (s.cursors index)).predicate) ∨
        (∀ index, st ≠ .parse name index) ∧ e'.predicate = e.predicate) := by
  by_cases hname : st.name? = some name
  · cases st with
    | cursor index action => simp [Step.name?] at hname
    | create n extract options =>
      exact absurd (by simpa [Step.name?, Step.Makes] using hname) hst
    | createFrom n extract options text =>
      obtain rfl : n = name := by simpa [Step.name?] using hname
      obtain ⟨error, log, hstep⟩ := step_createFrom_of_not_made (s := s) hst
      rw [hstep]
      exact ⟨e, he, .inr ⟨by simp, rfl⟩⟩
    | parse n index =>
      obtain rfl : n = name := by simpa [Step.name?] using hname
      refine ⟨{ e with predicate := (e.predicate.parse (s.cursors index)).predicate }, ?_,
        .inl ⟨index, rfl, rfl⟩⟩
      rw [step_parse he, entries_setCursor, entries_setEntry_self]
    | inspect n | describe n =>
      obtain rfl : n = name := by simpa [Step.name?] using hname
      rw [step, withEntry_of_some he]
      exact ⟨e, he, .inr ⟨by simp, rfl⟩⟩
    | apply n subject | select n subjects limit =>
      obtain rfl : n = name := by simpa [Step.name?] using hname
      rw [step, withEntry_of_some he]
      exact ⟨_, entries_record s n e _ _, .inr ⟨by simp, rfl⟩⟩
  · refine ⟨e, (entries_step_of_ne s hname).trans he, .inr ⟨?_, rfl⟩⟩
    rintro index rfl
    exact hname rfl

end Session
end TextPredicate
