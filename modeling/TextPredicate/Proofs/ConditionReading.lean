import TextPredicate.Predicate
import TextPredicate.Proofs.OperatorReading

/-!
What reading a literal and a whole condition comes to, as lists of the ways in which they end. A
condition is refused in one of three places: at its operator, by the narrowing of the operator, or
at its literal. A predicate hands on what its first attempt comes to and refuses any other.
-/
namespace TextPredicate
open Source Cursor

inductive ReadsLiteral (start : Cursor) : Reading String → Prop
  | nothing (h : start.read.1 = none) :
      ReadsLiteral start ⟨.error (.unexpectedEnd "string beginning"), start.read.2, []⟩
  | unquoted {ch s} (h : start.events = some ch :: s) (hch : ch ≠ '"') :
      ReadsLiteral start ⟨.error (.expectedString ch start.position),
        ⟨s, none, start.position + 1⟩, []⟩
  | unterminated {lit s} (h : start.events = some '"' :: (lit.map some ++ s)) (hlit : '"' ∉ lit)
      (hs : ∀ ch, s.head? ≠ some (some ch)) :
      ReadsLiteral start ⟨.error (.unterminatedString (String.ofList lit) start.position),
        ⟨s.tail, none, start.position + 1 + lit.length⟩, []⟩
  | closed {lit s} (h : start.events = some '"' :: (lit.map some ++ some '"' :: s))
      (hlit : '"' ∉ lit) :
      ReadsLiteral start ⟨.ok (String.ofList lit), ⟨s, none, start.position + lit.length + 2⟩,
        [.literalRead (String.ofList lit) start.position]⟩

lemma forall_ne_quote {lit : List Char} :
    (∀ ch ∈ lit, decide (ch ≠ '"') = true) ↔ '"' ∉ lit := by
  constructor
  · intro h hquote
    simpa using h '"' hquote
  · intro h ch hch
    simpa using ne_of_mem_of_not_mem hch h

lemma readLiteral_eq_of_reads {c : Cursor} {r : Reading String}
    (h : ReadsLiteral c.skipBlanks r) : readLiteral c = r := by
  cases h with
  | nothing h =>
    have hread : c.skipBlanks.read = (none, c.skipBlanks.read.2) := Prod.ext h rfl
    simp only [readLiteral]
    rw [hread]
    rfl
  | unquoted h hch => simp [readLiteral, read_some h, hch, Reading.failure]
  | @unterminated lit s h hlit hs =>
    have hbody := takeWhile_run (c := ⟨lit.map some ++ s, none, c.skipBlanks.position + 1⟩) rfl
      (forall_ne_quote.2 hlit) (s := s) fun ch hch => absurd hch (hs ch)
    simp only [readLiteral, read_some h, if_true, hbody]
    cases s with
    | nil => rfl
    | cons x s =>
      cases x with
      | none => rfl
      | some ch => exact absurd rfl (hs ch)
  | @closed lit s h hlit =>
    have hbody := takeWhile_run
      (c := ⟨lit.map some ++ some '"' :: s, none, c.skipBlanks.position + 1⟩) rfl
      (forall_ne_quote.2 hlit) (s := some '"' :: s) (by simp)
    simp only [readLiteral, read_some h, if_true, hbody, read_some (events_mk_none ..),
      Reading.success]
    congr 2
    omega

lemma exists_readsLiteral (start : Cursor) : ∃ r, ReadsLiteral start r := by
  by_cases hnone : start.read.1 = none
  · exact ⟨_, .nothing hnone⟩
  obtain ⟨ch, s, h⟩ := exists_char_of_read hnone
  by_cases hch : ch = '"'
  · subst hch
    obtain ⟨lit, rest, rfl, hlit, hrest⟩ := exists_run (fun ch => decide (ch ≠ '"')) s
    have hquote : '"' ∉ lit := forall_ne_quote.1 hlit
    match rest with
    | [] => exact ⟨_, .unterminated h hquote (by simp)⟩
    | none :: rest => exact ⟨_, .unterminated h hquote (by simp)⟩
    | some x :: rest =>
      obtain rfl : x = '"' := by simpa using hrest x rfl
      exact ⟨_, .closed h hquote⟩
  · exact ⟨_, .unquoted h hch⟩

theorem readsLiteral_iff {c : Cursor} {r : Reading String} :
    ReadsLiteral c.skipBlanks r ↔ readLiteral c = r :=
  Reading.described_iff (fun _ => readLiteral_eq_of_reads) (exists_readsLiteral c.skipBlanks)

lemma Comparison.error_of_narrow {o : Operator} {e : ParseError} (h : narrow o = .error e) :
    e = .unsupportedOperator o := by
  cases o <;> simp [narrow] at h <;> exact h.symm

namespace Condition

inductive Reads (c : Cursor) : Reading Condition → Prop
  | noOperator {e c₁ log} (h : Operator.Reads c.skipBlanks ⟨.error e, c₁, log⟩) :
      Reads c ⟨.error e, c₁, log⟩
  | unsupported {o e c₁ log} (h : Operator.Reads c.skipBlanks ⟨.ok o, c₁, log⟩)
      (ho : Comparison.narrow o = .error e) : Reads c ⟨.error e, c₁, log⟩
  | noLiteral {k : Comparison} {e c₁ c₂ log log'}
      (h : Operator.Reads c.skipBlanks ⟨.ok k.operator, c₁, log⟩)
      (hl : ReadsLiteral c₁.skipBlanks ⟨.error e, c₂, log'⟩) : Reads c ⟨.error e, c₂, log ++ log'⟩
  | whole {k : Comparison} {literal c₁ c₂ log log'}
      (h : Operator.Reads c.skipBlanks ⟨.ok k.operator, c₁, log⟩)
      (hl : ReadsLiteral c₁.skipBlanks ⟨.ok literal, c₂, log'⟩) :
      Reads c ⟨.ok ⟨k, literal⟩, c₂.skipBlanks, log ++ log'⟩

lemma read_eq_of_reads {c : Cursor} {r : Reading Condition} (h : Reads c r) : read c = r := by
  cases h with
  | noOperator h => simp [read, Operator.reads_iff.1 h]
  | unsupported h ho => simp [read, Operator.reads_iff.1 h, ho, Reading.failure]
  | noLiteral h hl => simp [read, Operator.reads_iff.1 h, readsLiteral_iff.1 hl]
  | whole h hl =>
    simp [read, Operator.reads_iff.1 h, readsLiteral_iff.1 hl, Reading.success]

lemma exists_reads (c : Cursor) : ∃ r, Reads c r := by
  obtain ⟨⟨e | o, c₁, log⟩, h⟩ := Operator.exists_reads c.skipBlanks
  · exact ⟨_, .noOperator h⟩
  cases ho : Comparison.narrow o with
  | error e => exact ⟨_, .unsupported h ho⟩
  | ok k =>
    obtain rfl := Comparison.narrow_eq_ok.1 ho
    obtain ⟨⟨e | literal, c₂, log'⟩, hl⟩ := exists_readsLiteral c₁.skipBlanks
    · exact ⟨_, .noLiteral h hl⟩
    · exact ⟨_, .whole h hl⟩

theorem reads_iff {c : Cursor} {r : Reading Condition} : Reads c r ↔ read c = r :=
  Reading.described_iff (fun _ => read_eq_of_reads) (exists_reads c)

lemma reads_of_result {c : Cursor} {result : Except ParseError Condition}
    (h : (read c).result = result) : ∃ c' log, Reads c ⟨result, c', log⟩ := by
  subst h
  exact ⟨_, _, reads_iff.2 rfl⟩

lemma parts_of_read {c : Cursor} {k : Condition} (h : (read c).result = .ok k) :
    (∃ ch s, c.skipBlanks.events = some ch :: s ∧ ch ∈ Operator.starters) ∧
    ∃ literal s, (Operator.read c).cursor.skipBlanks.events =
        some '"' :: (literal.map some ++ some '"' :: s) ∧
      '"' ∉ literal ∧ k.literal = String.ofList literal := by
  obtain ⟨c', log, hreads⟩ := reads_of_result h
  cases hreads with
  | whole ho hl =>
    rw [Operator.reads_iff.1 ho]
    constructor
    · cases ho with
      | single hev _ hsp => exact ⟨_, _, hev, Operator.starter_of_spelling hsp⟩
      | double hev hsp => exact ⟨_, _, hev, Operator.starter_of_spelling hsp⟩
    · cases hl with
      | closed hev hquote => exact ⟨_, _, hev, hquote, rfl⟩

end Condition

namespace Predicate
variable {σ : Type} {p : Predicate σ} {c : Cursor}

lemma parse_of_read (hp : p.state = .unparsed) {k : Condition}
    (h : (Condition.read c).result = .ok k) :
    p.parse c = ⟨.ok (), { p with state := .parsed k }, (Condition.read c).cursor,
      (Condition.read c).log ++ [.conditionParsed k.comparison k.literal]⟩ := by
  simp [parse, hp, h]

lemma parse_of_refused (hp : p.state = .unparsed) {e : ParseError}
    (h : (Condition.read c).result = .error e) :
    p.parse c = ⟨.error e, { p with state := .failed }, (Condition.read c).cursor,
      (Condition.read c).log ++ [.parseFailed e]⟩ := by
  simp [parse, hp, h]

lemma parse_of_parsed {k : Condition} (hp : p.state = .parsed k) :
    p.parse c = ⟨.error .alreadyParsed, p, c, []⟩ := by
  simp [parse, hp]

lemma parse_of_failed (hp : p.state = .failed) : p.parse c = ⟨.error .unusable, p, c, []⟩ := by
  simp [parse, hp]

lemma result_eq_ok_iff (hp : p.state = .unparsed) :
    (p.parse c).result = .ok () ↔ ∃ k, (Condition.read c).result = .ok k := by
  cases h : (Condition.read c).result with
  | ok k => simp [parse_of_read hp h]
  | error e => simp [parse_of_refused hp h]

lemma result_eq_error_iff (hp : p.state = .unparsed) {e : ParseError} :
    (p.parse c).result = .error e ↔ (Condition.read c).result = .error e := by
  cases h : (Condition.read c).result with
  | ok k => simp [parse_of_read hp h]
  | error e' => simp [parse_of_refused hp h]

end Predicate
end TextPredicate
