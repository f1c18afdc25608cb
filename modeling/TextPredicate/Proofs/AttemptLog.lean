import TextPredicate.Proofs.ConditionReading

/-!
What an attempt leaves in the log. An operator and a literal are noted down when they are read, each
with the position at which it begins, and the outcome of the attempt comes last. Main statement: the
records tell exactly how far the attempt came, and a second attempt leaves none.
-/
namespace TextPredicate
open Source Cursor

/-- The cursor `d` is what is left of `c` when its first events are gone. -/
structure Cursor.MovesOver (c : Cursor) (gone : Source) (d : Cursor) : Prop where
  events : c.events = gone ++ d.events
  position : d.position = c.position + gone.chars.length

lemma Cursor.exists_movesOver_skipBlanks (c : Cursor) :
    ∃ gone, Blank gone.chars ∧ c.MovesOver gone c.skipBlanks := by
  obtain ⟨w, e, hw, he, hev, hpos, -⟩ := skipBlanks_skips c
  have hchars : Source.chars (w.map some ++ e) = w := by simp [chars_of_atMostOneEnd he]
  refine ⟨w.map some ++ e, by rwa [hchars], hev, ?_⟩
  rw [hpos, hchars]

lemma Cursor.exists_movesOver_peek (c : Cursor) :
    ∃ e, AtMostOneEnd e ∧ c.MovesOver e c.peek.2 := by
  obtain ⟨e, he, hev, -⟩ := exists_eq_append_dropEnd c.events
  refine ⟨e, he, ?_, ?_⟩
  · rw [events_peek, ← hev]
  · simp [chars_of_atMostOneEnd he]

/-- The first thing behind blanks is a spelling of the operator. The reader begins to read it when
it has skipped the blanks, and stops right behind it. -/
inductive FindsOperator (c : Cursor) (o : Operator) : Prop
  | mk {before sp e} (hbefore : Blank before.chars) (hstart : c.MovesOver before c.skipBlanks)
      (hsp : (sp, o) ∈ Operator.spellings) (he : AtMostOneEnd e)
      (hend : c.skipBlanks.MovesOver (sp.map some ++ e) (Operator.read c).cursor)

inductive FindsLiteral (c : Cursor) : String → Prop
  | mk {before literal s} (hbefore : Blank before.chars) (hstart : c.MovesOver before c.skipBlanks)
      (hquote : '"' ∉ literal)
      (hev : c.skipBlanks.events = some '"' :: (literal.map some ++ some '"' :: s)) :
      FindsLiteral c (String.ofList literal)

/-- The faults that are found only when an operator has been read. -/
def ParseError.BehindOperator : ParseError → Prop
  | .unsupportedOperator _ | .expectedString .. | .unterminatedString .. => True
  | .unexpectedEnd expected => expected = "string beginning"
  | .unknownOperator .. | .alreadyParsed | .unusable => False

namespace Operator

lemma length_pos_of_spelling {sp : List Char} {o : Operator} (h : (sp, o) ∈ spellings) :
    0 < sp.length := by
  obtain ⟨ch, -, rfl | rfl⟩ := spelling_cases h <;> simp

lemma log_of_read {c c' : Cursor} {o : Operator} {log : List LogRecord}
    (h : Reads c.skipBlanks ⟨.ok o, c', log⟩) :
    FindsOperator c o ∧ log = [.operatorRead o c.skipBlanks.position] := by
  obtain ⟨before, hbefore, hstart⟩ := exists_movesOver_skipBlanks c
  have hread := reads_iff.1 h
  cases h with
  | @single ch s _ hev _ hsp =>
    obtain ⟨e, he, hpeek⟩ := exists_movesOver_peek ⟨s, none, c.skipBlanks.position + 1⟩
    refine ⟨.mk hbefore hstart hsp he ⟨?_, ?_⟩, rfl⟩
    · rw [hread, hev]
      exact congrArg (some ch :: ·) hpeek.events
    · rw [hread, hpeek.position]
      simp
      omega
  | @double ch s _ hev hsp =>
    refine ⟨.mk hbefore hstart hsp .absent ⟨?_, ?_⟩, rfl⟩
    · rw [hread, hev]
      simp
    · rw [hread]
      simp

lemma log_of_refused {c c' : Cursor} {e : ParseError} {log : List LogRecord}
    (h : Reads c.skipBlanks ⟨.error e, c', log⟩) : ¬ e.BehindOperator ∧ log = [] := by
  cases h with
  | nothing => exact ⟨by simp [ParseError.BehindOperator], rfl⟩
  | stray | bang => exact ⟨id, rfl⟩

end Operator

lemma log_of_readLiteral {c c' : Cursor} {literal : String} {log : List LogRecord}
    (h : ReadsLiteral c.skipBlanks ⟨.ok literal, c', log⟩) :
    FindsLiteral c literal ∧ log = [.literalRead literal c.skipBlanks.position] := by
  obtain ⟨before, hbefore, hstart⟩ := exists_movesOver_skipBlanks c
  cases h with
  | closed hev hquote => exact ⟨.mk hbefore hstart hquote hev, rfl⟩

lemma log_of_readLiteral_refused {c c' : Cursor} {e : ParseError} {log : List LogRecord}
    (h : ReadsLiteral c.skipBlanks ⟨.error e, c', log⟩) :
    e.BehindOperator ∧ (∀ o, e ≠ .unsupportedOperator o) ∧ log = [] := by
  cases h with
  | nothing => exact ⟨rfl, by simp, rfl⟩
  | unquoted | unterminated => exact ⟨trivial, by simp, rfl⟩

lemma FindsOperator.position_lt {c : Cursor} {o : Operator} (h : FindsOperator c o) :
    c.position ≤ c.skipBlanks.position ∧
      c.skipBlanks.position < (Operator.read c).cursor.skipBlanks.position := by
  obtain ⟨-, hstart, hsp, -, hend⟩ := h
  obtain ⟨gone, -, hquote⟩ := exists_movesOver_skipBlanks (Operator.read c).cursor
  have hlength := Operator.length_pos_of_spelling hsp
  have hstartPos := hstart.position
  have hendPos := hend.position
  have hquotePos := hquote.position
  rw [chars_append, chars_map_some, List.length_append] at hendPos
  omega

namespace Condition
variable {c : Cursor}

lemma log_of_read {k : Condition} (h : (read c).result = .ok k) :
    FindsOperator c k.comparison.operator ∧ FindsLiteral (Operator.read c).cursor k.literal ∧
    (read c).log = [.operatorRead k.comparison.operator c.skipBlanks.position,
      .literalRead k.literal (Operator.read c).cursor.skipBlanks.position] := by
  obtain ⟨c', log, hreads⟩ := reads_of_result h
  rw [reads_iff.1 hreads]
  cases hreads with
  | whole ho hl =>
    obtain ⟨hoperator, rfl⟩ := Operator.log_of_read ho
    obtain ⟨hliteral, rfl⟩ := log_of_readLiteral hl
    rw [Operator.reads_iff.1 ho]
    exact ⟨hoperator, hliteral, rfl⟩

lemma log_of_refused {e : ParseError} (h : (read c).result = .error e) :
    (∃ o, (Operator.read c).result = .ok o ∧ FindsOperator c o ∧ e.BehindOperator ∧
      (∀ o', e = .unsupportedOperator o' → o' = o) ∧
      (read c).log = [.operatorRead o c.skipBlanks.position]) ∨
    ((Operator.read c).result = .error e ∧ ¬ e.BehindOperator ∧ (read c).log = []) := by
  obtain ⟨c', log, hreads⟩ := reads_of_result h
  rw [reads_iff.1 hreads]
  cases hreads with
  | noOperator ho =>
    obtain ⟨hplace, rfl⟩ := Operator.log_of_refused ho
    rw [Operator.reads_iff.1 ho]
    exact .inr ⟨rfl, hplace, rfl⟩
  | @unsupported o _ _ _ ho hnarrow =>
    obtain ⟨hoperator, rfl⟩ := Operator.log_of_read ho
    obtain rfl := Comparison.error_of_narrow hnarrow
    exact .inl ⟨o, by rw [Operator.reads_iff.1 ho], hoperator, trivial, by simp, rfl⟩
  | @noLiteral k _ _ _ _ _ ho hl =>
    obtain ⟨hoperator, rfl⟩ := Operator.log_of_read ho
    obtain ⟨hplace, hne, rfl⟩ := log_of_readLiteral_refused hl
    exact .inl ⟨k.operator, by rw [Operator.reads_iff.1 ho], hoperator, hplace,
      fun o' he => absurd he (hne o'), rfl⟩

end Condition

namespace Predicate
variable {σ : Type}

/-- The log tells of every attempt how far it came. One that succeeds notes down the operator and
the literal, each with the position at which it begins, and then the condition. One that fails ends
in the fault, behind the operator if that was read. An attempt that is turned down for an earlier
one leaves no record. -/
theorem parse_log (p : Predicate σ) (c : Cursor) :
    let start := c.skipBlanks
    let quote := (Operator.read c).cursor.skipBlanks
    let messages := (p.parse c).log.map fun r => (r.level, r.text)
    (p.state = .unparsed → (p.parse c).result = .ok () →
      ∃ k, (p.parse c).predicate.condition? = some k ∧
        FindsOperator c k.comparison.operator ∧
        FindsLiteral (Operator.read c).cursor k.literal ∧
        c.position ≤ start.position ∧ start.position < quote.position ∧
        (p.parse c).log = [.operatorRead k.comparison.operator start.position,
          .literalRead k.literal quote.position, .conditionParsed k.comparison k.literal] ∧
        messages =
          [(.trace, "operator " ++ k.comparison.symbol ++ " at position " ++
              toString start.position),
            (.trace, "literal " ++ Text.quoteText k.literal ++ " at position " ++
              toString quote.position),
            (.debug, "parsed string comparison " ++ k.comparison.symbol ++ " " ++
              Text.quoteText k.literal)]) ∧
    (p.state = .unparsed → ∀ e, (p.parse c).result = .error e →
      (∃ o, (Operator.read c).result = .ok o ∧ FindsOperator c o ∧ e.BehindOperator ∧
        (∀ o', e = .unsupportedOperator o' → o' = o) ∧
        (p.parse c).log = [.operatorRead o start.position, .parseFailed e] ∧
        messages =
          [(.trace, "operator " ++ o.symbol ++ " at position " ++ toString start.position),
            (.debug, "string comparison failed to parse: " ++ e.message)]) ∨
      ((Operator.read c).result = .error e ∧ ¬ e.BehindOperator ∧
        (p.parse c).log = [.parseFailed e] ∧
        messages = [(.debug, "string comparison failed to parse: " ++ e.message)])) ∧
    (p.state ≠ .unparsed → (p.parse c).log = []) := by
  intro start quote messages
  refine ⟨fun hp hok => ?_, fun hp e herror => ?_, fun hp => ?_⟩
  · obtain ⟨k, hk⟩ := (result_eq_ok_iff hp).1 hok
    obtain ⟨hoperator, hliteral, hlog⟩ := Condition.log_of_read hk
    obtain ⟨hle, hlt⟩ := hoperator.position_lt
    have hparse : (p.parse c).log = [.operatorRead k.comparison.operator start.position,
        .literalRead k.literal quote.position, .conditionParsed k.comparison k.literal] := by
      rw [parse_of_read hp hk, hlog]
      rfl
    refine ⟨k, by rw [parse_of_read hp hk]; rfl, hoperator, hliteral, hle, hlt, hparse, ?_⟩
    simp only [messages, hparse]
    rfl
  · have hread := (result_eq_error_iff hp).1 herror
    obtain ⟨o, ho, hoperator, hplace, hsame, hlog⟩ | ⟨ho, hplace, hlog⟩ :=
      Condition.log_of_refused hread
    · have hparse : (p.parse c).log = [.operatorRead o start.position, .parseFailed e] := by
        rw [parse_of_refused hp hread, hlog]
        rfl
      refine .inl ⟨o, ho, hoperator, hplace, hsame, hparse, ?_⟩
      simp only [messages, hparse]
      rfl
    · have hparse : (p.parse c).log = [.parseFailed e] := by
        rw [parse_of_refused hp hread, hlog]
        rfl
      refine .inr ⟨ho, hplace, hparse, ?_⟩
      simp only [messages, hparse]
      rfl
  · cases hstate : p.state with
    | unparsed => exact absurd hstate hp
    | parsed k => rw [parse_of_parsed hstate]
    | failed => rw [parse_of_failed hstate]

/-- The first attempt succeeds, and the second one fails behind its operator. -/
theorem parse_log_of_attempts :
    let p : Predicate String := { extract := id, ignoreCase := false }
    let whole := p.parse (.ofText " ~= \"a\"")
    let unclosed := p.parse (.ofText "=\"a")
    (whole.result = .ok () ∧
      whole.log = [.operatorRead .approximatelyEqual 1, .literalRead "a" 4,
        .conditionParsed .approximatelyEqual "a"]) ∧
    unclosed.result = .error (.unterminatedString "a" 1) ∧
      unclosed.log = [.operatorRead .equal 0, .parseFailed (.unterminatedString "a" 1)] := by
  intro p whole unclosed
  have hwhole : whole.result = .ok () := rfl
  have hunclosed : unclosed.result = .error (.unterminatedString "a" 1) := rfl
  obtain ⟨k, hk, -, -, -, -, hlog, -⟩ := (parse_log p (.ofText " ~= \"a\"")).1 rfl hwhole
  obtain rfl : Condition.mk .approximatelyEqual "a" = k := Option.some.inj hk
  refine ⟨⟨hwhole, hlog⟩, hunclosed, ?_⟩
  obtain ⟨o, ho, -, -, -, hlog, -⟩ | ⟨-, hplace, -⟩ :=
    (parse_log p (.ofText "=\"a")).2.1 rfl _ hunclosed
  · obtain rfl : Operator.equal = o := Except.ok.inj ho
    exact hlog
  · exact absurd trivial hplace

end Predicate
end TextPredicate
