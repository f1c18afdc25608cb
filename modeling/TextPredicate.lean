import TextPredicate.Unicode.CaseMapping
import TextPredicate.Unicode.Properties
import TextPredicate.Text
import TextPredicate.Comparison
import TextPredicate.Condition
import TextPredicate.Cursor
import TextPredicate.Reading
import TextPredicate.Predicate
import TextPredicate.Session
import TextPredicate.Proofs.CursorEvents
import TextPredicate.Proofs.OperatorReading
import TextPredicate.Proofs.ConditionReading
import TextPredicate.Proofs.ConditionPhrase
import TextPredicate.Proofs.WrittenCondition
import TextPredicate.Proofs.RejectedText
import TextPredicate.Proofs.LifeCycle
import TextPredicate.Proofs.CursorAccount
import TextPredicate.Proofs.LetterCase
import TextPredicate.Proofs.LowercaseContext
import TextPredicate.Proofs.StarredLiteral
import TextPredicate.Proofs.StarredParts
import TextPredicate.Proofs.LowercaseLetters
import TextPredicate.Proofs.AddedStar
import TextPredicate.Proofs.ConditionsInTurn
import TextPredicate.Proofs.CompletedText
import TextPredicate.Proofs.AttemptLog
import TextPredicate.Proofs.LowercaseLiteral
import TextPredicate.Proofs.BareStars
import TextPredicate.Proofs.LetterEquality
import TextPredicate.Proofs.LongestOperator
import TextPredicate.Proofs.OperatorsInTurn
import TextPredicate.Proofs.RepeatedSkip
import TextPredicate.Proofs.SubjectSelection
import TextPredicate.Proofs.SilentPeeks
import TextPredicate.Proofs.ByteSlices
import TextPredicate.Proofs.ReadingBack
import TextPredicate.Proofs.Messages
