import MiniC.Lexer.Reader
import MiniC.Files.Store
import MiniC.Main
import MiniC.Proofs.Confinement
import MiniC.Proofs.ConfinedExpression
import MiniC.Proofs.ConfinedDeclarator
import MiniC.Proofs.ConfinedStatement
import MiniC.Proofs.Passage
import MiniC.Proofs.Lockstep
import MiniC.Proofs.LockstepExpression
import MiniC.Proofs.LockstepDeclarator
import MiniC.Proofs.LockstepLoop
import MiniC.Proofs.LockstepStatement
import MiniC.Proofs.LockstepMemory
import MiniC.Proofs.Memoisation
import MiniC.Proofs.Overflow
import MiniC.Proofs.Supervision
import MiniC.Proofs.Shallow
import MiniC.Proofs.Tandem
import MiniC.Proofs.TandemRules
import MiniC.Proofs.TandemStatements
import MiniC.Proofs.ErrorLimit
import MiniC.Proofs.Grammar
import MiniC.Proofs.Spanless
import MiniC.Proofs.Covering
import MiniC.Proofs.Habit
import MiniC.Proofs.Layout
import MiniC.Proofs.BlockRecovery
import MiniC.Proofs.Accounting
import MiniC.Proofs.DeepestError
import MiniC.Proofs.NestingLimit
import MiniC.Proofs.ErrorFree
import MiniC.Proofs.Derivations
import MiniC.Proofs.Completeness
import MiniC.Proofs.CompleteDeclarator
import MiniC.Proofs.CompleteStatement
import MiniC.Proofs.Exactness
import MiniC.Proofs.RecordRoundTrip
import MiniC.Proofs.RecordedSource
import MiniC.Proofs.DocumentReading
import MiniC.Proofs.Composition
import MiniC.Proofs.GapGrammar
import MiniC.Proofs.DividedSource
import MiniC.Proofs.Respacing
import MiniC.Proofs.Chronicle
import MiniC.Proofs.ErrorOrder
import MiniC.Proofs.SourceOrder
import MiniC.Proofs.Repetition
import MiniC.Proofs.Remembrance
import MiniC.Proofs.TreeSpans
import MiniC.Proofs.SpanNesting
import MiniC.Proofs.BracketBalance
import MiniC.Proofs.Levels
import MiniC.Proofs.NestingDepth
import MiniC.Proofs.Stripped
import MiniC.Proofs.StrippedRuns
import MiniC.Proofs.LayoutIndependence
import MiniC.Proofs.LiteralEnd
import MiniC.Proofs.OrderedChoice
import MiniC.Proofs.GenuineMemory
import MiniC.Proofs.DeclaratorExactness
import MiniC.Proofs.Cascade
import MiniC.Proofs.FailureWording
import MiniC.Proofs.DigitReading
import MiniC.Proofs.ReadableConstants
import MiniC.Proofs.Occurrences
import MiniC.Proofs.ShownLine
import MiniC.Proofs.PlainLines
import MiniC.Proofs.LineTokens
import MiniC.Proofs.CaretPlace
import MiniC.Proofs.RecordFields
import MiniC.Proofs.RecordFormat
import MiniC.Proofs.EndMarks
import MiniC.Proofs.OpenBrackets
import MiniC.Proofs.BracketMatching
