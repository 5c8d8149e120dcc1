import StructuralSearch.Text.Blank
import StructuralSearch.Text.Folding
import StructuralSearch.Text.Lowercase
import StructuralSearch.Text.Word
import StructuralSearch.Text.Occurrence
import StructuralSearch.Text.Utf8
import StructuralSearch.Wildcard.Codec
import StructuralSearch.Wildcard.Fragment
import StructuralSearch.Results
import StructuralSearch.Settings
import StructuralSearch.StopFlag
import StructuralSearch.Node.Basic
import StructuralSearch.Node.Layout
import StructuralSearch.ParseTree
import StructuralSearch.SearchError
import StructuralSearch.Profile.Tables
import StructuralSearch.Profile.Wildcards
import StructuralSearch.Query
import StructuralSearch.Matching.Validation
import StructuralSearch.Search.Run
import StructuralSearch.Json.Printer
import StructuralSearch.Json.Reader
import StructuralSearch.Json.Records
import StructuralSearch.Main
import StructuralSearch.Proofs.Nodes
import StructuralSearch.Proofs.BuiltShape
import StructuralSearch.Proofs.BuiltTexts
import StructuralSearch.Proofs.LevelComparison
import StructuralSearch.Proofs.SequenceRuns
import StructuralSearch.Proofs.Verdict
import StructuralSearch.Proofs.SureMatching
import StructuralSearch.Proofs.SureSearch
import StructuralSearch.Proofs.CandidateKinds
import StructuralSearch.Proofs.SearchLoop
import StructuralSearch.Proofs.FileReports
import StructuralSearch.Proofs.Alignment
import StructuralSearch.Proofs.Claiming
import StructuralSearch.Proofs.FirstFit
import StructuralSearch.Proofs.SequenceVerdict
import StructuralSearch.Proofs.ExactRelation
import StructuralSearch.Proofs.Embedding
import StructuralSearch.Proofs.TurnTaking
import StructuralSearch.Proofs.ModeOrder
import StructuralSearch.Proofs.StatementWindows
import StructuralSearch.Proofs.StatementOrder
import StructuralSearch.Proofs.ModeSearch
import StructuralSearch.Proofs.Replacing
import StructuralSearch.Proofs.Placeholders
import StructuralSearch.Proofs.DecodedQueries
import StructuralSearch.Proofs.QueryReports
import StructuralSearch.Proofs.SpanBounds
import StructuralSearch.Proofs.FirstFailures
import StructuralSearch.Proofs.QueryOrder
import StructuralSearch.Proofs.FragmentPatterns
import StructuralSearch.Proofs.PlainQueries
import StructuralSearch.Proofs.SelfMatching
import StructuralSearch.Proofs.Generalising
import StructuralSearch.Proofs.Quotations
import StructuralSearch.Proofs.WrittenJson
import StructuralSearch.Proofs.WrittenResults
import StructuralSearch.Proofs.Comments
import StructuralSearch.Proofs.BuiltFields
import StructuralSearch.Proofs.TreeContents
import StructuralSearch.Proofs.TokenPlaces
import StructuralSearch.Proofs.NestedClaims
import StructuralSearch.Proofs.WrappedWildcards
import StructuralSearch.Proofs.QueryRuns
import StructuralSearch.Proofs.ExpressionMatches
import StructuralSearch.Proofs.PatternExpressions
import StructuralSearch.Proofs.TextOccurrences
import StructuralSearch.Proofs.SharedTally
import StructuralSearch.Proofs.AppendedCode
import StructuralSearch.Proofs.LinePositions
import StructuralSearch.Proofs.FirstFaults
import StructuralSearch.Proofs.FaultPlaces
import StructuralSearch.Proofs.FoldedPatterns
import StructuralSearch.Proofs.FoldedMatching
import StructuralSearch.Proofs.PatternSources
import StructuralSearch.Proofs.FileCounts
import StructuralSearch.Proofs.OverlookedChanges
import StructuralSearch.Proofs.LetterCase
