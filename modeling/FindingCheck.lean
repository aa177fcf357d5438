import FindingCheck.Assertion
import FindingCheck.Check
import FindingCheck.Comparison
import FindingCheck.Corpus
import FindingCheck.Diagnostic
import FindingCheck.Diagnostic.Dump
import FindingCheck.Event
import FindingCheck.Expectation
import FindingCheck.Fact
import FindingCheck.Failure
import FindingCheck.Files
import FindingCheck.Files.Tree
import FindingCheck.Files.Tree.Access
import FindingCheck.Files.Tree.Walk
import FindingCheck.Finding
import FindingCheck.Json.Document
import FindingCheck.Json.Token
import FindingCheck.Json.Value
import FindingCheck.Main
import FindingCheck.Matching
import FindingCheck.Mode
import FindingCheck.Options
import FindingCheck.Path
import FindingCheck.Pattern
import FindingCheck.Pattern.Search
import FindingCheck.Pattern.Written
import FindingCheck.Program
import FindingCheck.Proofs.AssertionOrder
import FindingCheck.Proofs.AssertionOrder.Laws
import FindingCheck.Proofs.Checking
import FindingCheck.Proofs.Checking.Accounts
import FindingCheck.Proofs.Checking.ExplainedFailures
import FindingCheck.Proofs.Checking.FileOrder
import FindingCheck.Proofs.Checking.Independence
import FindingCheck.Proofs.Checking.OneWay
import FindingCheck.Proofs.Checking.Partition
import FindingCheck.Proofs.Checking.Recorded
import FindingCheck.Proofs.Checking.Reordering
import FindingCheck.Proofs.Checking.Replay
import FindingCheck.Proofs.Comparison
import FindingCheck.Proofs.Comparison.Agreement
import FindingCheck.Proofs.Comparison.Counts
import FindingCheck.Proofs.Comparison.Occurrences
import FindingCheck.Proofs.Comparison.Tables
import FindingCheck.Proofs.Discovery
import FindingCheck.Proofs.Discovery.Grouping
import FindingCheck.Proofs.Discovery.Sources
import FindingCheck.Proofs.Files.Listing
import FindingCheck.Proofs.Files.LongPaths
import FindingCheck.Proofs.Files.Making
import FindingCheck.Proofs.Files.Plain
import FindingCheck.Proofs.Files.Seen
import FindingCheck.Proofs.Files.Walk
import FindingCheck.Proofs.GrowingVocabulary
import FindingCheck.Proofs.MatchedReport
import FindingCheck.Proofs.Matching
import FindingCheck.Proofs.Matching.Counting
import FindingCheck.Proofs.Matching.EqualExpectations
import FindingCheck.Proofs.Matching.LineByLine
import FindingCheck.Proofs.Matching.OneMore
import FindingCheck.Proofs.Matching.Outcomes
import FindingCheck.Proofs.Matching.Pairing
import FindingCheck.Proofs.Matching.Renumbering
import FindingCheck.Proofs.Matching.Reordering
import FindingCheck.Proofs.Matching.Shifted
import FindingCheck.Proofs.Paths
import FindingCheck.Proofs.Patterns
import FindingCheck.Proofs.Patterns.Best
import FindingCheck.Proofs.Patterns.Shapes
import FindingCheck.Proofs.Reading.Acceptance
import FindingCheck.Proofs.Reading.Attached
import FindingCheck.Proofs.Reading.BlockAbove
import FindingCheck.Proofs.Reading.Calls
import FindingCheck.Proofs.Reading.DefectOrder
import FindingCheck.Proofs.Reading.DefectPlaces
import FindingCheck.Proofs.Reading.Defects
import FindingCheck.Proofs.Reading.Expectations
import FindingCheck.Proofs.Reading.Meanings
import FindingCheck.Proofs.Reading.NamedTests
import FindingCheck.Proofs.Reading.Relaid
import FindingCheck.Proofs.Reading.Renumbering
import FindingCheck.Proofs.Reading.Runs
import FindingCheck.Proofs.Reading.Shifted
import FindingCheck.Proofs.Reading.TestNames
import FindingCheck.Proofs.Reading.Vocabulary
import FindingCheck.Proofs.Repetitions
import FindingCheck.Proofs.Report.Combining
import FindingCheck.Proofs.Report.FailuresByFile
import FindingCheck.Proofs.Report.LineKinds
import FindingCheck.Proofs.Report.Normalized
import FindingCheck.Proofs.Report.Occurrences
import FindingCheck.Proofs.Report.Place
import FindingCheck.Proofs.Report.ReadBack
import FindingCheck.Proofs.Report.Rearranged
import FindingCheck.Proofs.Report.Returns
import FindingCheck.Proofs.Report.RoundTrip
import FindingCheck.Proofs.Report.ShortestFile
import FindingCheck.Proofs.Report.Statements
import FindingCheck.Proofs.Running
import FindingCheck.Proofs.Running.Changes
import FindingCheck.Proofs.Running.Repeated
import FindingCheck.Proofs.StableSort
import FindingCheck.Proofs.StandardForms
import FindingCheck.Proofs.StoredReport
import FindingCheck.Proofs.Traversal
import FindingCheck.Proofs.WrittenLines
import FindingCheck.Reading
import FindingCheck.Reading.Block
import FindingCheck.Reading.Defect
import FindingCheck.Reading.Layout
import FindingCheck.Report
import FindingCheck.Report.Parse
import FindingCheck.Report.Render
import FindingCheck.Sorting
import FindingCheck.Text.Blank
import FindingCheck.Text.Decimal
import FindingCheck.Text.Lines
import FindingCheck.Text.Printable
import FindingCheck.Text.Quoted
import FindingCheck.Text.Ranges
import FindingCheck.Text.Tenths
import FindingCheck.Text.WordChar
import FindingCheck.Vocabulary
