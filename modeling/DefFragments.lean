import DefFragments.Announcement
import DefFragments.CommandLine.Arguments
import DefFragments.CommandLine.Execute
import DefFragments.Conditional.Directive
import DefFragments.Conditional.Stack
import DefFragments.Config.Basic
import DefFragments.Config.Decode
import DefFragments.Config.Selection
import DefFragments.Effect
import DefFragments.Failure
import DefFragments.FileTree.Basic
import DefFragments.FileTree.Change
import DefFragments.FileTree.Difference
import DefFragments.FileTree.Error
import DefFragments.FileTree.Faults
import DefFragments.FileTree.Listing
import DefFragments.FileTree.Walk
import DefFragments.Fragment.Entry
import DefFragments.Fragment.Fragments
import DefFragments.Fragment.Publication
import DefFragments.Generation.Run
import DefFragments.Generation.Staleness
import DefFragments.Library.Guard
import DefFragments.Library.Release
import DefFragments.Library.Resolution
import DefFragments.Log.Directive
import DefFragments.Log.Event
import DefFragments.Log.Filter
import DefFragments.Log.Pattern
import DefFragments.Main
import DefFragments.Marker.Constant
import DefFragments.Marker.Error
import DefFragments.Marker.Function
import DefFragments.Marker.Library
import DefFragments.Marker.Line
import DefFragments.Marker.ObjectType
import DefFragments.NameSet
import DefFragments.Path
import DefFragments.Proofs.CommandLine.Libraries
import DefFragments.Proofs.Conditional.Comparison
import DefFragments.Proofs.Conditional.Condition
import DefFragments.Proofs.Conditional.GuardCondition
import DefFragments.Proofs.Conditional.KeptParts
import DefFragments.Proofs.Conditional.Nesting
import DefFragments.Proofs.Conditional.OpenBlocks
import DefFragments.Proofs.Conditional.Preprocessor
import DefFragments.Proofs.Config.SelectedFiles
import DefFragments.Proofs.Config.Selection
import DefFragments.Proofs.FileTree.Changes
import DefFragments.Proofs.FileTree.Walks
import DefFragments.Proofs.Fragment.EntryLines
import DefFragments.Proofs.Fragment.LiveEntry
import DefFragments.Proofs.Fragment.OutputDirectory
import DefFragments.Proofs.Fragment.Publication
import DefFragments.Proofs.Fragment.Staging
import DefFragments.Proofs.Fragment.Unambiguous
import DefFragments.Proofs.Generation.Content
import DefFragments.Proofs.Generation.Dependence
import DefFragments.Proofs.Generation.Draft
import DefFragments.Proofs.Generation.Freshness
import DefFragments.Proofs.Generation.History
import DefFragments.Proofs.Generation.Repetition
import DefFragments.Proofs.Generation.Rollback
import DefFragments.Proofs.Library.Blocks
import DefFragments.Proofs.Library.FragmentLines
import DefFragments.Proofs.Library.GuardTerms
import DefFragments.Proofs.Library.GuardValue
import DefFragments.Proofs.Library.RoundTrip
import DefFragments.Proofs.Library.StackGuard
import DefFragments.Proofs.Library.Validity
import DefFragments.Proofs.Marker.Announcements
import DefFragments.Proofs.Marker.ConstantParts
import DefFragments.Proofs.Marker.FunctionParts
import DefFragments.Proofs.Marker.LibraryPlaces
import DefFragments.Proofs.Marker.TypeTokens
import DefFragments.Proofs.Path.Location
import DefFragments.Proofs.Source.Composition
import DefFragments.Proofs.Source.Entries
import DefFragments.Proofs.Source.Extraction
import DefFragments.Proofs.Source.Findings
import DefFragments.Proofs.Source.LineEnds
import DefFragments.Proofs.Source.Verdict
import DefFragments.Proofs.Text.ByteOrder
import DefFragments.Proofs.Text.Lines
import DefFragments.Proofs.Text.Number
import DefFragments.Proofs.Text.Runs
import DefFragments.Proofs.Text.TrailingBlanks
import DefFragments.Source.Scan
import DefFragments.Text.Affix
import DefFragments.Text.Alphanumeric
import DefFragments.Text.Blank
import DefFragments.Text.CodePoint
import DefFragments.Text.Lines
import DefFragments.Text.Lossy
import DefFragments.Text.Number
import DefFragments.Text.Quoted
import DefFragments.Text.Slice
import DefFragments.Text.WordChar
import DefFragments.Time.Basic
import DefFragments.Time.Calendar
import DefFragments.Toml.Document
import DefFragments.Toml.Quoted
import DefFragments.Toml.Scalar
import DefFragments.Toml.Value
import DefFragments.Proofs.Fragment.PublishedTexts
import DefFragments.Proofs.CommandLine.Reports
