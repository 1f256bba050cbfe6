import SourceLocator.Main
import SourceLocator.Proofs.FailSafe
import SourceLocator.Proofs.ParsedText
import SourceLocator.Proofs.FileTrails
import SourceLocator.Proofs.FileWrites
import SourceLocator.Proofs.RunCourses
import SourceLocator.Proofs.AtomicOutput
import SourceLocator.Proofs.ReportedFaults
import SourceLocator.Proofs.Locating
import SourceLocator.Proofs.RangeAgreement
import SourceLocator.Proofs.ArgumentIntegers
import SourceLocator.Proofs.PathText
import SourceLocator.Proofs.SourceWalk
import SourceLocator.Proofs.WellTyped
import SourceLocator.Proofs.TotalRuns
import SourceLocator.Proofs.EndedLines
import SourceLocator.Proofs.LineCuts
import SourceLocator.Proofs.NestedTrees
import SourceLocator.Proofs.SourceOrder
import SourceLocator.Proofs.RowTrees
import SourceLocator.Proofs.NodeDisplay
import SourceLocator.Proofs.WayOrder
import SourceLocator.Proofs.PrunedWalk
import SourceLocator.Proofs.DepthFirst
import SourceLocator.Proofs.FileByFile
import SourceLocator.Proofs.JsonStrings
import SourceLocator.Proofs.JsonDocuments
import SourceLocator.Proofs.LosslessReport
import SourceLocator.Proofs.CompactForm
import SourceLocator.Proofs.TextReport
import SourceLocator.Proofs.WrittenPlaces
import SourceLocator.Proofs.VerboseArguments
import SourceLocator.Proofs.EmptiedFiles
import SourceLocator.Proofs.SilentLogging
import SourceLocator.Proofs.KeyPaths
import SourceLocator.Proofs.LetterCase
import SourceLocator.Proofs.LoadedConfig
import SourceLocator.Proofs.MergeLaws
import SourceLocator.Proofs.ParentChains
import SourceLocator.Proofs.DisplayOutcome
import SourceLocator.Proofs.AssignmentEffects
import SourceLocator.Proofs.TreeChains
import SourceLocator.Proofs.SearchEnds
import SourceLocator.Proofs.RowWalk
import SourceLocator.Proofs.CharAccounts
import SourceLocator.Proofs.JoinedTexts
import SourceLocator.Proofs.QuotedRanges
import SourceLocator.Proofs.SilentLogging
