import Guiying.Foundation.Outcome
import Guiying.Foundation.MachineInt
import Guiying.Foundation.OrderedMap
import Guiying.Foundation.Utf8
import Guiying.Foundation.Windows
import Guiying.Metadata.Report
import Guiying.Time.Parse
import Guiying.Time.Evidence
import Guiying.Time.Policy.Checks
import Guiying.Time.Policy.Atoms
import Guiying.Time.Policy.Conflicts
import Guiying.Time.Policy.Candidates
import Guiying.Time.Policy.Analyze
import Guiying.Time.Policy.Visit
import Guiying.Time.Policy.Disagreement
import Guiying.Time.Policy.Bounds
import Guiying.Time.Policy.Merge
import Guiying.Time.Policy.StrongValue
import Guiying.Time.Policy.Soundness
import Guiying.Time.Policy.Unique
import Guiying.Time.Policy.Strict
import Guiying.Time.Policy.Reindex
import Guiying.Time.Policy.Order
import Guiying.Time.Policy.Copies
import Guiying.Time.Policy.RaisedIssues
import Guiying.Core.Partition
import Guiying.Core.PartitionClasses
import Guiying.Foundation.ByteCursor
import Guiying.Core.Ticket
import Guiying.Core.TicketRoundTrip
import Guiying.Core.EventBuffer
import Guiying.Core.StreamEvent
import Guiying.Foundation.Program
import Guiying.Export.Cancellation
import Guiying.Export.Directory
import Guiying.Export.World
import Guiying.Export.Encoder
import Guiying.Export.Target
import Guiying.Export.WriteExport
import Guiying.Export.PublishRun
import Guiying.Export.NoTrace
import Guiying.Export.EncoderReturns
import Guiying.Export.LinkReached
import Guiying.Foundation.Machine
import Guiying.Desktop.Gates
import Guiying.Desktop.Exclusion
import Guiying.Desktop.ScanJob
import Guiying.Desktop.ScanWorker
import Guiying.Desktop.ScanLife
import Guiying.Desktop.ScanControl
import Guiying.Desktop.ScanRuns
import Guiying.Desktop.ScanSafety
import Guiying.Desktop.ResultReads
import Guiying.Desktop.HistoryExports
import Guiying.Desktop.WindowGrants
import Guiying.Desktop.WindowClose
import Guiying.Desktop.WindowFacts
import Guiying.Desktop.WindowSteps
import Guiying.Desktop.WindowRevoked
import Guiying.Desktop.ClosedWindow
import Guiying.Foundation.Decimal
import Guiying.Foundation.SqlNumber
import Guiying.Store.Error
import Guiying.Store.CaptureTime
import Guiying.Store.MemberTimes
import Guiying.Store.MemberInsert
import Guiying.Runtime.TimeBridge
import Guiying.Runtime.MemberTimesAgree
import Guiying.Runtime.StoreTakes
import Guiying.Foundation.Table
import Guiying.Foundation.Numbered
import Guiying.Store.ControlTables
import Guiying.Store.ControlGuards
import Guiying.Store.RepositoryTx
import Guiying.Store.ControlDigests
import Guiying.Store.ScanControl
import Guiying.Store.ControlFacts
import Guiying.Store.StoredTimes
import Guiying.Store.WriteTransaction
import Guiying.Store.ControlSteps
import Guiying.Store.ControlOutcomes
import Guiying.Store.TwoClocks
import Guiying.Store.TransactionEffects
import Guiying.Store.AllOrNothing
import Guiying.Store.ClockRollback
import Guiying.Store.ControlOrder
import Guiying.Store.LeaseProtocol
import Guiying.Store.ProtocolSteps
import Guiying.Desktop.KeeperSuggestion
import Guiying.Foundation.Reservation
import Guiying.Desktop.ResultReservation
import Guiying.Quarantine.FileTree
import Guiying.Quarantine.Binding
import Guiying.Quarantine.MoveMember
import Guiying.Quarantine.MoveSafety
import Guiying.Quarantine.Manifest
import Guiying.Quarantine.RestoreFile
import Guiying.Quarantine.RestoreOperation
import Guiying.Foundation.Utf16
import Guiying.Volume.Path
import Guiying.Volume.MountRelativePath
import Guiying.Volume.Combine
import Guiying.Store.PathRelation
import Guiying.Foundation.PrefixCode
import Guiying.Store.EvidenceDigests
import Guiying.Store.DigestCodes
import Guiying.Store.ChainCodes
import Guiying.Foundation.HashChain
import Guiying.Store.EvidenceEncodings
import Guiying.Foundation.Keyset
import Guiying.Foundation.Json
import Guiying.Store.HistoryRecords
import Guiying.Foundation.CivilCalendar
import Guiying.Time.CalendarOrder
import Guiying.Foundation.FixedDigits
import Guiying.Time.TimestampGrammar
import Guiying.Time.TimestampParsers
import Guiying.Time.TimestampPrinting
import Guiying.Time.TimestampTotal
import Guiying.Core.SampleLayout
import Guiying.Foundation.Separated
import Guiying.Volume.Components
import Guiying.Core.EventBatches
import Guiying.Time.Policy.Provenance
import Guiying.Time.Policy.CopyIssues
import Guiying.Time.Policy.CopyPasses
import Guiying.Time.Policy.IssueCeiling
import Guiying.Metadata.Reader
import Guiying.Metadata.HonestReads
import Guiying.Metadata.ItemLocation
import Guiying.Metadata.IlocTable
import Guiying.Metadata.Tiff
import Guiying.Foundation.TwoRuns
import Guiying.Metadata.TiffAlone
import Guiying.Metadata.Jpeg
import Guiying.Metadata.Extract
import Guiying.Metadata.TiffRounds
import Guiying.Metadata.JpegIsolation
import Guiying.Core.FileReader
import Guiying.Metadata.Bmff
import Guiying.Metadata.BmffWalk
import Guiying.Metadata.WalksEnd
import Guiying.Foundation.FirstDifference
import Guiying.Core.CompareFiles
import Guiying.Core.CompareRuns
import Guiying.Core.HashReads
import Guiying.Core.HashRuns
import Guiying.Core.ReadsAgree
import Guiying.Store.Replays
import Guiying.Store.ScanControlLaw
import Guiying.Metadata.FaithfulLocators
import Guiying.Metadata.SameReports
import Guiying.Time.Policy.ExtractorReports
import Guiying.Export.PublishedRecords
import Guiying.Export.HistoryRows
import Guiying.Export.HistorySnapshot
import Guiying.Export.HistoryStream
import Guiying.Export.HistoryBatches
import Guiying.Export.RedactedExport
