import Guiying.Core.EventBuffer
import Guiying.Core.PathRef
import Guiying.Core.Ticket

/-!
# Stream events

What a session hands to its sink, and how large an event is estimated to be. The
trust scope, which has a single value, is left out.
-/

namespace Guiying.Core

open Guiying.Foundation Guiying.Foundation.ByteString Guiying.Foundation.MachineInt

/-! ## Observations -/

inductive MediaKind where
  | image
  | rawImage
  | video
  deriving DecidableEq

structure FileTimestamp where
  seconds : Int
  nanoseconds : Nat
  deriving DecidableEq

structure FileId where
  device : Nat
  inode : Nat
  deriving DecidableEq

structure FileObservation where
  rootIndex : Nat
  rootRelativePath : PathRef
  path : PathRef
  mediaKind : MediaKind
  size : Nat
  allocatedSize : Option Nat
  observedAccessed : Option FileTimestamp
  modified : Option FileTimestamp
  created : Option FileTimestamp
  changeTime : Option FileTimestamp
  fileId : Option FileId
  generation : Option Nat
  mode : Option Nat
  hardLinkCount : Option Nat
  sourceSignature : Bytes32
  ticket : OpaqueTicket
  deriving DecidableEq

structure DirectoryObservation where
  rootIndex : Nat
  rootRelativePath : PathRef
  path : PathRef
  size : Nat
  allocatedSize : Option Nat
  observedAccessed : Option FileTimestamp
  modified : Option FileTimestamp
  created : Option FileTimestamp
  changeTime : Option FileTimestamp
  fileId : Option FileId
  generation : Option Nat
  mode : Option Nat
  hardLinkCount : Option Nat
  sourceSignature : Bytes32
  ticket : OpaqueTicket
  deriving DecidableEq

inductive StreamRootKind where
  | directory
  | regularFile
  deriving DecidableEq

structure StreamRootObservation where
  rootIndex : Nat
  path : PathRef
  kind : StreamRootKind
  size : Nat
  allocatedSize : Option Nat
  observedAccessed : Option FileTimestamp
  fileId : Option FileId
  generation : Option Nat
  mode : Option Nat
  hardLinkCount : Option Nat
  created : Option FileTimestamp
  modified : Option FileTimestamp
  changeTime : Option FileTimestamp
  sourceSignature : Bytes32
  deriving DecidableEq

/-! ## Issues -/

inductive ScanIssueCode where
  | symlinkSkipped
  | crossFilesystemSkipped
  | directoryIdentityAlreadyVisited
  | directoryExcluded
  | metadataUnreadable
  | directoryUnreadable
  | directoryChangedDuringScan
  | directoryDepthLimitReached
  | unsupportedFileType
  | fileUnreadable
  | changedDuringScan
  | exactVerificationFailed
  | hashCollisionDetected
  | rootChangedDuringScan
  deriving DecidableEq

structure ScanIssue where
  code : ScanIssueCode
  path : PathRef
  detail : List UInt8
  deriving DecidableEq

/-! ## Progress and evidence -/

inductive ProgressStage where
  | enumerating
  | sampling
  | fullHashing
  | exactComparing
  | complete
  deriving DecidableEq

structure ScanProgress where
  stage : ProgressStage
  completed : Nat
  total : Option Nat
  currentPath : Option PathRef
  deriving DecidableEq

inductive FreshReadOrigin where
  | currentSessionSample
  | currentSessionFullHash
  deriving DecidableEq

structure PendingFreshFingerprint where
  path : PathRef
  digest : Bytes32
  parametersHash : Bytes32
  expectedLength : Nat
  bytesRead : Nat
  eofVerified : Bool
  beforeSourceSignature : Bytes32
  afterSourceSignature : Bytes32
  deriving DecidableEq

structure FreshFingerprintEvidence extends PendingFreshFingerprint where
  sessionId : Bytes32
  observationTicketId : Bytes32
  readOrigin : FreshReadOrigin
  algorithm : List UInt8
  algorithmVersion : Nat
  deriving DecidableEq

structure PendingExactEvidence where
  leftPath : PathRef
  rightPath : PathRef
  leftExpectedLength : Nat
  rightExpectedLength : Nat
  bytesCompared : Nat
  identical : Bool
  eofVerified : Bool
  leftDigest : Option Bytes32
  rightDigest : Option Bytes32
  leftBeforeSourceSignature : Bytes32
  leftAfterSourceSignature : Bytes32
  rightBeforeSourceSignature : Bytes32
  rightAfterSourceSignature : Bytes32
  deriving DecidableEq

structure ExactComparisonEvidence extends PendingExactEvidence where
  sessionId : Bytes32
  leftObservationTicketId : Bytes32
  rightObservationTicketId : Bytes32
  digestAlgorithm : List UInt8
  digestAlgorithmVersion : Nat
  digestParametersHash : Bytes32
  deriving DecidableEq

def fullHashParametersHash (digests : Digests) : Bytes32 :=
  digests.hash (asciiBytes "guiying.blake3-full-content.v1" ++ [0])

structure CoverageSeal where
  sessionId : Bytes32
  directoryObservations : Nat
  directoryManifestDigest : Bytes32
  sealDigest : Bytes32
  deriving DecidableEq

/-! ## Outcomes -/

inductive StreamBatchStatus where
  | inProgress
  | completed
  | partialScan
  | paused
  | cancelled
  | interrupted
  deriving DecidableEq

/-- The counters an enumeration moves; those of the later stages stay zero in a stream. -/
structure ScanStats where
  entriesSeen : Nat
  mediaFiles : Nat
  nonMediaFilesSkipped : Nat
  symlinksSkipped : Nat
  specialFilesSkipped : Nat
  crossFilesystemDirectoriesSkipped : Nat
  crossFilesystemFilesSkipped : Nat
  directoryDepthLimitSkipped : Nat
  directoryIdentityRevisitsSkipped : Nat
  excludedDirectoriesSkipped : Nat
  issues : Nat
  deriving DecidableEq

/-- `consumed` counts the complete entries of the call, `stats` those of the session. -/
structure StreamingEnumerationOutcome where
  status : StreamBatchStatus
  consumed : Nat
  stats : ScanStats
  directoryObservations : Nat
  deriving DecidableEq

inductive StreamEvent where
  | rootObservation (observation : StreamRootObservation)
  | fileObservation (observation : FileObservation)
  | directoryObservation (observation : DirectoryObservation)
  | issue (issue : ScanIssue)
  | progress (progress : ScanProgress)
  | freshFingerprint (evidence : FreshFingerprintEvidence)
  | exactComparison (evidence : ExactComparisonEvidence)
  | enumerationFinished (outcome : StreamingEnumerationOutcome)
  | coverageVerified (coverageSeal : CoverageSeal)
  deriving DecidableEq

/-! ## Sizes -/

/-- `usize::saturating_add`. -/
def addSize (left right : Nat) : Nat := saturatingAdd u64Bound left right

def pathRefBytes (path : PathRef) : Nat :=
  addSize (addSize path.display.length path.rawBase64.length) 32

def eventBaseBytes : Nat := 128

def estimatedEventBytes : StreamEvent → Nat
  | .rootObservation observation => addSize eventBaseBytes (pathRefBytes observation.path)
  | .fileObservation observation =>
      addSize (addSize (addSize eventBaseBytes (pathRefBytes observation.path))
        (pathRefBytes observation.rootRelativePath)) observation.ticket.bytes.length
  | .directoryObservation observation =>
      addSize (addSize (addSize eventBaseBytes (pathRefBytes observation.path))
        (pathRefBytes observation.rootRelativePath)) observation.ticket.bytes.length
  | .issue issue => addSize (addSize eventBaseBytes (pathRefBytes issue.path)) issue.detail.length
  | .progress progress =>
      addSize eventBaseBytes ((progress.currentPath.map pathRefBytes).getD 0)
  | .freshFingerprint evidence => addSize eventBaseBytes (pathRefBytes evidence.path)
  | .exactComparison evidence =>
      addSize (addSize eventBaseBytes (pathRefBytes evidence.leftPath))
        (pathRefBytes evidence.rightPath)
  | .enumerationFinished _ | .coverageVerified _ => eventBaseBytes

end Guiying.Core
