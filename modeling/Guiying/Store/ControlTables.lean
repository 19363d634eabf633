import Guiying.Foundation.ByteString
import Guiying.Foundation.Table
import Guiying.Store.Error

/-!
# The tables of scan control

Runs and jobs, the sessions they are bound to, the runtime lease of a run, the
control requests made under it and the checkpoints of its pauses. Everything else
in the database is one value of a type that the operations here do not look into.
-/

namespace Guiying.Store

open Guiying.Foundation

inductive ScanRunState where
  | queued
  | running
  | paused
  | completed
  | failed
  | cancelled
  | interrupted
  deriving DecidableEq, Repr

def ScanRunState.asStr : ScanRunState → String
  | .queued => "queued"
  | .running => "running"
  | .paused => "paused"
  | .completed => "completed"
  | .failed => "failed"
  | .cancelled => "cancelled"
  | .interrupted => "interrupted"

inductive ScanJobState where
  | queued
  | running
  | paused
  | completed
  | failed
  | cancelled
  deriving DecidableEq, Repr

def ScanJobState.asStr : ScanJobState → String
  | .queued => "queued"
  | .running => "running"
  | .paused => "paused"
  | .completed => "completed"
  | .failed => "failed"
  | .cancelled => "cancelled"

structure ScanRunRow where
  id : Int
  volumeId : Int
  state : ScanRunState
  stateVersion : Int
  discoveredCount : Int
  fingerprintedCount : Int
  errorCount : Int
  logicalBytesSeen : Int
  startedAtMs : Option Int
  heartbeatAtMs : Option Int
  finishedAtMs : Option Int
  lastError : Option (String × String)
  createdAtMs : Int
  updatedAtMs : Int
  deriving DecidableEq, Repr

structure ScanJobRow where
  id : Int
  volumeId : Int
  state : ScanJobState
  stateVersion : Int
  activeScanRunId : Option Int
  createdAtMs : Int
  updatedAtMs : Int
  deriving DecidableEq, Repr

/-- The session of a run. `current` says whether the scope, the namespace and the capability profile
that the session names are still those a guard asks for. -/
structure RunSessionRow where
  scanRunId : Int
  volumeId : Int
  scanJobId : Int
  capabilityProfileId : Int
  namespaceProfileId : Int
  mountSessionKey : Bytes32
  mountRelativeRootRaw : List UInt8
  pathEncoding : String
  stableRootPathKey : Bytes32
  rootScopeKey : Bytes32
  rootObjectSignature : Bytes32
  createdAtMs : Int
  current : Bool
  deriving DecidableEq

structure CoreSessionRow where
  scanRunId : Int
  volumeId : Int
  capabilityProfileId : Int
  namespaceProfileId : Int
  coreSessionId : Bytes32
  rootObjectSignature : Bytes32
  rootSourceSignature : Bytes32
  boundAtMs : Int
  deriving DecidableEq

inductive LeaseState where
  | active
  | releasing
  | released
  deriving DecidableEq, Repr

inductive ReleaseReason where
  | completed
  | failed
  | cancelled
  | interrupted
  | processRestart
  deriving DecidableEq, Repr

structure RuntimeLeaseRow where
  scanRunId : Int
  volumeId : Int
  scanJobId : Int
  capabilityProfileId : Int
  namespaceProfileId : Int
  runtimeLeaseKey : Bytes32
  coreSessionId : Bytes32
  mountSessionKey : Bytes32
  workPlanDigest : Bytes32
  directoryEvidenceCount : Int
  fileEvidenceCount : Int
  directoryEvidenceDigest : Bytes32
  fileEvidenceDigest : Bytes32
  evidenceChainDigest : Bytes32
  state : LeaseState
  acquiredAtMs : Int
  lastHeartbeatAtMs : Int
  releaseReason : Option ReleaseReason
  releaseStartedAtMs : Option Int
  releasedAtMs : Option Int
  deriving DecidableEq

inductive ScanControlKind where
  | pause
  | resume
  | cancel
  deriving DecidableEq, Repr

inductive ScanControlDisposition where
  | pending
  | acknowledged
  | superseded
  | interrupted
  deriving DecidableEq, Repr

structure ControlRequestRow where
  id : Int
  requestKey : Bytes32
  scanRunId : Int
  volumeId : Int
  runtimeLeaseKey : Bytes32
  sequence : Int
  kind : ScanControlKind
  expectedJobStateVersion : Int
  expectedRunStateVersion : Int
  expectedCheckpointGeneration : Option Int
  disposition : ScanControlDisposition
  requestedAtMs : Int
  acknowledgedAtMs : Option Int
  ackJobStateVersion : Option Int
  ackRunStateVersion : Option Int
  ackCheckpointGeneration : Option Int
  ackReasonCode : Option String
  pauseCheckpointWriteKey : Option Bytes32
  pauseCheckpointPayloadDigest : Option Bytes32
  supersededByRequestId : Option Int
  deriving DecidableEq

/-- The place in the enumeration that a pause has reached. -/
structure PauseCheckpointCursor where
  nextDirectoryOrdinal : Nat
  nextFileOrdinal : Nat
  deriving DecidableEq, Repr

structure PauseCheckpointRow where
  scanRunId : Int
  volumeId : Int
  runtimeLeaseKey : Bytes32
  coreSessionId : Bytes32
  mountSessionKey : Bytes32
  pauseRequestId : Int
  pauseRequestKey : Bytes32
  generation : Int
  writeKey : Bytes32
  payloadDigest : Bytes32
  cursor : PauseCheckpointCursor
  workPlanDigest : Bytes32
  evidenceManifestDigest : Bytes32
  jobStateVersion : Int
  runStateVersion : Int
  discoveredCount : Int
  fingerprintedCount : Int
  errorCount : Int
  logicalBytesSeen : Int
  savedAtMs : Int
  deriving DecidableEq

/-- The primary key of a checkpoint: its run and its generation. -/
def PauseCheckpointRow.key (row : PauseCheckpointRow) : Int × Int := (row.scanRunId, row.generation)

structure Database (Rest : Type) where
  runs : Table ScanRunRow.id
  jobs : Table ScanJobRow.id
  sessions : Table RunSessionRow.scanRunId
  coreSessions : Table CoreSessionRow.scanRunId
  leases : Table RuntimeLeaseRow.scanRunId
  requests : Table ControlRequestRow.id
  checkpoints : Table PauseCheckpointRow.key
  /-- The runs with a seal of a stage, each named with the stage. -/
  stageSeals : List (Int × String)
  rest : Rest

namespace Database

variable {Rest : Type} (database : Database Rest)

/-! ## Look-ups -/

def requestsOf (scanRunId : Int) : List ControlRequestRow :=
  database.requests.rows.filter fun request => request.scanRunId = scanRunId

def checkpointsOf (scanRunId : Int) : List PauseCheckpointRow :=
  database.checkpoints.rows.filter fun checkpoint => checkpoint.scanRunId = scanRunId

def isPending (request : ControlRequestRow) : Bool := request.disposition = .pending

/-- Whether a request of the run is pending. -/
def hasPending (scanRunId : Int) : Bool := (database.requestsOf scanRunId).any isPending

/-- Whether a pending request of the run has the kind. -/
def hasPendingKind (scanRunId : Int) (kind : ScanControlKind) : Bool :=
  (database.requestsOf scanRunId).any fun request => isPending request && request.kind = kind

/-- `COALESCE(max(sequence), 0)` over the requests of a run. -/
def lastSequence (scanRunId : Int) : Int :=
  ((database.requestsOf scanRunId).map ControlRequestRow.sequence).foldl max 0

/-- `COALESCE(max(id), 0)` over all requests. -/
def lastRequestId : Int := (database.requests.rows.map ControlRequestRow.id).foldl max 0

/-- The checkpoint of a run with the highest generation. -/
def latestCheckpoint (scanRunId : Int) : Option PauseCheckpointRow :=
  highest PauseCheckpointRow.generation (database.checkpointsOf scanRunId)

/-- The acknowledged request of a run with the highest sequence. -/
def latestAcknowledged (scanRunId : Int) : Option ControlRequestRow :=
  highest ControlRequestRow.sequence ((database.requestsOf scanRunId).filter fun request =>
    request.disposition = .acknowledged)

def stageSealed (scanRunId : Int) (stage : String) : Bool := (scanRunId, stage) ∈ database.stageSeals

end Database

end Guiying.Store
