import Guiying.Store.RepositoryTx

/-!
# The digests of scan control

The byte strings that are hashed for a lease, for the evidence recorded under it
and for the checkpoint of a pause. The hash itself is a parameter.
-/

namespace Guiying.Store

open Guiying.Foundation ByteString

/-- `to_le_bytes` of an `i64`. -/
def i64Bytes (value : Int) : List UInt8 := leBytes 8 (value % 2 ^ 64).toNat

def lengthPrefixed (bytes : List UInt8) : List UInt8 := leBytes 8 bytes.length ++ bytes

def charBytes (text : List Char) : List UInt8 := text.flatMap String.utf8EncodeChar

variable (hash : List UInt8 → Bytes32)

def computeRuntimeWorkPlanDigest (session : RunSessionRow) (core : CoreSessionRow)
    (runtimeLeaseKey coreSessionId : Bytes32) : Bytes32 :=
  hash (asciiBytes "guiying.runtime-work-plan.v1\x00" ++
    [session.volumeId, session.scanRunId, session.scanJobId, session.capabilityProfileId,
      session.namespaceProfileId].flatMap i64Bytes ++
    [runtimeLeaseKey.bytes, coreSessionId.bytes, charBytes (lowerHex session.mountSessionKey).toList,
      session.mountRelativeRootRaw, charBytes session.pathEncoding.toList,
      session.stableRootPathKey.bytes, session.rootScopeKey.bytes, session.rootObjectSignature.bytes,
      core.rootSourceSignature.bytes].flatMap lengthPrefixed)

def emptyRuntimeEvidenceDigest (kind : String) (workPlanDigest : Bytes32) : Bytes32 :=
  hash (asciiBytes "guiying.runtime-evidence-empty.v1\x00" ++ asciiBytes kind ++ workPlanDigest.bytes)

def combineRuntimeEvidenceDigests (workPlanDigest : Bytes32) (directoryCount : Int)
    (directoryDigest : Bytes32) (fileCount : Int) (fileDigest : Bytes32) : Bytes32 :=
  hash (asciiBytes "guiying.runtime-evidence-combined.v1\x00" ++ workPlanDigest.bytes ++
    i64Bytes directoryCount ++ directoryDigest.bytes ++ i64Bytes fileCount ++ fileDigest.bytes)

def advanceRuntimeEvidenceDigest (previous : Bytes32) (kind : String) (evidenceId : Int)
    (sourceSignature ticketSortKey : Bytes32) (objectSignature : Option Bytes32) : Bytes32 :=
  hash (asciiBytes "guiying.runtime-evidence-step.v1\x00" ++ previous.bytes ++ asciiBytes kind ++
    i64Bytes 1 ++ i64Bytes evidenceId ++ lengthPrefixed sourceSignature.bytes ++
    lengthPrefixed ticketSortKey.bytes ++
    match objectSignature with
    | some signature => [1] ++ lengthPrefixed signature.bytes
    | none => [0])

def validTicketSortKey (ticketBlob : List UInt8) (ticketSortKey : Bytes32) : Bool :=
  hash (asciiBytes "guiying.core-ticket-id.v1\x00" ++ ticketBlob) = ticketSortKey

/-! ## The payload of a pause -/

structure PauseCheckpointInput where
  pauseRequestId : Int
  pauseRequestKey : Bytes32
  expectedGeneration : Option Int
  writeKey : Bytes32
  cursor : PauseCheckpointCursor
  expectedJobStateVersion : Int
  expectedRunStateVersion : Int
  discoveredCount : Int
  fingerprintedCount : Int
  errorCount : Int
  logicalBytesSeen : Int
  savedAtMs : Int
  deriving DecidableEq

/-- The canonical JSON text of a cursor: its keys in order. -/
def cursorJson (cursor : PauseCheckpointCursor) : List Char :=
  "\x7b\"next_directory_ordinal\":".toList ++ Decimal.text cursor.nextDirectoryOrdinal ++
    ",\"next_file_ordinal\":".toList ++ Decimal.text cursor.nextFileOrdinal ++
    ",\"stage\":\"enumeration\"\x7d".toList

/-- The numbers that the digest of a payload begins with. -/
def pausePayloadNumbers (input : PauseCheckpointInput)
    (acknowledgedAtMs jobStateVersion runStateVersion generation : Int) : List Int :=
  [input.pauseRequestId, input.expectedGeneration.getD 0, input.expectedJobStateVersion,
    input.expectedRunStateVersion, jobStateVersion, runStateVersion, generation,
    input.discoveredCount, input.fingerprintedCount, input.errorCount, input.logicalBytesSeen,
    input.savedAtMs, acknowledgedAtMs]

def pausePayloadBytes (input : PauseCheckpointInput)
    (acknowledgedAtMs jobStateVersion runStateVersion generation : Int) : List UInt8 :=
  asciiBytes "guiying.pause-checkpoint-payload.v1\x00" ++
    (pausePayloadNumbers input acknowledgedAtMs jobStateVersion runStateVersion
      generation).flatMap i64Bytes ++
    input.pauseRequestKey.bytes ++ input.writeKey.bytes ++
    lengthPrefixed (charBytes (cursorJson input.cursor))

def pauseCheckpointPayloadDigest (input : PauseCheckpointInput)
    (acknowledgedAtMs jobStateVersion runStateVersion generation : Int) : Bytes32 :=
  hash (pausePayloadBytes input acknowledgedAtMs jobStateVersion runStateVersion generation)

end Guiying.Store
