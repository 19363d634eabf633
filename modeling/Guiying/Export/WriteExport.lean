import Guiying.Export.Target

/-!
# Writing an export

The worker of one export: the snapshot of the store is encoded into the private
temporary file, and the commit is made under the mutex of the cancellation. The
temporary file is dropped on every way out.
-/

namespace Guiying.Export

open Guiying.Foundation

inductive CallbackFailure where
  | cancelled
  | deadline
  | outputLimit
  | write
  | encode
  deriving DecidableEq, Repr

def callbackFailureFromTarget : ExportTargetError → CallbackFailure
  | .cancelled => .cancelled
  | .deadlineExceeded => .deadline
  | .outputLimitExceeded => .outputLimit
  | .encodeFailed => .encode
  | _ => .write

def mapCallbackFailure : CallbackFailure → ExportTargetError
  | .cancelled => .cancelled
  | .deadline => .deadlineExceeded
  | .outputLimit => .outputLimitExceeded
  | .write => .writeFailed
  | .encode => .encodeFailed

structure ExportArtifact where
  fileName : List UInt8
  bytesWritten : Nat
  recordCount : Nat
  logicalDigest : List UInt8
  publicationStatus : String
  warningCode : Option String
  deriving DecidableEq, Repr

/-- One page of the snapshot, as `next_batch` meets it. A batch is checked against the deadline
once more before it is handed out; `rejected` is a page refused after that check. -/
inductive StorePage (ρ : Type) where
  | empty
  | batch (records : List ρ)
  | refused
  | rejected
  deriving Repr

/-- The answers of the store: the expected record count, the pages, and how the read ends. -/
structure StoreRun (ρ : Type) where
  opening : Option Nat
  pages : List (StorePage ρ)
  closing : Bool
  deriving Repr

def StorePage.records {ρ : Type} : StorePage ρ → List ρ
  | .batch records => records
  | _ => []

def StoreRun.records {ρ : Type} (store : StoreRun ρ) : List ρ := store.pages.flatMap (·.records)

/-- `ExportControl::check`: cancel calls may come before it, and the flag is read first. -/
def check (calls : Calls) : Program World CallbackFailure PUnit := fun world =>
  let after := world.arrive calls.cancels
  if after.history.cells.isCancelled then (.error .cancelled, after)
  else if calls.expired world.looks then (.error .deadline, after)
  else (.ok ⟨⟩, after)

/-- `ExportCancellation::commit_link`: the mutex is held from the look to the commit. -/
def commitLink (calls : Calls) (operation : ExportM Bool) : ExportM Bool := do
  Program.update fun world => world.arrive calls.cancels
  let world ← Program.current
  Program.ensure (world.history.cells.commitState = .openToCancel) .publishFailed
  Program.ensure (!world.history.cells.cancelled) .cancelled
  let committed ← operation
  Program.update fun world => { world with history := world.history.commit }
  pure committed

/-! ## The snapshot callback

Its error is the recorded callback failure, or nothing when the store itself fails. -/

abbrev CallbackM := Program World (Option CallbackFailure)

def callbackCheck (calls : Calls) : CallbackM PUnit := Program.mapError some (check calls)

def encoding {α : Type} (program : ExportM α) : CallbackM α :=
  Program.mapError (fun error => some (callbackFailureFromTarget error)) program

section Store

variable {ρ : Type} (toVec : ρ → Option (List UInt8)) (calls : Calls)

def writeBatch : List ρ → ExportEncoder → CallbackM ExportEncoder
  | [], encoder => pure encoder
  | record :: rest, encoder => do
      callbackCheck calls
      let encoder ← encoding (encoder.writeRecord (toVec record))
      writeBatch rest encoder

def writePages : List (StorePage ρ) → ExportEncoder → CallbackM ExportEncoder
  | [], encoder => do
      callbackCheck calls
      pure encoder
  | page :: rest, encoder => do
      callbackCheck calls
      match page with
      | .empty => writePages rest encoder
      | .refused => Program.fail none
      | .rejected =>
          callbackCheck calls
          Program.fail none
      | .batch records =>
          callbackCheck calls
          let encoder ← writeBatch toVec calls records encoder
          writePages rest encoder

/-- `with_scan_history_export_snapshot` around the encoder. -/
def withScanHistoryExportSnapshot (blake3 : List UInt8 → List UInt8) (store : StoreRun ρ)
    (format : ExportFormat) (request : HistoryExportRequest) (temp : OwnedTemp) :
    CallbackM EncoderResult := do
  let limits := ExportLimits.forScope request.scope
  let expected ← Program.orFail none store.opening
  Program.ensure (expected ≤ limits.maxRecords) none
  let file ← Program.orFail none temp.file
  let encoder ← encoding
    (ExportEncoder.begin file format request expected limits.maxOutputBytes)
  let encoder ← writePages toVec calls store.pages encoder
  let result ← encoding (encoder.finish blake3 calls.encoderFlush)
  Program.ensure store.closing none
  pure result

def storeError : Option CallbackFailure → ExportTargetError
  | some failure => mapCallbackFailure failure
  | none => .storeFailed

/-- What follows the creation of the temporary file. -/
def publish (blake3 : List UInt8 → List UInt8) (store : StoreRun ρ) (format : ExportFormat)
    (request : HistoryExportRequest) (target : BoundExportTarget) (temp : OwnedTemp) :
    ExportM ExportArtifact := do
  let result ← Program.mapError storeError
    (withScanHistoryExportSnapshot toVec calls blake3 store format request temp)
  Program.mapError mapCallbackFailure (check calls)
  temp.flushAndSync calls
  temp.revalidate calls.effectiveUid calls.verifyBeforeCommit target
  Program.mapError mapCallbackFailure (check calls)
  let identityVerified ← commitLink calls (target.commitLink calls temp)
  let publication ← target.finishCommitted calls temp identityVerified
  pure ⟨target.displayFileName, result.bytesWritten, result.recordCount, result.logicalDigest,
    publication.status, publication.warningCode⟩

def writeHistoryExport (blake3 : List UInt8 → List UInt8) (store : StoreRun ρ)
    (format : ExportFormat) (request : HistoryExportRequest) (target : BoundExportTarget) :
    ExportM ExportArtifact := do
  Program.ensure calls.deadlineFits .deadlineExceeded
  Program.mapError mapCallbackFailure (check calls)
  let temp ← target.createTemp calls
  Program.withCleanup (publish toVec calls blake3 store format request target temp)
    (temp.drop calls.tempAtDrop)

/-- A whole export: the cancel calls that come after its end are part of it. -/
def exportRun (blake3 : List UInt8 → List UInt8) (store : StoreRun ρ) (format : ExportFormat)
    (request : HistoryExportRequest) (target : BoundExportTarget) (directory : Directory)
    (writes : List WriteAnswer) : Except ExportTargetError ExportArtifact × World :=
  let ended := writeHistoryExport toVec calls blake3 store format request target
    (.start directory writes)
  (ended.1, ended.2.arrive calls.cancels)

end Store

end Guiying.Export
