import Guiying.Core.CompareFiles
import Guiying.Core.SampleLayout

/-!
# Hashing files

The full and the sampled hash of the batch scanner, and those of the streaming scanner.
-/

namespace Guiying.Core

open Guiying.Foundation Guiying.Foundation.ByteString Program

/-- A file being hashed, with the bytes read from it so far. -/
structure Hashing where
  reader : FileReader
  bytesRead : Nat
  hasher : Hasher

/-- Some more bytes were read, and fed to the hasher. -/
def Hashing.absorb (state : Hashing) (bytes : List UInt8) (next : FileReader) : Hashing where
  reader := next
  bytesRead := MachineInt.saturatingAdd MachineInt.u64Bound state.bytesRead bytes.length
  hasher := state.hasher.update bytes

/-! ## The batch scanner -/

inductive ReadHashError where
  | cancelled
  | io (source : IoError)
  | notRegular
  | changed

def mapStableOpen : StableOpenError → ReadHashError
  | .io source => .io source
  | .notRegular => .notRegular
  | .changed => .changed

/-- A failed read of a file that has changed is reported as the change. -/
def classifyReadError (binding : ComparisonAccess) (source : IoError) : ReadHashError :=
  match binding.unchangedAfterRead with
  | .ok false => .changed
  | .ok true | .error _ => .io source

def verifyUnchanged (binding : ComparisonAccess) : Except ReadHashError Unit :=
  match binding.unchangedAfterRead with
  | .ok true => .ok ()
  | .ok false => .error .changed
  | .error source => .error (.io source)

section Batch

variable (control : ScanControl)

/-- The reads up to the declared length, an interrupted one starting the round over. -/
def hashReaderLoop (expectedLength bufferBytes : Nat) :
    Nat → Hashing → Polling ReadHashError Hashing
  | 0, state => pure state
  | rounds + 1, state =>
      if state.bytesRead < expectedLength then do
        safePoint control .cancelled
        match state.reader.read (min (expectedLength - state.bytesRead) bufferBytes) with
        | (.ok [], _) => fail (.io (unexpectedEofError expectedLength state.bytesRead))
        | (.ok bytes, next) =>
            hashReaderLoop expectedLength bufferBytes rounds (state.absorb bytes next)
        | (.error error, next) =>
            if error.kind = .interrupted then
              hashReaderLoop expectedLength bufferBytes rounds { state with reader := next }
            else fail (.io error)
      else pure state

/-- The probe for the end, polled as the reads are. -/
def hashReaderProbe (expectedLength : Nat) : Nat → FileReader → Polling ReadHashError Unit
  | 0, _ => pure ()
  | rounds + 1, reader => do
      safePoint control .cancelled
      match reader.read 1 with
      | (.ok [], _) => pure ()
      | (.ok bytes, _) =>
          fail (.io ⟨.invalidData,
            s!"expected {expectedLength} bytes, then read {bytes.length} more"⟩)
      | (.error error, next) =>
          if error.kind = .interrupted then hashReaderProbe expectedLength rounds next
          else fail (.io error)

def hashReaderExact (digests : Digests) (hex : Bytes32 → String) (reader : FileReader)
    (expectedLength bufferBytes : Nat) : Polling ReadHashError (String × Nat) := do
  let state ← hashReaderLoop control expectedLength bufferBytes (reader.rounds expectedLength)
    ⟨reader, 0, .new⟩
  hashReaderProbe control expectedLength (state.reader.rounds 1) state.reader
  pure (hex (state.hasher.finalize digests), state.bytesRead)

def classifyHashError (binding : ComparisonAccess) : ReadHashError → ReadHashError
  | .io source => classifyReadError binding source
  | other => other

def fullHash (digests : Digests) (hex : Bytes32 → String) (binding : ComparisonAccess)
    (bufferBytes : Nat) : Polling ReadHashError (String × Nat) := do
  let file ← ofExcept (binding.open_.mapError mapStableOpen)
  let result ← mapError (classifyHashError binding)
    (hashReaderExact control digests hex (file.reader.seek 0) file.length bufferBytes)
  ofExcept (verifyUnchanged binding)
  pure result

/-- What a sampled hash starts with. -/
def sampleHeader (domain : String) (length sampleBytes : Nat) : Hasher :=
  ((Hasher.new.update (asciiBytes domain)).update (leBytes 8 length)).update
    (leBytes 8 (asU64 sampleBytes))

/-- Where a window starts, and its size. -/
def windowHeader (hasher : Hasher) (chunk offset : Nat) : Hasher :=
  (hasher.update (leBytes 8 offset)).update (leBytes 8 (asU64 chunk))

/-- The windows of a file, in turn. -/
def sampleFingerprintLoop (binding : ComparisonAccess) (chunk : Nat) :
    List Nat → Hashing → Polling ReadHashError Hashing
  | [], state => pure state
  | offset :: offsets, state => do
      safePoint control .cancelled
      let (bytes, next) ← ofExcept ((readExact (state.reader.seek offset) chunk).mapError
        (classifyReadError binding))
      let state := { state with hasher := windowHeader state.hasher chunk offset }
      sampleFingerprintLoop binding chunk offsets (state.absorb bytes next)

/-- A window layout has no result only where the source has no number for it. -/
def sampleFingerprint (digests : Digests) (hex : Bytes32 → String)
    (width : PointerWidth) (binding : ComparisonAccess) (sampleBytes : Nat) :
    Polling ReadHashError (Option (String × Nat)) := do
  let file ← ofExcept (binding.open_.mapError mapStableOpen)
  match sampleLayout width file.length sampleBytes with
  | none => pure none
  | some (chunk, offsets) => do
      let state ← sampleFingerprintLoop control binding chunk offsets
        ⟨file.reader, 0, sampleHeader "guiying-sample-v2\x00" file.length sampleBytes⟩
      ofExcept (verifyUnchanged binding)
      pure (some (hex (state.hasher.finalize digests), state.bytesRead))

end Batch

/-! ## The streaming scanner -/

inductive FreshReadError where
  | cancelled
  | io (source : IoError)
  | changed

def mapFreshOpenError : StableOpenError → FreshReadError
  | .io source => .io source
  | .notRegular | .changed => .changed

def mapCancelFreshError : CancelReadError → FreshReadError
  | .cancelled => .cancelled
  | .io source => .io source

section Streaming

variable (digests : Digests) (control : ScanControl)

def verifiedAfterSignature (opened : OpenedObservation) : Except FreshReadError Bytes32 :=
  match opened.signatureAfterRead with
  | .ok (some after) => .ok after
  | .ok none => .error .changed
  | .error source => .error (.io source)

/-- The windows of a file, in turn; the parameters are hashed apart. -/
def readSampleFreshLoop (chunk : Nat) :
    List Nat → Hashing × Hasher → Polling FreshReadError (Hashing × Hasher)
  | [], states => pure states
  | offset :: offsets, (state, parameters) => do
      safePoint control .cancelled
      let state := { state with hasher := windowHeader state.hasher chunk offset }
      let parameters := windowHeader parameters chunk offset
      let (bytes, next) ← mapError mapCancelFreshError
        (readExactCancel control (state.reader.seek offset) chunk)
      readSampleFreshLoop chunk offsets (state.absorb bytes next, parameters)

def readSampleFresh (width : PointerWidth) (opened : OpenedObservation) (sampleBytes : Nat) :
    Polling FreshReadError (Option PendingFreshFingerprint) := do
  let file ← ofExcept (opened.openStable.mapError mapFreshOpenError)
  match sampleLayout width file.length sampleBytes with
  | none => pure none
  | some (chunk, offsets) => do
      let (state, parameters) ← readSampleFreshLoop control chunk offsets
        (⟨file.reader, 0, sampleHeader "guiying-sample-v2\x00" file.length sampleBytes⟩,
          sampleHeader "guiying.sample-parameters.v2\x00" file.length sampleBytes)
      let after ← ofExcept (verifiedAfterSignature opened)
      pure (some {
        path := .fromPath opened.path
        digest := state.hasher.finalize digests
        parametersHash := parameters.finalize digests
        expectedLength := file.length
        bytesRead := state.bytesRead
        eofVerified := false
        beforeSourceSignature := opened.sourceSignature
        afterSourceSignature := after })

/-- The reads up to the declared length, each retried until it is not interrupted. -/
def readFullFreshLoop (expectedLength bufferBytes : Nat) :
    Nat → Hashing → Polling FreshReadError Hashing
  | 0, state => pure state
  | rounds + 1, state =>
      if state.bytesRead < expectedLength then do
        safePoint control .cancelled
        match readRetry state.reader (min (expectedLength - state.bytesRead) bufferBytes) with
        | (.ok [], _) => fail (.io (unexpectedEofError expectedLength state.bytesRead))
        | (.ok bytes, next) =>
            readFullFreshLoop expectedLength bufferBytes rounds (state.absorb bytes next)
        | (.error error, _) => fail (.io error)
      else pure state

def readFullFresh (opened : OpenedObservation) (bufferBytes : Nat) :
    Polling FreshReadError PendingFreshFingerprint := do
  let file ← ofExcept (opened.openStable.mapError mapFreshOpenError)
  let state ← readFullFreshLoop control file.length bufferBytes file.length
    ⟨file.reader.seek 0, 0, .new⟩
  let _ ← ofExcept ((ensureEof state.reader).mapError .io)
  let after ← ofExcept (verifiedAfterSignature opened)
  pure {
    path := .fromPath opened.path
    digest := state.hasher.finalize digests
    parametersHash := fullHashParametersHash digests
    expectedLength := file.length
    bytesRead := state.bytesRead
    eofVerified := true
    beforeSourceSignature := opened.sourceSignature
    afterSourceSignature := after }

end Streaming

end Guiying.Core
