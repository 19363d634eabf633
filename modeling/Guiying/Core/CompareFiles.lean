import Guiying.Core.FileReader
import Guiying.Core.StreamEvent
import Guiying.Foundation.FirstDifference

/-!
# Comparing two files byte by byte

The comparison of the batch scanner and that of the streaming scanner. Both read the files side by
side, up to the first difference, and probe for the end where there is none.
-/

namespace Guiying.Core

open Guiying.Foundation Guiying.Foundation.ByteString Program

/-! ## Control -/

inductive ScanDirective where
  | continue_
  | pause
  | cancel
  deriving DecidableEq

/-- What the observer answers the `poll`-th question of a run. -/
structure ScanControl where
  isCancelled : (poll : Nat) → Bool
  directive : (poll : Nat) → ScanDirective

def effectiveScanDirective (control : ScanControl) (poll : Nat) : ScanDirective :=
  if control.isCancelled poll then .cancel else control.directive poll

/-- The observer never cancels. -/
def ScanControl.Undisturbed (control : ScanControl) : Prop :=
  ∀ poll, effectiveScanDirective control poll ≠ .cancel

/-- A program that polls the observer counts its questions. -/
abbrev Polling (ε α : Type) := Program Nat ε α

/-- A safe point: the run stops here when it is cancelled. -/
def safePoint {ε : Type} (control : ScanControl) (cancelled : ε) : Polling ε Unit := fun poll =>
  if effectiveScanDirective control poll = .cancel then (.error cancelled, poll + 1)
  else (.ok (), poll + 1)

inductive CancelReadError where
  | cancelled
  | io (source : IoError)

def readExactCancelLoop (control : ScanControl) :
    Nat → FileReader → Nat → List UInt8 → Polling CancelReadError (List UInt8 × FileReader)
  | 0, reader, _, done => pure (done, reader)
  | rounds + 1, reader, wanted, done =>
      if wanted = 0 then pure (done, reader)
      else do
        safePoint control .cancelled
        match reader.read wanted with
        | (.ok [], _) => fail (.io (unexpectedEofError (done.length + wanted) done.length))
        | (.ok bytes, next) =>
            readExactCancelLoop control rounds next (wanted - bytes.length) (done ++ bytes)
        | (.error error, next) =>
            if error.kind = .interrupted then readExactCancelLoop control rounds next wanted done
            else fail (.io error)

def readExactCancel (control : ScanControl) (reader : FileReader) (length : Nat) :
    Polling CancelReadError (List UInt8 × FileReader) :=
  readExactCancelLoop control (reader.rounds length) reader length []

/-! ## The loop -/

/-- Two files being compared, and what was made of the bytes on the way. -/
structure Compared (σ : Type) where
  identical : Bool
  bytesCompared : Nat
  left : FileReader
  right : FileReader
  fed : σ

abbrev ExactRead (ε : Type) := FileReader → Nat → Polling ε (List UInt8 × FileReader)

/-- Files that agree as far as their snapshots say are probed for their ends. -/
def probeEnds {ε : Type} (identical : Bool) (probes : Except ε Unit) : Polling ε Unit :=
  if identical then ofExcept probes else pure ()

section Loop

variable {ε σ : Type} (control : ScanControl) (cancelled : ε) (readLeft readRight : ExactRead ε)
  (feed : List UInt8 → List UInt8 → σ → σ) (length bufferBytes : Nat)

/-- What one chunk of both files says. -/
def compareChunk (state : Compared σ) (leftBytes rightBytes : List UInt8) (left right : FileReader) :
    Compared σ :=
  let fed := feed leftBytes rightBytes state.fed
  match firstDifference leftBytes rightBytes with
  | some position =>
      { identical := false
        bytesCompared :=
          MachineInt.saturatingAdd MachineInt.u64Bound state.bytesCompared (position + 1)
        left, right, fed }
  | none =>
      { identical := true
        bytesCompared :=
          MachineInt.saturatingAdd MachineInt.u64Bound state.bytesCompared leftBytes.length
        left, right, fed }

/-- The chunks of two files of one length. Each round compares at least one byte. -/
def compareLoop : Nat → Compared σ → Polling ε (Compared σ)
  | 0, state => pure state
  | rounds + 1, state =>
      if state.bytesCompared < length then do
        safePoint control cancelled
        let chunk := min (length - state.bytesCompared) bufferBytes
        let (leftBytes, left) ← readLeft state.left chunk
        let (rightBytes, right) ← readRight state.right chunk
        let next := compareChunk feed state leftBytes rightBytes left right
        if next.identical then compareLoop rounds next else pure next
      else pure state

end Loop

/-! ## The batch scanner -/

/-- An open descriptor and the length its snapshot declares. -/
structure OpenFile where
  reader : FileReader
  length : Nat

inductive StableOpenError where
  | io (source : IoError)
  | notRegular
  | changed

/-- How a file opens, and whether it is found unchanged after the reads. -/
structure ComparisonAccess where
  path : Path
  open_ : Except StableOpenError OpenFile
  unchangedAfterRead : Except IoError Bool

inductive VerificationError where
  | cancelled
  | metadata (path : Path) (source : IoError)
  | notRegularFile (path : Path)
  | changedDuringRead (path : Path)
  | open_ (path : Path) (source : IoError)
  | read (path : Path) (source : IoError)

structure ByteComparison where
  identical : Bool
  bytesCompared : Nat
  deriving DecidableEq

def verifyBufferBytes : Nat := 1024 * 1024

def mapOpenError (path : Path) : StableOpenError → VerificationError
  | .io source => .open_ path source
  | .notRegular => .notRegularFile path
  | .changed => .changedDuringRead path

def ensureUnchanged (access : ComparisonAccess) : Except VerificationError Unit :=
  match access.unchangedAfterRead with
  | .ok true => .ok ()
  | .ok false => .error (.changedDuringRead access.path)
  | .error source => .error (.metadata access.path source)

def readVerified (path : Path) : ExactRead VerificationError := fun reader length =>
  ofExcept ((readExactOrUnexpectedEof reader length).mapError (.read path))

/-- Both files end where their snapshots say. -/
def ensureReaderEofs (left right : ComparisonAccess) (leftFile rightFile : FileReader) :
    Except VerificationError Unit := do
  let _ ← (ensureReaderEof leftFile).mapError (.read left.path)
  let _ ← (ensureReaderEof rightFile).mapError (.read right.path)

/-- The chunks of files of one length, and their ends. -/
def compareContents (control : ScanControl) (left right : ComparisonAccess)
    (leftFile rightFile : OpenFile) (bufferBytes : Nat) :
    Polling VerificationError ByteComparison := do
  let compared ← compareLoop control .cancelled (readVerified left.path) (readVerified right.path)
    (fun _ _ fed => fed) leftFile.length bufferBytes leftFile.length
    ⟨true, 0, leftFile.reader, rightFile.reader, ()⟩
  probeEnds compared.identical (ensureReaderEofs left right compared.left compared.right)
  ofExcept (ensureUnchanged left)
  ofExcept (ensureUnchanged right)
  pure ⟨compared.identical, compared.bytesCompared⟩

def compareFilesExactInner (control : ScanControl) (left right : ComparisonAccess)
    (bufferBytes : Nat) : Polling VerificationError ByteComparison := do
  let bufferBytes := max 1 (min bufferBytes verifyBufferBytes)
  safePoint control .cancelled
  let leftFile ← ofExcept (left.open_.mapError (mapOpenError left.path))
  let rightFile ← ofExcept (right.open_.mapError (mapOpenError right.path))
  if leftFile.length ≠ rightFile.length then do
    ofExcept (ensureUnchanged left)
    ofExcept (ensureUnchanged right)
    pure ⟨false, 0⟩
  else compareContents control left right leftFile rightFile bufferBytes

/-! ## The streaming scanner -/

/-- The bytes a hasher was fed, which its digest depends on alone. -/
structure Hasher where
  fed : List UInt8
  deriving DecidableEq

namespace Hasher

def new : Hasher := ⟨[]⟩

def update (hasher : Hasher) (bytes : List UInt8) : Hasher := ⟨hasher.fed ++ bytes⟩

def finalize (digests : Digests) (hasher : Hasher) : Bytes32 := digests.hash hasher.fed

end Hasher

inductive ExactReadError where
  | cancelled
  | left (path : Path) (source : IoError)
  | right (path : Path) (source : IoError)
  | changed (path : Path)

/-- An observation: how its file opens, and the signature of what is found after the reads, if
that is still the same file. -/
structure OpenedObservation where
  path : Path
  sourceSignature : Bytes32
  openStable : Except StableOpenError OpenFile
  signatureAfterRead : Except IoError (Option Bytes32)

def exactBufferBytesMax : Nat := 1024 * 1024

def mapExactOpenError (path : Path) : StableOpenError → ExactReadError
  | .io source => .left path source
  | .notRegular | .changed => .changed path

def mapCancelExactError (path : Path) (leftSide : Bool) : CancelReadError → ExactReadError
  | .cancelled => .cancelled
  | .io source => if leftSide then .left path source else .right path source

def readExactSide (control : ScanControl) (path : Path) (leftSide : Bool) :
    ExactRead ExactReadError := fun reader length =>
  mapError (mapCancelExactError path leftSide) (readExactCancel control reader length)

def verifiedAfterSignatureExact (opened : OpenedObservation) (leftSide : Bool) :
    Except ExactReadError Bytes32 :=
  match opened.signatureAfterRead with
  | .ok (some after) => .ok after
  | .ok none => .error (.changed opened.path)
  | .error source =>
      .error (if leftSide then .left opened.path source else .right opened.path source)

def ensureEofs (left right : OpenedObservation) (leftFile rightFile : FileReader) :
    Except ExactReadError Unit := do
  let _ ← (ensureEof leftFile).mapError (.left left.path)
  let _ ← (ensureEof rightFile).mapError (.right right.path)

/-- The evidence once the reads are done. -/
def exactEvidence (left right : OpenedObservation) (leftFile rightFile : OpenFile)
    (identical : Bool) (bytesCompared : Nat) (found : Option (Bytes32 × Bytes32)) :
    Except ExactReadError PendingExactEvidence := do
  let leftAfter ← verifiedAfterSignatureExact left true
  let rightAfter ← verifiedAfterSignatureExact right false
  pure {
    leftPath := .fromPath left.path
    rightPath := .fromPath right.path
    leftExpectedLength := leftFile.length
    rightExpectedLength := rightFile.length
    bytesCompared
    identical
    eofVerified := identical
    leftDigest := found.map Prod.fst
    rightDigest := found.map Prod.snd
    leftBeforeSourceSignature := left.sourceSignature
    leftAfterSourceSignature := leftAfter
    rightBeforeSourceSignature := right.sourceSignature
    rightAfterSourceSignature := rightAfter }

def compareOpenedContents (digests : Digests) (control : ScanControl)
    (left right : OpenedObservation) (leftFile rightFile : OpenFile) (bufferBytes : Nat) :
    Polling ExactReadError PendingExactEvidence := do
  let compared ← compareLoop control .cancelled (readExactSide control left.path true)
    (readExactSide control right.path false)
    (fun leftBytes rightBytes (hashers : Hasher × Hasher) =>
      (hashers.1.update leftBytes, hashers.2.update rightBytes))
    leftFile.length bufferBytes leftFile.length
    ⟨true, 0, leftFile.reader, rightFile.reader, (.new, .new)⟩
  probeEnds compared.identical (ensureEofs left right compared.left compared.right)
  ofExcept (exactEvidence left right leftFile rightFile compared.identical compared.bytesCompared
    (if compared.identical then
      some (compared.fed.1.finalize digests, compared.fed.2.finalize digests)
    else none))

def compareOpenedFresh (digests : Digests) (control : ScanControl)
    (left right : OpenedObservation) (configuredBufferBytes : Nat) :
    Polling ExactReadError PendingExactEvidence := do
  let leftFile ← ofExcept (left.openStable.mapError (mapExactOpenError left.path))
  let rightFile ← ofExcept (right.openStable.mapError (mapExactOpenError right.path))
  if leftFile.length ≠ rightFile.length then
    ofExcept (exactEvidence left right leftFile rightFile false 0 none)
  else
    compareOpenedContents digests control left right leftFile rightFile
      (max 1 (min configuredBufferBytes exactBufferBytesMax))

end Guiying.Core
