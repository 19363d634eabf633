import Guiying.Foundation.Program
import Guiying.Metadata.Report

/-!
# The budgeted reader

Every parser reads its source through one reader that completes short reads and counts what it
uses against the limits. Errors about the structure of a source can be isolated to a region of it;
the others, a spent budget among them, end the whole extraction.
-/

namespace Guiying.Metadata

open Guiying.Foundation Guiying.Foundation.ByteString

/-! ## Errors -/

structure ParseError where
  code : MetadataIssueCode
  offset : Option Nat
  context : String
  deriving DecidableEq

namespace ParseError

def io (offset : Option Nat) (context : String) : ParseError := ⟨.io, offset, context⟩

def invalid (offset : Nat) (context : String) : ParseError :=
  ⟨.invalidStructure, some offset, context⟩

def outOfBounds (offset : Nat) (context : String) : ParseError :=
  ⟨.outOfBounds, some offset, context⟩

def limit (offset : Option Nat) (context : String) : ParseError := ⟨.limitExceeded, offset, context⟩

def overflow (offset : Option Nat) (context : String) : ParseError :=
  ⟨.arithmeticOverflow, offset, context⟩

def cycle (offset : Nat) (context : String) : ParseError := ⟨.cycleDetected, some offset, context⟩

def unsupportedVersion (offset : Nat) (context : String) : ParseError :=
  ⟨.unsupportedVersion, some offset, context⟩

def invalidSource (offset : Nat) (context : String) : ParseError :=
  ⟨.invalidSource, some offset, context⟩

/-- Malformed structure, which leaves the other regions of the source as they are. -/
def isStructural (error : ParseError) : Bool :=
  match error.code with
  | .invalidStructure | .outOfBounds | .cycleDetected | .unsupportedVersion => true
  | _ => false

def intoIssue (error : ParseError) : MetadataIssue :=
  ⟨parserIdentity, error.code, error.offset, error.context⟩

end ParseError

/-! ## The reader -/

/-- What a source answers the `call`-th read of a run at an offset, with room for some bytes: no
answer is an I/O error. A source that claims more bytes than there is room for answers more. -/
structure ReadAtSource where
  /-- The advertised length, unless asking for it fails. -/
  sourceLen : Option Nat
  readAt : (call offset room : Nat) → Option (List UInt8)

structure BudgetedReader where
  source : ReadAtSource
  sourceLen : Nat
  limits : ExtractionLimits
  hardened : limits.effective = limits

def BudgetedReader.new (source : ReadAtSource) (sourceLen : Nat) (limits : ExtractionLimits) :
    BudgetedReader :=
  ⟨source, sourceLen, limits.effective, limits.effective_effective⟩

inductive IfdRole where
  | primary
  | exif
  | other
  deriving DecidableEq

structure IfdTask where
  relativeOffset : Nat
  role : IfdRole
  depth : Nat
  deriving DecidableEq

/-- What one extraction used and found so far. The directories visited and the stack of those
pending are the locals of the TIFF walk under way; the top of the stack comes first. -/
structure Extraction where
  usage : ExtractionUsage := {}
  fields : List MetadataField := []
  issues : List ParseError := []
  visited : List Nat := []
  pending : List IfdTask := []

abbrev Parse (α : Type) := Program Extraction ParseError α

namespace Parse

def checkedAdd (left right : Nat) (offset : Option Nat) (context : String) : Parse Nat :=
  Program.orFail (.overflow offset context) (MachineInt.checkedAdd MachineInt.u64Bound left right)

def checkedMul (left right : Nat) (offset : Option Nat) (context : String) : Parse Nat :=
  Program.orFail (.overflow offset context) (MachineInt.checkedMul MachineInt.u64Bound left right)

def checkedSub (left right : Nat) (offset : Option Nat) (context : String) : Parse Nat :=
  Program.orFail (.invalid (offset.getD left) context) (MachineInt.checkedSub left right)

def usage : Parse ExtractionUsage := fun state => (.ok state.usage, state)

def setUsage (change : ExtractionUsage → ExtractionUsage) : Parse Unit :=
  Program.update fun state => { state with usage := change state.usage }

def pushField (field : MetadataField) : Parse Unit :=
  Program.update fun state => { state with fields := state.fields ++ [field] }

def pushIssue (error : ParseError) : Parse Unit :=
  Program.update fun state => { state with issues := state.issues ++ [error] }

/-- A structural error becomes an issue; any other ends the caller as well. -/
def isolate (result : Except ParseError Unit) : Parse Unit :=
  match result with
  | .ok () => pure ()
  | .error error => if error.isStructural then pushIssue error else Program.fail error

/-- Run a part of a source whose malformed structure does not concern the rest. -/
def isolated (program : Parse Unit) : Parse Unit := do
  let result ← Program.attempt program
  isolate result

end Parse

def hardMaxSingleReadBytes : Nat := 4 * 1024 * 1024

namespace BudgetedReader

open Parse Program

variable (reader : BudgetedReader)

/-- One more call of the source, within the budget of calls. -/
def countOperation (offset : Nat) : Parse Nat := do
  let used ← usage
  let operations ← checkedAdd used.readOperations 1 (some offset) "read operation counter overflow"
  setUsage fun usage => { usage with readOperations := operations }
  ensure (operations ≤ reader.limits.maxReadOperations) (.limit (some offset) "read operation limit")
  pure used.readOperations

/-- The bytes a call returned, within the budget of bytes. -/
def countBytes (readOffset count : Nat) : Parse Unit := do
  let used ← usage
  let bytesRead ← checkedAdd used.bytesRead count (some readOffset) "byte usage counter overflow"
  setUsage fun usage => { usage with bytesRead }
  ensure (bytesRead ≤ reader.limits.maxTotalBytesRead)
    (.limit (some readOffset) "total byte-read limit")

/-- The loop of `read_vec`, with the bytes completed so far. Each round completes at least one
byte, so there are at most as many rounds as bytes. -/
def readLoop (offset length : Nat) (context : String) :
    Nat → List UInt8 → Parse (List UInt8)
  | 0, completed => pure completed
  | rounds + 1, completed =>
      if completed.length < length then do
        let call ← reader.countOperation offset
        let readOffset ← checkedAdd offset completed.length (some offset)
          "positional read offset overflow"
        let read ← orFail (.io (some readOffset) context)
          (reader.source.readAt call readOffset (length - completed.length))
        ensure (read ≠ []) ⟨.unexpectedEof, some readOffset, context⟩
        ensure (read.length ≤ length - completed.length)
          (.invalidSource readOffset "source returned more bytes than requested")
        reader.countBytes readOffset read.length
        readLoop offset length context rounds (completed ++ read)
      else pure completed

/-- A length within the single-read limit fits the machine word. -/
def readVec (offset length : Nat) (context : String) : Parse (List UInt8) := do
  let stop ← checkedAdd offset length (some offset) "read range overflow"
  ensure (stop ≤ reader.sourceLen) (.outOfBounds offset context)
  ensure (length ≤ hardMaxSingleReadBytes) (.limit (some offset) "single read byte limit")
  let used ← usage
  let projected ← checkedAdd used.bytesRead length (some offset) "byte budget overflow"
  ensure (projected ≤ reader.limits.maxTotalBytesRead) (.limit (some offset) "total byte-read limit")
  reader.readLoop offset length context length []

def readFieldBytes (offset length : Nat) : Parse (List UInt8) := do
  ensure (length ≤ reader.limits.maxFieldBytes) (.limit (some offset) "single field byte limit")
  let used ← usage
  let nextFieldCount ← orFail (.overflow (some offset) "field counter overflow")
    (MachineInt.checkedAdd MachineInt.u32Bound used.fieldsEmitted 1)
  ensure (nextFieldCount ≤ reader.limits.maxFields)
    (.limit (some offset) "metadata field count limit")
  let nextRetained ← checkedAdd used.retainedFieldBytes length (some offset)
    "retained field byte counter overflow"
  ensure (nextRetained ≤ reader.limits.maxRetainedFieldBytes)
    (.limit (some offset) "retained metadata byte limit")
  let bytes ← reader.readVec offset length "read metadata field"
  setUsage fun usage =>
    { usage with fieldsEmitted := nextFieldCount, retainedFieldBytes := nextRetained }
  pure bytes

def visitJpegSegment (offset : Nat) : Parse Unit := do
  let used ← usage
  let segments ← orFail (.overflow (some offset) "JPEG segment counter overflow")
    (MachineInt.checkedAdd MachineInt.u32Bound used.jpegSegmentsVisited 1)
  setUsage fun usage => { usage with jpegSegmentsVisited := segments }
  ensure (segments ≤ reader.limits.maxJpegSegments) (.limit (some offset) "JPEG segment limit")

def visitIfdEntries (offset count : Nat) : Parse Unit := do
  ensure (count ≤ reader.limits.maxIfdEntries) (.limit (some offset) "TIFF IFD entry limit")
  let used ← usage
  let entries ← orFail (.overflow (some offset) "IFD entry counter overflow")
    (MachineInt.checkedAdd MachineInt.u32Bound used.ifdEntriesVisited count)
  setUsage fun usage => { usage with ifdEntriesVisited := entries }
  ensure (entries ≤ reader.limits.maxIfdEntries)
    (.limit (some offset) "cumulative TIFF IFD entry limit")

def visitBmffBox (offset : Nat) : Parse Unit := do
  let used ← usage
  let boxes ← orFail (.overflow (some offset) "BMFF box counter overflow")
    (MachineInt.checkedAdd MachineInt.u32Bound used.bmffBoxesVisited 1)
  setUsage fun usage => { usage with bmffBoxesVisited := boxes }
  ensure (boxes ≤ reader.limits.maxBmffBoxes) (.limit (some offset) "BMFF box limit")

def observeDepth (depth depthLimit offset : Nat) (context : String) : Parse Unit := do
  ensure (depth ≤ depthLimit) (.limit (some offset) context)
  setUsage fun usage => { usage with maxDepthObserved := max usage.maxDepthObserved depth }

end BudgetedReader

/-! ## What the parsers use -/

/-- The reads and the counts of a reader, whatever it counts them against. -/
structure MetadataReader where
  sourceLen : Nat
  limits : ExtractionLimits
  readVec : (offset length : Nat) → (context : String) → Parse (List UInt8)
  readFieldBytes : (offset length : Nat) → Parse (List UInt8)
  visitIfdEntries : (offset count : Nat) → Parse Unit
  visitBmffBox : (offset : Nat) → Parse Unit
  observeDepth : (depth depthLimit offset : Nat) → (context : String) → Parse Unit

@[reducible] def BudgetedReader.operations (reader : BudgetedReader) : MetadataReader where
  sourceLen := reader.sourceLen
  limits := reader.limits
  readVec := reader.readVec
  readFieldBytes := reader.readFieldBytes
  visitIfdEntries := reader.visitIfdEntries
  visitBmffBox := reader.visitBmffBox
  observeDepth := BudgetedReader.observeDepth

instance : Coe BudgetedReader MetadataReader := ⟨BudgetedReader.operations⟩

end Guiying.Metadata
