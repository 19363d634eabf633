import Guiying.Foundation.ByteString
import Guiying.Foundation.MachineInt

/-!
# Extraction reports

The data a bounded extraction returns: fields with their byte locators, issues,
the effective limits and what was used of them. Nothing here has been validated
as a time; a report is only raw evidence.
-/

namespace Guiying.Metadata

open Guiying.Foundation Guiying.Foundation.ByteString

/-- Identity persisted alongside every extracted field. -/
structure ParserIdentity where
  name : String
  version : String
  deriving DecidableEq

def parserIdentity : ParserIdentity := ⟨"guiying-metadata", "0.1.0"⟩

structure ExtractionLimits where
  maxTotalBytesRead : Nat
  maxReadOperations : Nat
  maxRetainedFieldBytes : Nat
  maxFieldBytes : Nat
  maxFields : Nat
  maxJpegSegments : Nat
  maxIfdEntries : Nat
  maxIfdDepth : Nat
  maxBmffBoxes : Nat
  maxBmffDepth : Nat
  deriving DecidableEq

namespace ExtractionLimits

/-- The caller's defaults. -/
def default : ExtractionLimits where
  maxTotalBytesRead := 8 * 1024 * 1024
  maxReadOperations := 32 * 1024
  maxRetainedFieldBytes := 256 * 1024
  maxFieldBytes := 16 * 1024
  maxFields := 128
  maxJpegSegments := 4096
  maxIfdEntries := 4096
  maxIfdDepth := 8
  maxBmffBoxes := 8192
  maxBmffDepth := 16

/-- `harden_limits`: the parser-owned ceilings, which no caller can raise. -/
def effective (limits : ExtractionLimits) : ExtractionLimits where
  maxTotalBytesRead := min limits.maxTotalBytesRead (64 * 1024 * 1024)
  maxReadOperations := min limits.maxReadOperations 262144
  maxRetainedFieldBytes := min limits.maxRetainedFieldBytes (16 * 1024 * 1024)
  maxFieldBytes := min limits.maxFieldBytes (1024 * 1024)
  maxFields := min limits.maxFields 4096
  maxJpegSegments := min limits.maxJpegSegments 65536
  maxIfdEntries := min limits.maxIfdEntries 65536
  maxIfdDepth := min limits.maxIfdDepth 64
  maxBmffBoxes := min limits.maxBmffBoxes 65536
  maxBmffDepth := min limits.maxBmffDepth 64

theorem effective_effective (limits : ExtractionLimits) :
    limits.effective.effective = limits.effective := by
  simp [effective]

/-- Every default passes under the ceilings unchanged. -/
theorem effective_default : default.effective = default := by decide

end ExtractionLimits

structure ExtractionUsage where
  bytesRead : Nat := 0
  readOperations : Nat := 0
  retainedFieldBytes : Nat := 0
  fieldsEmitted : Nat := 0
  jpegSegmentsVisited : Nat := 0
  ifdEntriesVisited : Nat := 0
  bmffBoxesVisited : Nat := 0
  maxDepthObserved : Nat := 0
  deriving DecidableEq

inductive ExtractionStatus where
  /-- A recognized container was parsed and at least one raw field was found. -/
  | extractedUnvalidated
  /-- A recognized container was valid but had no supported timestamp field. -/
  | noMetadata
  /-- Raw fields were recovered next to a structure that had to be skipped. -/
  | partialExtraction
  /-- A recognized source could not be parsed safely. -/
  | failed
  /-- The source is not one of the supported containers. -/
  | unsupported
  deriving DecidableEq

inductive DetectedFormat where
  | jpeg
  | tiff
  | isoBmff
  deriving DecidableEq

inductive MetadataFieldKind where
  | exifDateTimeOriginal
  | exifCreateDate
  | exifModifyDate
  | exifOffsetTimeOriginal
  | exifSubSecTimeOriginal
  | quickTimeMovieHeaderCreationTime
  | quickTimeMetadataCreationDate
  deriving DecidableEq

inductive FieldEncoding where
  | declaredAscii
  | validatedUtf8
  | unsignedBigEndian
  deriving DecidableEq

inductive TiffByteOrder where
  | littleEndian
  | bigEndian
  deriving DecidableEq

/-- A four-byte box type. -/
structure BoxType where
  b0 : UInt8
  b1 : UInt8
  b2 : UInt8
  b3 : UInt8
  deriving DecidableEq

namespace BoxType

def ofChars (c0 c1 c2 c3 : Char) : BoxType := ⟨ascii c0, ascii c1, ascii c2, ascii c3⟩

def bytes (boxType : BoxType) : List UInt8 := [boxType.b0, boxType.b1, boxType.b2, boxType.b3]

def moov : BoxType := ofChars 'm' 'o' 'o' 'v'
def mvhd : BoxType := ofChars 'm' 'v' 'h' 'd'
def udta : BoxType := ofChars 'u' 'd' 't' 'a'
def metaBox : BoxType := ofChars 'm' 'e' 't' 'a'
def ilst : BoxType := ofChars 'i' 'l' 's' 't'
def data : BoxType := ofChars 'd' 'a' 't' 'a'
def copyrightDay : BoxType := ⟨0xA9, ascii 'd', ascii 'a', ascii 'y'⟩

end BoxType

inductive MetadataContainer where
  | tiff (headerOffset ifdOffset tag : Nat) (byteOrder : TiffByteOrder)
  | jpegExif (app1Offset headerOffset ifdOffset tag : Nat) (byteOrder : TiffByteOrder)
  | isoBmff (boxOffset : Nat) (boxPath : List BoxType)
  deriving DecidableEq

/-- Exact source location of `MetadataField.rawBytes`. -/
structure MetadataLocator where
  absoluteOffset : Nat
  byteLen : Nat
  container : MetadataContainer
  deriving DecidableEq

/-- Original bytes plus enough identity and location data to re-read them. -/
structure MetadataField where
  parser : ParserIdentity
  kind : MetadataFieldKind
  encoding : FieldEncoding
  locator : MetadataLocator
  rawBytes : List UInt8
  deriving DecidableEq

inductive MetadataIssueCode where
  | io
  | unexpectedEof
  | arithmeticOverflow
  | outOfBounds
  | invalidStructure
  | cycleDetected
  | limitExceeded
  | unsupportedVersion
  | invalidSource
  deriving DecidableEq

structure MetadataIssue where
  parser : ParserIdentity
  code : MetadataIssueCode
  offset : Option Nat
  context : String
  deriving DecidableEq

structure ExtractionReport where
  parser : ParserIdentity
  /-- Effective (ceiling-clamped) limits used for this extraction. -/
  limits : ExtractionLimits
  format : Option DetectedFormat
  status : ExtractionStatus
  fields : List MetadataField
  issues : List MetadataIssue
  usage : ExtractionUsage
  deriving DecidableEq

end Guiying.Metadata
