import Guiying.Time.Evidence
import Guiying.Time.Parse

/-!
# What a report must look like

Before any value counts, the policy re-derives what a well-formed extraction
report can contain: the encoding and container of each field, the geometry of
its locator, and the usage counters of the whole report. A report that fails one
of these checks contradicts itself.
-/

namespace Guiying.Time.Policy

open Guiying.Foundation Guiying.Foundation.ByteString Guiying.Foundation.MachineInt
open Guiying.Metadata

/-! ## Fields -/

/-- The strict reading of one field by the parser of its kind. -/
def interpretField (field : MetadataField) : ObservationInterpretation :=
  let result : Except TimestampParseError ObservationInterpretation :=
    match field.kind with
    | .exifDateTimeOriginal | .exifCreateDate | .exifModifyDate =>
        (Parse.parseExifTimestamp field.rawBytes none none).map .timestamp
    | .exifOffsetTimeOriginal => (Parse.parseOffset field.rawBytes).map .offset
    | .exifSubSecTimeOriginal =>
        (Parse.parseSubsecond field.rawBytes).map fun (nanosecond, digits, precision) =>
          .subsecond nanosecond digits precision
    | .quickTimeMetadataCreationDate =>
        (Parse.parseQuicktimeTimestamp field.rawBytes).map .timestamp
    | .quickTimeMovieHeaderCreationTime =>
        (Parse.parseQuicktimeMvhd field.rawBytes).map .timestamp
  match result with
  | .ok interpretation => interpretation
  | .error error => .rejected error

def expectedEncoding : MetadataFieldKind → FieldEncoding
  | .exifDateTimeOriginal | .exifCreateDate | .exifModifyDate | .exifOffsetTimeOriginal
  | .exifSubSecTimeOriginal => .declaredAscii
  | .quickTimeMetadataCreationDate => .validatedUtf8
  | .quickTimeMovieHeaderCreationTime => .unsignedBigEndian

def encodingMatches (field : MetadataField) : Bool := field.encoding == expectedEncoding field.kind

def isExifKind : MetadataFieldKind → Bool
  | .exifDateTimeOriginal | .exifCreateDate | .exifModifyDate | .exifOffsetTimeOriginal
  | .exifSubSecTimeOriginal => true
  | .quickTimeMovieHeaderCreationTime | .quickTimeMetadataCreationDate => false

def formatAndContainerMatch (format : Option DetectedFormat) (field : MetadataField) : Bool :=
  match format, field.locator.container with
  | some .jpeg, .jpegExif .. => isExifKind field.kind
  | some .tiff, .tiff .. => isExifKind field.kind
  | some .isoBmff, .isoBmff .. => !isExifKind field.kind
  | _, _ => false

def exifTag : MetadataFieldKind → Nat
  | .exifDateTimeOriginal => 0x9003
  | .exifCreateDate => 0x9004
  | .exifModifyDate => 0x0132
  | .exifOffsetTimeOriginal => 0x9011
  | .exifSubSecTimeOriginal => 0x9291
  | .quickTimeMovieHeaderCreationTime | .quickTimeMetadataCreationDate => 0

/-- `value + width` fits `u64` and does not exceed `limit`. -/
def atLeastAfter (value width limit : Nat) : Bool :=
  (checkedAdd u64Bound value width).any (· ≤ limit)

def tiffLocatorMatches (headerOffset ifdOffset actualTag expectedTag : Nat) : Bool :=
  actualTag == expectedTag && atLeastAfter headerOffset 8 ifdOffset

def itemTypeAccepted (item : BoxType) : Bool :=
  item == .copyrightDay || readBigEndian item.bytes != 0

def quicktimeTextLocatorMatches (boxOffset : Nat) (boxPath : List BoxType)
    (absoluteOffset : Nat) : Bool :=
  let legacy := boxPath == [.moov, .udta, .copyrightDay] && atLeastAfter boxOffset 12 absoluteOffset
  let modernPath :=
    match boxPath with
    | [moov, metaBox, ilst, item, data] =>
        moov == .moov && metaBox == .metaBox && ilst == .ilst && data == .data &&
          itemTypeAccepted item
    | [moov, udta, metaBox, ilst, item, data] =>
        moov == .moov && udta == .udta && metaBox == .metaBox && ilst == .ilst &&
          data == .data && itemTypeAccepted item
    | _ => false
  legacy || (modernPath && atLeastAfter boxOffset 16 absoluteOffset)

/-- The `Tiff` arms of the source spell out `exifTag` kind by kind. -/
def locatorMatches (field : MetadataField) : Bool :=
  if tryFrom u64Bound field.rawBytes.length ≠ some field.locator.byteLen ∨
      (checkedAdd u64Bound field.locator.absoluteOffset field.locator.byteLen).isNone then
    false
  else
    match field.locator.container with
    | .tiff headerOffset ifdOffset tag _ =>
        isExifKind field.kind && headerOffset == 0 &&
          tiffLocatorMatches headerOffset ifdOffset tag (exifTag field.kind)
    | .jpegExif app1Offset headerOffset ifdOffset tag _ =>
        isExifKind field.kind && checkedAdd u64Bound app1Offset 10 == some headerOffset &&
          tiffLocatorMatches headerOffset ifdOffset tag (exifTag field.kind)
    | .isoBmff boxOffset boxPath =>
        match field.kind with
        | .quickTimeMovieHeaderCreationTime =>
            boxPath == [.moov, .mvhd] &&
              (field.locator.byteLen == 4 || field.locator.byteLen == 8) &&
              atLeastAfter boxOffset 12 field.locator.absoluteOffset
        | .quickTimeMetadataCreationDate =>
            quicktimeTextLocatorMatches boxOffset boxPath field.locator.absoluteOffset
        | _ => false

/-! ## Usage counters -/

def formatDepthMatches (report : ExtractionReport) : Bool :=
  let maximum :=
    match report.format with
    | some .jpeg | some .tiff => report.limits.maxIfdDepth
    | some .isoBmff => report.limits.maxBmffDepth
    | none => 0
  report.usage.maxDepthObserved ≤ maximum

def formatUsageMatches (report : ExtractionReport) : Bool :=
  let usage := report.usage
  match report.format with
  | none =>
      usage.jpegSegmentsVisited == 0 && usage.ifdEntriesVisited == 0 &&
        usage.bmffBoxesVisited == 0 && usage.maxDepthObserved == 0
  | some .tiff =>
      usage.jpegSegmentsVisited == 0 && usage.bmffBoxesVisited == 0 &&
        (report.fields.isEmpty || decide (usage.ifdEntriesVisited > 0))
  | some .jpeg =>
      usage.bmffBoxesVisited == 0 &&
        (report.fields.isEmpty ||
          decide (usage.jpegSegmentsVisited > 0 ∧ usage.ifdEntriesVisited > 0))
  | some .isoBmff =>
      usage.jpegSegmentsVisited == 0 && usage.ifdEntriesVisited == 0 &&
        (report.fields.isEmpty || decide (usage.bmffBoxesVisited > 0))

/-- The walker depth a field's container implies; `none` when it does not fit `u16`. -/
def requiredDepth (field : MetadataField) : Option Nat :=
  match field.locator.container with
  | .tiff .. | .jpegExif .. => some (if field.kind = .exifModifyDate then 1 else 2)
  | .isoBmff _ boxPath => tryFrom u16Bound boxPath.length

def locatorDepthMatches (report : ExtractionReport) : Bool :=
  report.fields.all fun field =>
    (requiredDepth field).any fun depth => report.usage.maxDepthObserved ≥ depth

def retainedBytes (fields : List MetadataField) : Option Nat :=
  fields.foldlM (fun total field => checkedAdd u64Bound total field.locator.byteLen) 0

def extractionBudgetMatches (report : ExtractionReport) : Bool :=
  if report.limits ≠ report.limits.effective ∨
      report.usage.bytesRead > report.limits.maxTotalBytesRead ∨
      report.usage.readOperations > report.limits.maxReadOperations ∨
      report.usage.retainedFieldBytes > report.limits.maxRetainedFieldBytes ∨
      report.usage.fieldsEmitted > report.limits.maxFields ∨
      report.usage.jpegSegmentsVisited > report.limits.maxJpegSegments ∨
      report.usage.ifdEntriesVisited > report.limits.maxIfdEntries ∨
      report.usage.bmffBoxesVisited > report.limits.maxBmffBoxes ∨
      formatDepthMatches report = false ∨
      formatUsageMatches report = false ∨
      locatorDepthMatches report = false ∨
      (report.fields ≠ [] ∧ (report.usage.bytesRead = 0 ∨ report.usage.readOperations = 0)) ∨
      (report.fields.any fun field =>
        (tryFrom u64Bound field.rawBytes.length).all (· > report.limits.maxFieldBytes)) then
    false
  else
    match tryFrom u32Bound report.fields.length with
    | none => false
    | some fieldCount =>
        match retainedBytes report.fields with
        | none => false
        | some retained =>
            report.usage.fieldsEmitted == fieldCount &&
              report.usage.retainedFieldBytes == retained &&
              decide (report.usage.bytesRead ≥ retained)

/-- The status, the fields and the issues of a report exclude each other. -/
def statusContradiction (report : ExtractionReport) : Bool :=
  match report.status with
  | .extractedUnvalidated => report.fields.isEmpty || !report.issues.isEmpty
  | .partialExtraction | .failed => !report.fields.isEmpty
  | .noMetadata | .unsupported => !report.fields.isEmpty || !report.issues.isEmpty

/-- A field contradicts the report it stands in. -/
def fieldContradicts (report : ExtractionReport) (field : MetadataField) : Bool :=
  field.parser != report.parser || !encodingMatches field ||
    !formatAndContainerMatch report.format field || !locatorMatches field

/-- A report contradicts itself, in one of the ways the policy looks for. -/
def reportContradicts (report : ExtractionReport) : Bool :=
  report.parser != parserIdentity || !extractionBudgetMatches report ||
    report.fields.any (fieldContradicts report) || statusContradiction report

end Guiying.Time.Policy
