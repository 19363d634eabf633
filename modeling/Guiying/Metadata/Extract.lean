import Guiying.Metadata.Jpeg

/-!
# Extraction

One extraction detects the format of a source, runs the parser of that format and reports what it
found. A failure other than malformed structure leaves a report without fields.
-/

namespace Guiying.Metadata

open Guiying.Foundation Guiying.Foundation.ByteString Parse Program

def isoBmffTypes : List (List UInt8) :=
  [asciiBytes "ftyp", asciiBytes "moov", asciiBytes "wide", asciiBytes "free"]

/-- The format the first bytes of a source announce. -/
def detectPrefix (bytes : List UInt8) : Option DetectedFormat :=
  if [0xff, 0xd8].isPrefixOf bytes then some .jpeg
  else if (asciiBytes "II" ++ [0x2a, 0x00]).isPrefixOf bytes ∨
      (asciiBytes "MM" ++ [0x00, 0x2a]).isPrefixOf bytes then some .tiff
  else if 8 ≤ bytes.length ∧ isoBmffTypes.contains (slice bytes 4 4) then some .isoBmff
  else none

def detectFormat (reader : BudgetedReader) : Parse (Option DetectedFormat) :=
  let prefixLen := min reader.sourceLen 16
  if prefixLen = 0 then pure none
  else do
    let bytes ← reader.readVec 0 prefixLen "read format signature"
    pure (detectPrefix bytes)

def reportStatus (format : Option DetectedFormat) (noFields noErrors : Bool) : ExtractionStatus :=
  match format, noFields, noErrors with
  | none, _, true => .unsupported
  | _, false, true => .extractedUnvalidated
  | some _, true, true => .noMetadata
  | _, false, false => .partialExtraction
  | _, true, false => .failed

/-- The report counts the fields it carries, not those a failed parser had read. -/
def BudgetedReader.finish (reader : BudgetedReader) (usage : ExtractionUsage)
    (format : Option DetectedFormat) (fields : List MetadataField) (errors : List ParseError) :
    ExtractionReport where
  parser := parserIdentity
  limits := reader.limits
  format
  status := reportStatus format fields.isEmpty errors.isEmpty
  fields
  issues := errors.map ParseError.intoIssue
  usage := { usage with
    fieldsEmitted := (MachineInt.tryFrom MachineInt.u32Bound fields.length).getD
      (MachineInt.u32Bound - 1)
    retainedFieldBytes := fields.foldl
      (fun total field => MachineInt.saturatingAdd MachineInt.u64Bound total field.rawBytes.length)
      0 }

def failedReport (limits : ExtractionLimits) (error : ParseError) : ExtractionReport where
  parser := parserIdentity
  limits
  format := none
  status := .failed
  fields := []
  issues := [error.intoIssue]
  usage := {}

/-- The box parser is the caller's to supply: its containers are not marker segments. -/
def parseFormat (parseBmff : BudgetedReader → Parse Unit) (reader : BudgetedReader) :
    DetectedFormat → Parse Unit
  | .jpeg => Jpeg.parse reader
  | .tiff => Tiff.parseDirect reader
  | .isoBmff => parseBmff reader

def reportParsed (reader : BudgetedReader) (format : DetectedFormat) :
    Except ParseError Unit × Extraction → ExtractionReport
  | (.ok (), state) => reader.finish state.usage (some format) state.fields state.issues
  | (.error error, state) => reader.finish state.usage (some format) [] [error]

def extractTimestampEvidence (parseBmff : BudgetedReader → Parse Unit) (source : ReadAtSource)
    (limits : ExtractionLimits) : ExtractionReport :=
  match source.sourceLen with
  | none => failedReport limits.effective (.io none "read source length")
  | some sourceLen =>
      let reader := BudgetedReader.new source sourceLen limits.effective
      match detectFormat reader {} with
      | (.error error, state) => reader.finish state.usage none [] [error]
      | (.ok none, state) => reader.finish state.usage none [] []
      | (.ok (some format), state) =>
          reportParsed reader format (parseFormat parseBmff reader format state)

end Guiying.Metadata
