import Guiying.Export.World
import Guiying.Foundation.ByteString
import Guiying.Foundation.Utf8

/-!
# The export encoder

One document is a manifest, the records in order and an integrity block, as JSON
or as CSV. `document` is that text as a whole; the encoder writes it piece by
piece through the counting writer.
-/

namespace Guiying.Export

open Guiying.Foundation Guiying.Foundation.ByteString

inductive ExportFormat where
  | json
  | csv
  deriving DecidableEq, Repr

inductive HistoryExportScope where
  | summary
  | completeEvidence
  deriving DecidableEq, Repr

inductive HistoryExportProjection where
  | redacted
  | display
  deriving DecidableEq, Repr

structure HistoryExportRequest where
  scope : HistoryExportScope
  projection : HistoryExportProjection
  deriving DecidableEq, Repr

structure ExportLimits where
  maxOutputBytes : Nat
  maxRecords : Nat
  deriving DecidableEq, Repr

def ExportLimits.forScope : HistoryExportScope → ExportLimits
  | .summary => ⟨2 * 1024 * 1024, 1⟩
  | .completeEvidence => ⟨256 * 1024 * 1024, 250000⟩

def exportSchema : List UInt8 := asciiBytes "guiying.history_export.v1"

def logicalDigestDomain : List UInt8 :=
  asciiBytes "guiying.history-export.logical-records.v1" ++ [0]

def ExportFormat.asStr : ExportFormat → List UInt8
  | .json => asciiBytes "json"
  | .csv => asciiBytes "csv"

def exportScopeName : HistoryExportScope → List UInt8
  | .summary => asciiBytes "summary"
  | .completeEvidence => asciiBytes "complete_evidence"

def exportProjectionName : HistoryExportProjection → List UInt8
  | .redacted => asciiBytes "redacted"
  | .display => asciiBytes "display"

def exportProfileName (request : HistoryExportRequest) : List UInt8 :=
  exportScopeName request.scope ++ asciiBytes "." ++ exportProjectionName request.projection

def csvHeader : List (List UInt8) :=
  [asciiBytes "schema_version", asciiBytes "profile", asciiBytes "section",
    asciiBytes "sequence", asciiBytes "record_json"]

/-! ## Text -/

def hexDigit (nibble : Nat) : UInt8 := (asciiBytes "0123456789abcdef").getD nibble 0

def hex (bytes : List UInt8) : List UInt8 :=
  bytes.flatMap fun byte => [hexDigit (byte.toNat / 16), hexDigit (byte.toNat % 16)]

def decimalText (value : Nat) : List UInt8 := asciiBytes (toString value)

/-- A JSON object of strings none of which needs an escape. -/
def jsonObject (fields : List (List UInt8 × List UInt8)) : List UInt8 :=
  let quoted (text : List UInt8) := asciiBytes "\"" ++ text ++ asciiBytes "\""
  asciiBytes "\x7b" ++
    (asciiBytes ",").intercalate
      (fields.map fun (key, value) => quoted key ++ asciiBytes ":" ++ quoted value) ++
    asciiBytes "\x7d"

def exportManifest (format : ExportFormat) (request : HistoryExportRequest) : List UInt8 :=
  jsonObject
    [(asciiBytes "schema", exportSchema), (asciiBytes "format", format.asStr),
      (asciiBytes "scope", exportScopeName request.scope),
      (asciiBytes "pathPolicy", exportProjectionName request.projection),
      (asciiBytes "decimalEncoding", asciiBytes "canonical_base10_string"),
      (asciiBytes "recordOrder", asciiBytes "summary,duplicate_group,duplicate_member,scan_issue"),
      (asciiBytes "filesystemAuthority", asciiBytes "omitted"),
      (asciiBytes "metadataPayloads", asciiBytes "omitted")]

def exportIntegrity (digest : List UInt8) (recordCount : Nat) : List UInt8 :=
  jsonObject
    [(asciiBytes "digestAlgorithm", asciiBytes "blake3"), (asciiBytes "logicalDigest", digest),
      (asciiBytes "recordCount", decimalText recordCount)]

/-- The buffers one CSV field is written in; only a quoted field is written byte by byte. -/
def csvFieldPieces (value : List UInt8) : List (List UInt8) :=
  if value.any fun byte => byte ∈ asciiBytes ",\"\r\n" then
    asciiBytes "\"" ::
      (value.map fun byte => if byte = ascii '"' then asciiBytes "\"\"" else [byte]) ++
      [asciiBytes "\""]
  else [value]

def csvRowPieces (fields : List (List UInt8)) : List (List UInt8) :=
  [asciiBytes ","].intercalate (fields.map csvFieldPieces) ++ [asciiBytes "\r\n"]

/-- A row of the section `name`, after the schema and the profile. -/
def csvSectionPieces (request : HistoryExportRequest) (name sequence json : List UInt8) :
    List (List UInt8) :=
  csvRowPieces [exportSchema, exportProfileName request, name, sequence, json]

/-! ## The pieces of a document -/

def manifestPieces (format : ExportFormat) (request : HistoryExportRequest) : List (List UInt8) :=
  match format with
  | .json =>
      [asciiBytes "\x7b\"manifest\":", exportManifest format request, asciiBytes ",\"records\":["]
  | .csv =>
      csvRowPieces csvHeader ++
        csvSectionPieces request (asciiBytes "manifest") [] (exportManifest format request)

def recordPieces (format : ExportFormat) (request : HistoryExportRequest) (first : Bool)
    (sequence : Nat) (canonical : List UInt8) : List (List UInt8) :=
  match format with
  | .json => if first then [canonical] else [asciiBytes ",", canonical]
  | .csv => csvSectionPieces request (asciiBytes "record") (decimalText sequence) canonical

def integrityPieces (format : ExportFormat) (request : HistoryExportRequest)
    (digest : List UInt8) (recordCount : Nat) : List (List UInt8) :=
  match format with
  | .json =>
      [asciiBytes "],\"integrity\":", exportIntegrity digest recordCount, asciiBytes "\x7d\n"]
  | .csv => csvSectionPieces request (asciiBytes "integrity") [] (exportIntegrity digest recordCount)

def lengthPrefixed (value : List UInt8) : List UInt8 := leBytes 8 value.length ++ value

/-- What the hasher has read before the first record. -/
def digestHeader (request : HistoryExportRequest) (expectedRecords : Nat) : List UInt8 :=
  logicalDigestDomain ++ lengthPrefixed (exportScopeName request.scope) ++
    lengthPrefixed (exportProjectionName request.projection) ++
    lengthPrefixed (leBytes 4 expectedRecords)

section Document

variable (blake3 : List UInt8 → List UInt8) (format : ExportFormat) (request : HistoryExportRequest)

/-- The logical digest of the records, in hexadecimal. -/
def logicalDigest (canonical : List (List UInt8)) : List UInt8 :=
  hex (blake3 (digestHeader request canonical.length ++
    (canonical.map lengthPrefixed).flatten ++ lengthPrefixed (leBytes 4 canonical.length)))

/-- The manifest and the records so far. -/
def openDocument (canonical : List (List UInt8)) : List UInt8 :=
  (manifestPieces format request).flatten ++
    (canonical.mapIdx fun sequence record =>
      (recordPieces format request (sequence = 0) sequence record).flatten).flatten

/-- The complete export of the canonical records. -/
def document (canonical : List (List UInt8)) : List UInt8 :=
  openDocument format request canonical ++
    (integrityPieces format request (logicalDigest blake3 request canonical)
      canonical.length).flatten

end Document

/-! ## The encoder -/

structure ExportEncoder where
  writer : CountingWriter
  format : ExportFormat
  request : HistoryExportRequest
  expectedRecords : Nat
  recordCount : Nat
  firstJsonRecord : Bool
  hashed : List UInt8

structure EncoderResult where
  bytesWritten : Nat
  recordCount : Nat
  logicalDigest : List UInt8
  deriving DecidableEq, Repr

def CountingWriter.writePieces (writer : CountingWriter) :
    List (List UInt8) → ExportM CountingWriter
  | [] => pure writer
  | piece :: rest => do
      let writer ← writer.writeAll piece
      writer.writePieces rest

namespace ExportEncoder

def begin (inner : Inode) (format : ExportFormat) (request : HistoryExportRequest)
    (expectedRecords outputLimit : Nat) : ExportM ExportEncoder := do
  let writer : CountingWriter := ⟨inner, 0, outputLimit⟩
  let writer ← writer.writePieces (manifestPieces format request)
  pure ⟨writer, format, request, expectedRecords, 0, true, digestHeader request expectedRecords⟩

/-- `canonical` is the answer of the JSON serializer for the record. -/
def writeRecord (encoder : ExportEncoder) (canonical : Option (List UInt8)) :
    ExportM ExportEncoder := do
  Program.ensure (encoder.recordCount < encoder.expectedRecords) .storeFailed
  let canonical ← Program.orFail .encodeFailed canonical
  Program.ensure (encoder.format ≠ .csv || Utf8.valid canonical) .encodeFailed
  let writer ← encoder.writer.writePieces
    (recordPieces encoder.format encoder.request encoder.firstJsonRecord encoder.recordCount
      canonical)
  Program.ensure (encoder.recordCount + 1 < 2 ^ 32) .outputLimitExceeded
  pure { encoder with
    writer := writer
    recordCount := encoder.recordCount + 1
    firstJsonRecord := encoder.firstJsonRecord && encoder.format ≠ .json
    hashed := encoder.hashed ++ lengthPrefixed canonical }

def finish (blake3 : List UInt8 → List UInt8) (flushed : Bool) (encoder : ExportEncoder) :
    ExportM EncoderResult := do
  Program.ensure (encoder.recordCount = encoder.expectedRecords) .storeFailed
  let digest := hex (blake3 (encoder.hashed ++ lengthPrefixed (leBytes 4 encoder.recordCount)))
  let writer ← encoder.writer.writePieces
    (integrityPieces encoder.format encoder.request digest encoder.recordCount)
  Program.ensure flushed .writeFailed
  pure ⟨writer.written, encoder.recordCount, digest⟩

end ExportEncoder

/-! ## What the encoder has written -/

theorem meets_writePieces {base : Directory} (pieces : List (List UInt8))
    (writer : CountingWriter) (body : List UInt8) :
    Program.Meets (Holding base writer.inner body) (writer.writePieces pieces)
      (fun after world => Holding base writer.inner (body ++ pieces.flatten) world ∧
        after = { writer with written := writer.written + pieces.flatten.length })
      (fun _ world => ∃ body', Holding base writer.inner body' world) := by
  induction pieces generalizing writer body with
  | nil =>
      apply Program.meets_pure
      intro world holding
      rw [List.flatten_nil, List.append_nil]
      exact ⟨holding, rfl⟩
  | cons piece rest ih =>
      apply Program.meets_bind (meets_writeAll writer piece)
      rintro after world ⟨holding, rfl⟩
      have result := ih { writer with written := writer.written + piece.length } (body ++ piece)
        world holding
      rw [List.append_assoc] at result
      rw [List.flatten_cons, List.length_append, ← Nat.add_assoc]
      exact result

/-- The encoder stands behind the manifest and the records `canonical`. -/
structure Encoded (file : Inode) (format : ExportFormat) (request : HistoryExportRequest)
    (expectedRecords : Nat) (canonical : List (List UInt8)) (encoder : ExportEncoder) : Prop where
  inner : encoder.writer.inner = file
  written : encoder.writer.written = (openDocument format request canonical).length
  format_eq : encoder.format = format
  request_eq : encoder.request = request
  expected : encoder.expectedRecords = expectedRecords
  count : encoder.recordCount = canonical.length
  first : format = .json → encoder.firstJsonRecord = decide (canonical.length = 0)
  hashed : encoder.hashed =
    digestHeader request expectedRecords ++ (canonical.map lengthPrefixed).flatten

theorem openDocument_append (format : ExportFormat) (request : HistoryExportRequest)
    (canonical : List (List UInt8)) (record : List UInt8) :
    openDocument format request (canonical ++ [record]) =
      openDocument format request canonical ++
        (recordPieces format request (canonical.length = 0) canonical.length record).flatten := by
  unfold openDocument
  rw [List.mapIdx_append, List.flatten_append, List.append_assoc]
  simp

/-- Only JSON output asks whether a record is the first one. -/
theorem recordPieces_congr {format : ExportFormat} {request : HistoryExportRequest}
    {first first' : Bool} {sequence : Nat} {record : List UInt8}
    (same : format = .json → first = first') :
    recordPieces format request first sequence record =
      recordPieces format request first' sequence record := by
  cases format with
  | json => rw [same rfl]
  | csv => rfl

section Runs

variable {base : Directory} {file : Inode} {format : ExportFormat}
  {request : HistoryExportRequest} {expectedRecords : Nat}

/-- The encoder and its file agree on what has been written. -/
def Encoding (base : Directory) (file : Inode) (format : ExportFormat)
    (request : HistoryExportRequest) (expectedRecords : Nat) (canonical : List (List UInt8))
    (encoder : ExportEncoder) (world : World) : Prop :=
  Encoded file format request expectedRecords canonical encoder ∧
    Holding base file (openDocument format request canonical) world

theorem meets_begin (outputLimit : Nat) :
    Program.Meets (Holding base file [])
      (ExportEncoder.begin file format request expectedRecords outputLimit)
      (Encoding base file format request expectedRecords [])
      (fun _ world => ∃ body, Holding base file body world) := by
  refine Program.meets_bind
    (meets_writePieces (manifestPieces format request) ⟨file, 0, outputLimit⟩ []) ?_
  intro writer
  apply Program.meets_pure
  rintro world ⟨holding, rfl⟩
  have opened : openDocument format request [] = (manifestPieces format request).flatten :=
    List.append_nil _
  rw [List.nil_append, ← opened] at holding
  refine ⟨?_, holding⟩
  constructor
  case written => rw [opened, Nat.zero_add]
  case first => exact fun _ => rfl
  case hashed => exact (List.append_nil _).symm
  all_goals rfl

theorem meets_writeRecord {canonical : List (List UInt8)} {encoder : ExportEncoder}
    (encoded : Encoded file format request expectedRecords canonical encoder)
    (serialized : Option (List UInt8)) :
    Program.Meets (Holding base file (openDocument format request canonical))
      (encoder.writeRecord serialized)
      (fun after world => ∃ record, serialized = some record ∧
        Encoding base file format request expectedRecords (canonical ++ [record]) after world)
      (fun _ world => ∃ body, Holding base file body world) := by
  obtain ⟨rfl, written, rfl, rfl, rfl, count, first, hashed⟩ := encoded
  have stopped (world : World) (holding : Holding base encoder.writer.inner
      (openDocument encoder.format encoder.request canonical) world) :
      ∃ body, Holding base encoder.writer.inner body world := ⟨_, holding⟩
  apply Program.meets_ensure_bind (fun _ => stopped)
  intro _
  apply Program.meets_orFail_bind (fun _ => stopped)
  intro record found
  apply Program.meets_ensure_bind (fun _ => stopped)
  intro _
  apply Program.meets_bind (meets_writePieces _ _ _)
  intro writer
  have pieces : recordPieces encoder.format encoder.request encoder.firstJsonRecord
      encoder.recordCount record = recordPieces encoder.format encoder.request
        (canonical.length = 0) canonical.length record := by
    rw [count]
    exact recordPieces_congr first
  rw [pieces, ← openDocument_append]
  apply Program.meets_ensure_bind (fun _ world after => ⟨_, after.1⟩)
  intro _
  apply Program.meets_pure
  rintro world ⟨holding, rfl⟩
  refine ⟨record, found, ?_, holding⟩
  constructor
  case written => rw [openDocument_append, List.length_append, ← written]
  case count => rw [List.length_append, ← count]; rfl
  case first =>
    intro json
    simp [json]
  case hashed =>
    change encoder.hashed ++ _ = _
    simp [hashed]
  all_goals rfl

theorem meets_finish {canonical : List (List UInt8)} {encoder : ExportEncoder}
    (encoded : Encoded file format request expectedRecords canonical encoder)
    (blake3 : List UInt8 → List UInt8) (flushed : Bool) :
    Program.Meets (Holding base file (openDocument format request canonical))
      (encoder.finish blake3 flushed)
      (fun result world => Holding base file (document blake3 format request canonical) world ∧
        result = ⟨(document blake3 format request canonical).length, canonical.length,
          logicalDigest blake3 request canonical⟩)
      (fun _ world => ∃ body, Holding base file body world) := by
  obtain ⟨rfl, written, rfl, rfl, rfl, count, first, hashed⟩ := encoded
  apply Program.meets_ensure_bind (fun _ _ holding => ⟨_, holding⟩)
  intro complete
  have complete : encoder.recordCount = encoder.expectedRecords := of_decide_eq_true complete
  have digest : hex (blake3 (encoder.hashed ++
      lengthPrefixed (leBytes 4 encoder.recordCount))) =
        logicalDigest blake3 encoder.request canonical := by
    unfold logicalDigest
    rw [hashed, ← complete, count]
  dsimp only
  rw [digest]
  apply Program.meets_bind (meets_writePieces _ _ _)
  intro writer
  rw [count]
  apply Program.meets_ensure_bind (fun _ world after => ⟨_, after.1⟩)
  intro _
  apply Program.meets_pure
  rintro world ⟨holding, rfl⟩
  refine ⟨holding, ?_⟩
  dsimp only
  rw [written, document, List.length_append]

end Runs

end Guiying.Export
