import Guiying.Export.DocumentReaders
import Guiying.Export.LinkReached
import Guiying.Store.DigestCodes
import Guiying.Store.RecordTexts

/-!
# What a published export holds

A run that succeeds has published a file within the limits of its scope in which
any reader finds the records of the store, and its digest tells such files apart.
-/

namespace Guiying.Export

open Guiying.Foundation Guiying.Foundation.ByteString Guiying.Store

/-! ## Limits -/

/-- The writer has room for what it has written. -/
def CountingWriter.Within (limit : Nat) (writer : CountingWriter) : Prop :=
  writer.limit = limit ∧ writer.written ≤ limit

section Limits

variable {limit expected : Nat}

theorem returns_writeAll {writer : CountingWriter} (within : writer.Within limit)
    (buffer : List UInt8) :
    Program.Returns (writer.writeAll buffer) (CountingWriter.Within limit) := by
  obtain ⟨rfl, below⟩ := within
  intro world _
  unfold CountingWriter.writeAll
  dsimp only
  cases done : (writeAllFrom writer.limit world.writes writer.written buffer).outcome with
  | ok _ => exact ⟨rfl, writeAllFrom_within below done⟩
  | error _ => exact trivial

theorem returns_writePieces (pieces : List (List UInt8)) {writer : CountingWriter}
    (within : writer.Within limit) :
    Program.Returns (writer.writePieces pieces) (CountingWriter.Within limit) := by
  induction pieces generalizing writer with
  | nil => exact Program.yields_pure within
  | cons piece rest ih => exact (returns_writeAll within piece).bind fun _ after => ih after

namespace ExportEncoder

/-- The encoder keeps to its limit and to the number of records it was told. -/
structure Within (limit expected : Nat) (encoder : ExportEncoder) : Prop where
  writer : encoder.writer.Within limit
  expected : encoder.expectedRecords = expected

theorem returns_begin (file : Inode) (format : ExportFormat) (request : HistoryExportRequest) :
    Program.Returns (begin file format request expected limit) (Within limit expected) := by
  have opened : CountingWriter.Within limit ⟨file, 0, limit⟩ := ⟨rfl, Nat.zero_le _⟩
  refine (returns_writePieces (manifestPieces format request) opened).bind fun writer after => ?_
  exact Program.yields_pure ⟨after, rfl⟩

theorem returns_writeRecord {encoder : ExportEncoder} (within : encoder.Within limit expected)
    (serialized : Option (List UInt8)) :
    Program.Returns (encoder.writeRecord serialized) (Within limit expected) := by
  apply Program.returns_ensure_bind
  intro _
  apply Program.returns_orFail_bind
  intro canonical _
  apply Program.returns_ensure_bind
  intro _
  refine (returns_writePieces _ within.writer).bind fun writer after => ?_
  apply Program.returns_ensure_bind
  intro _
  exact Program.yields_pure ⟨after, within.expected⟩

theorem returns_finish {encoder : ExportEncoder} (within : encoder.Within limit expected)
    (blake3 : List UInt8 → List UInt8) (flushed : Bool) :
    Program.Returns (encoder.finish blake3 flushed)
      fun result => result.bytesWritten ≤ limit ∧ result.recordCount = expected := by
  apply Program.returns_ensure_bind
  intro complete
  have complete : encoder.recordCount = encoder.expectedRecords := of_decide_eq_true complete
  refine (returns_writePieces _ within.writer).bind fun writer after => ?_
  apply Program.returns_ensure_bind
  intro _
  exact Program.yields_pure ⟨after.1 ▸ after.2, complete.trans within.expected⟩

end ExportEncoder

section Store

variable {ρ : Type} (toVec : ρ → Option (List UInt8)) (calls : Calls)

theorem returns_writeBatch (records : List ρ) {encoder : ExportEncoder}
    (within : encoder.Within limit expected) :
    Program.Returns (writeBatch toVec calls records encoder)
      (ExportEncoder.Within limit expected) := by
  induction records generalizing encoder with
  | nil => exact Program.yields_pure within
  | cons record rest ih =>
      apply Program.returns_skip_bind
      intro _
      exact (encoder.returns_writeRecord within (toVec record)).mapError.bind fun _ after => ih after

theorem returns_writePages (pages : List (StorePage ρ)) {encoder : ExportEncoder}
    (within : encoder.Within limit expected) :
    Program.Returns (writePages toVec calls pages encoder)
      (ExportEncoder.Within limit expected) := by
  induction pages generalizing encoder with
  | nil =>
      apply Program.returns_skip_bind
      intro _
      exact Program.yields_pure within
  | cons page rest ih =>
      apply Program.returns_skip_bind
      intro _
      cases page with
      | empty => exact ih within
      | refused => exact Program.yields_fail trivial
      | rejected =>
          apply Program.returns_skip_bind
          intro _
          exact Program.yields_fail trivial
      | batch records =>
          apply Program.returns_skip_bind
          intro _
          exact (returns_writeBatch toVec calls records within).bind fun _ after => ih after

/-- What the result of the snapshot keeps to. -/
structure Admitted (scope : HistoryExportScope) (store : StoreRun ρ)
    (bytesWritten recordCount : Nat) : Prop where
  bytes : bytesWritten ≤ (ExportLimits.forScope scope).maxOutputBytes
  announced : store.opening = some recordCount
  records : recordCount ≤ (ExportLimits.forScope scope).maxRecords

variable (blake3 : List UInt8 → List UInt8) (store : StoreRun ρ) (format : ExportFormat)
  (request : HistoryExportRequest)

theorem returns_withScanHistoryExportSnapshot (temp : OwnedTemp) :
    Program.Returns (withScanHistoryExportSnapshot toVec calls blake3 store format request temp)
      fun result => Admitted request.scope store result.bytesWritten result.recordCount := by
  apply Program.returns_orFail_bind
  intro expected announced
  apply Program.returns_ensure_bind
  intro admitted
  apply Program.returns_orFail_bind
  intro file _
  refine (ExportEncoder.returns_begin file format request).mapError.bind fun encoder opened => ?_
  refine (returns_writePages toVec calls store.pages opened).bind fun encoder filled => ?_
  refine (encoder.returns_finish filled blake3 calls.encoderFlush).mapError.bind
    fun result finished => ?_
  apply Program.returns_ensure_bind
  intro _
  obtain ⟨bytes, rfl⟩ := finished
  exact Program.yields_pure ⟨bytes, announced, of_decide_eq_true admitted⟩

theorem returns_publish (target : BoundExportTarget) (temp : OwnedTemp) :
    Program.Returns (publish toVec calls blake3 store format request target temp)
      fun artifact => Admitted request.scope store artifact.bytesWritten artifact.recordCount := by
  refine (returns_withScanHistoryExportSnapshot toVec calls blake3 store format request
    temp).mapError.bind fun result admitted => ?_
  -- what follows neither changes the result nor asks it
  iterate 6
    apply Program.returns_skip_bind
    intro _
  exact Program.yields_pure admitted

theorem returns_writeHistoryExport (target : BoundExportTarget) :
    Program.Returns (writeHistoryExport toVec calls blake3 store format request target)
      fun artifact => Admitted request.scope store artifact.bytesWritten artifact.recordCount := by
  apply Program.returns_ensure_bind
  intro _
  apply Program.returns_skip_bind
  intro _
  apply Program.returns_skip_bind
  intro temp
  exact (returns_publish toVec calls blake3 store format request target temp).withCleanup

end Store

end Limits

/-! ## What the readers find -/

/-- What a reader of the format finds in an export of these records. -/
def ReadsBack (blake3 : List UInt8 → List UInt8) (request : HistoryExportRequest)
    (records : List HistoryExportRecord) (content : List UInt8) : ExportFormat → Prop
  | .csv =>
      let canonical := records.map HistoryExportRecord.json
      Csv.read content =
        some (exportRows request canonical (logicalDigest blake3 request canonical))
  | .json => ∃ manifest elements integrity,
      Json.read content = some (exportValue manifest elements integrity) ∧
      manifest.compact = exportManifest .json request ∧
      elements.map Json.Value.compact = records.map HistoryExportRecord.json ∧
      integrity.compact = exportIntegrity
        (logicalDigest blake3 request (records.map HistoryExportRecord.json)) records.length

theorem document_readsBack (blake3 : List UInt8 → List UInt8) (format : ExportFormat)
    (request : HistoryExportRequest) (records : List HistoryExportRecord) :
    ReadsBack blake3 request records
      (document blake3 format request (records.map HistoryExportRecord.json)) format := by
  cases format with
  | csv => exact read_document_csv blake3 request _
  | json =>
      have written : (records.map fun record => Json.valueOf record.json).map
          Json.Value.compact = records.map HistoryExportRecord.json := by
        rw [List.map_map]
        exact List.map_congr_left fun record _ => Json.compact_valueOf record.isCompact_json
      have read := read_document_json blake3 request
        (records.map fun record => Json.valueOf record.json)
      rw [written, List.length_map] at read
      exact ⟨_, _, _, read, Json.compact_valueOf (isCompact_exportManifest .json request), written,
        Json.compact_valueOf (isCompact_exportIntegrity _ _)⟩

/-- Dropping the temporary file of a published run leaves it published. -/
theorem Published.drop {directory : Directory} {name : FileName} {body : List UInt8}
    {target : BoundExportTarget} {world : World}
    (published : Published (directory.create name) directory.next body
      (.created target.parent name directory.next) target world) (answer : StatAnswer) :
    Published (directory.create name) directory.next body
      (.created target.parent name directory.next) target
      ((OwnedTemp.created target.parent name directory.next).drop answer world) := by
  rcases published_shape target directory published with linked | gone
  · unfold OwnedTemp.drop
    split
    case isFalse _ => exact published
    case isTrue _ =>
      exact ⟨published.free, .inr (congrArg (fun directory => Directory.unlink directory name) linked),
        published.consistent⟩
  · have absent : world.directory.entries name = none := by
      rw [gone]
      exact Directory.unlink_entries_self _ _
    rw [drop_of_none absent]
    exact published

/-- A run that succeeds has published a document of the records its pages hold. -/
theorem exportRun_published {ρ : Type} {toVec : ρ → Option (List UInt8)} {calls : Calls}
    {blake3 : List UInt8 → List UInt8} {store : StoreRun ρ} {format : ExportFormat}
    {request : HistoryExportRequest} {target : BoundExportTarget} {directory : Directory}
    {writes : List WriteAnswer} {artifact : ExportArtifact}
    (succeeded : (exportRun toVec calls blake3 store format request target directory writes).1 =
      .ok artifact) :
    ∃ name result body world, Documented toVec blake3 store format request result body ∧
      (artifact.bytesWritten = result.bytesWritten ∧ artifact.recordCount = result.recordCount ∧
        artifact.logicalDigest = result.logicalDigest) ∧
      Published (directory.create name) directory.next body
        (.created target.parent name directory.next) target world ∧
      (exportRun toVec calls blake3 store format request target directory writes).2.directory =
        world.directory := by
  unfold exportRun at succeeded ⊢
  by_cases makes : calls.starts = true ∧ ∃ name, target.createsTemp calls directory = some name
  · obtain ⟨starts, name, made⟩ := makes
    cases accepted : acceptsTemp calls target.parent directory.next with
    | false =>
        rw [(writeHistoryExport_refused toVec calls blake3 store format request target directory
          writes starts made accepted).2] at succeeded
        cases succeeded
    | true =>
        obtain ⟨free, ran⟩ := writeHistoryExport_owned toVec calls blake3 store format request
          target directory writes starts made accepted
        have outcome := beforeDrop_outcome toVec calls blake3 store format request target
          directory writes name
        rw [ran] at succeeded ⊢
        cases ended : beforeDrop toVec calls blake3 store format request target directory writes
          name with
        | mk result world =>
            rw [ended] at outcome succeeded
            change result = .ok artifact at succeeded
            subst succeeded
            obtain ⟨result, body, documented, bytes, records, digest, published⟩ := outcome
            exact ⟨name, result, body, _, documented, ⟨bytes, records, digest⟩,
              published.drop calls.tempAtDrop, rfl⟩
  · have unchanged : calls.starts = true → target.createsTemp calls directory = none := by
      intro starts
      cases made : target.createsTemp calls directory with
      | none => rfl
      | some name => exact absurd ⟨starts, name, made⟩ makes
    obtain ⟨error, world, ran, _, _⟩ := writeHistoryExport_unchanged toVec calls blake3
      store format request target directory writes unchanged
    rw [ran] at succeeded
    cases succeeded

section Runs

variable (blake3 : List UInt8 → List UInt8) {calls : Calls} {store : StoreRun HistoryExportRecord}
  {format : ExportFormat} {request : HistoryExportRequest} {target : BoundExportTarget}
  {directory : Directory} {writes : List WriteAnswer} {artifact : ExportArtifact}

/-- The export of one store under a request. -/
def exportRecords (calls : Calls) (store : StoreRun HistoryExportRecord) (format : ExportFormat)
    (request : HistoryExportRequest) (target : BoundExportTarget) (directory : Directory)
    (writes : List WriteAnswer) : Except ExportTargetError ExportArtifact × World :=
  exportRun (fun record : HistoryExportRecord => some record.json) calls blake3 store format request
    target directory writes

/-- The artifact describes the records, and the target names a new file with their export. -/
structure Publishes (store : StoreRun HistoryExportRecord) (format : ExportFormat)
    (request : HistoryExportRequest) (target : BoundExportTarget) (directory : Directory)
    (artifact : ExportArtifact) (ended : World) : Prop where
  free : directory.entries target.fileName = none
  file : ∃ inode, ended.directory.entries target.fileName = some inode ∧
    ReadsBack blake3 request store.records (ended.directory.contents inode) format ∧
    artifact.bytesWritten = (ended.directory.contents inode).length
  admitted : Admitted request.scope store artifact.bytesWritten artifact.recordCount
  counted : artifact.recordCount = store.records.length
  digest : artifact.logicalDigest =
    logicalDigest blake3 request (store.records.map HistoryExportRecord.json)

/-- A run that succeeds has linked the document of the records its pages hold. -/
theorem exportRecords_published
    (succeeded : (exportRecords blake3 calls store format request target directory writes).1 =
      .ok artifact) :
    ∃ name world body,
      body = document blake3 format request (store.records.map HistoryExportRecord.json) ∧
      artifact.bytesWritten = body.length ∧ artifact.recordCount = store.records.length ∧
      artifact.logicalDigest =
        logicalDigest blake3 request (store.records.map HistoryExportRecord.json) ∧
      Published (directory.create name) directory.next body
        (.created target.parent name directory.next) target world ∧
      (exportRecords blake3 calls store format request target directory writes).2.directory =
        world.directory := by
  obtain ⟨name, _, body, world, ⟨canonical, serialized, written, rfl⟩, ⟨bytes, records, digest⟩,
    published, ended⟩ := exportRun_published succeeded
  have canonical_eq : canonical = store.records.map HistoryExportRecord.json := by
    have same : (store.records.map HistoryExportRecord.json).map some = canonical.map some := by
      rw [List.map_map]
      exact serialized
    exact (List.map_injective_iff.mpr (Option.some_injective _) same).symm
  subst canonical_eq
  rw [List.length_map] at records
  exact ⟨name, world, body, written, bytes, records, digest, published, ended⟩

/-- A run that succeeds publishes exactly the records its pages hold. -/
theorem exportRecords_publishes
    (succeeded : (exportRecords blake3 calls store format request target directory writes).1 =
      .ok artifact) :
    Publishes blake3 store format request target directory artifact
      (exportRecords blake3 calls store format request target directory writes).2 := by
  have admitted : Admitted request.scope store artifact.bytesWritten artifact.recordCount :=
    (returns_writeHistoryExport _ calls blake3 store format request target).of_ok succeeded
  obtain ⟨name, world, body, written, bytes, records, digest, published, ended⟩ :=
    exportRecords_published blake3 succeeded
  obtain ⟨entry, contents⟩ := published_target target directory published
  constructor
  case free => exact target_free target directory published
  case file =>
    rw [ended]
    refine ⟨directory.next, entry, ?_, ?_⟩
    · rw [contents, written]
      exact document_readsBack blake3 format request store.records
    · rw [contents, bytes]
  case admitted => exact admitted
  case counted => exact records
  case digest => exact digest

/-! One export, on a volume that keeps permission bits. -/

/-- The volume keeps the mode that `fchmod` asks for. -/
def keptAttributes : Attributes := ⟨.regular, 1, 1, 501, 0o600⟩

def keptAnswers : VerifyAnswers := ⟨some keptAttributes, some keptAttributes⟩

def keptCalls : Calls :=
  { looseCalls with
    verifyAtCreate := keptAnswers
    verifyBeforeCommit := keptAnswers
    verifyAtCommit := keptAnswers }

/-- One duplicate group, after an empty page. -/
def sampleStore : StoreRun HistoryExportRecord :=
  ⟨some 1, [.empty, .batch [.duplicateGroup
    ⟨decimal 7, decimal 9, decimal 2, decimal 1, decimal 2, decimal 10, decimal 11⟩]], true⟩

/-- With those calls every store succeeds whose records fit. -/
theorem exportRecords_keptCalls_succeeds {store : StoreRun HistoryExportRecord}
    {format : ExportFormat} {request : HistoryExportRequest}
    (opening : store.opening = some store.records.length)
    (few : store.records.length ≤ (ExportLimits.forScope request.scope).maxRecords)
    (handed : Handed store.pages) (closing : store.closing = true)
    (fit : RecordsFit format (store.records.map HistoryExportRecord.json))
    (short : (document blake3 format request
      (store.records.map HistoryExportRecord.json)).length ≤
        (ExportLimits.forScope request.scope).maxOutputBytes) :
    ∃ artifact, (exportRecords blake3 keptCalls store format request sampleTarget emptyDirectory
      []).1 = .ok artifact := by
  have count : (store.records.map HistoryExportRecord.json).length = store.records.length :=
    List.length_map _
  have written : WritesDocument (fun record : HistoryExportRecord => some record.json) keptCalls
      blake3 store format request 1 [] (store.records.map HistoryExportRecord.json) := by
    constructor
    case opening => rw [count, opening]
    case few => exact count ▸ few
    case handed => exact handed
    case serialized => rw [List.map_map]; rfl
    case fit => exact fit
    case short => exact short
    case taken => exact .unlisted _
    case flushed => rfl
    case closing => exact closing
    case quiet => exact fun _ _ => ⟨rfl, rfl⟩
  have made : sampleTarget.createsTemp keptCalls emptyDirectory =
      some (tempName (List.replicate 24 0)) := rfl
  refine exportRun_ok_of_reachesLink _ _ blake3 _ _ _ _ _ _ rfl made rfl ?_
  constructor
  case document => exact ⟨_, written⟩
  case quiet => exact fun _ _ => ⟨rfl, rfl⟩
  case links => exact ⟨rfl, rfl, rfl, rfl, rfl⟩
  all_goals rfl

theorem sampleStore_succeeds (format : ExportFormat) :
    ∃ artifact, (exportRecords id keptCalls sampleStore format ⟨.summary, .redacted⟩ sampleTarget
      emptyDirectory []).1 = .ok artifact := by
  apply exportRecords_keptCalls_succeeds
  case opening => rfl
  case few => decide
  case handed =>
    unfold Handed
    decide
  case closing => rfl
  case fit =>
    unfold RecordsFit
    cases format <;> decide +kernel
  case short => cases format <;> decide +kernel

theorem exportRecords_publishes_sampleStore :
    ∃ artifact, Publishes id sampleStore .csv ⟨.summary, .redacted⟩ sampleTarget emptyDirectory
      artifact (exportRecords id keptCalls sampleStore .csv ⟨.summary, .redacted⟩ sampleTarget
        emptyDirectory []).2 := by
  obtain ⟨artifact, succeeded⟩ := sampleStore_succeeds .csv
  exact ⟨artifact, exportRecords_publishes id succeeded⟩

end Runs

/-! ## What the digest tells apart -/

/-- What the hasher reads of an export. -/
def digestInput (request : HistoryExportRequest) (canonical : List (List UInt8)) : List UInt8 :=
  digestHeader request canonical.length ++ canonical.flatMap lengthPrefixed ++
    lengthPrefixed (leBytes 4 canonical.length)

theorem logicalDigest_eq (blake3 : List UInt8 → List UInt8) (request : HistoryExportRequest)
    (canonical : List (List UInt8)) :
    logicalDigest blake3 request canonical = hex (blake3 (digestInput request canonical)) := by
  rw [logicalDigest, digestInput, List.flatMap]

theorem hex_injective : Function.Injective hex := by
  have digits : ∀ high < 16, ∀ low < 16, hexDigit high = hexDigit low → high = low := by decide
  intro bytes others same
  induction bytes generalizing others with
  | nil =>
      cases others with
      | nil => rfl
      | cons other others => cases same
  | cons byte bytes ih =>
      cases others with
      | nil => cases same
      | cons other others =>
          have small := byte.toNat_lt
          have small' := other.toNat_lt
          unfold hex at same
          rw [List.flatMap_cons, List.flatMap_cons, List.cons_append, List.cons_append] at same
          obtain ⟨high, same⟩ := List.cons.inj same
          obtain ⟨low, same⟩ := List.cons.inj same
          have high := digits _ (by omega) _ (by omega) high
          have low := digits _ (Nat.mod_lt _ (by decide)) _ (Nat.mod_lt _ (by decide)) low
          have equal : byte = other := UInt8.toNat_inj.mp (by omega)
          rw [equal, ih same]

theorem prefixed_free :
    PrefixFree {bytes : List UInt8 | bytes.length < 256 ^ 8} lengthPrefixed :=
  .header (leBytes_prefixFree 8)

theorem scopeName_injective : Function.Injective exportScopeName := by
  intro scope other same
  cases scope <;> cases other <;> first | rfl | exact absurd same (by decide)

theorem projectionName_injective : Function.Injective exportProjectionName := by
  intro projection other same
  cases projection <;> cases other <;> first | rfl | exact absurd same (by decide)

/-- The hasher reads different bytes for different requests or different records. -/
theorem digestInput_inj {request request' : HistoryExportRequest}
    {canonical canonical' : List (List UInt8)} (few : canonical.length < 256 ^ 4)
    (few' : canonical'.length < 256 ^ 4) (short : ∀ record ∈ canonical, record.length < 256 ^ 8)
    (short' : ∀ record ∈ canonical', record.length < 256 ^ 8)
    (same : digestInput request canonical = digestInput request' canonical') :
    request = request' ∧ canonical = canonical' := by
  have scopes (scope : HistoryExportScope) : (exportScopeName scope).length < 256 ^ 8 := by
    cases scope <;> decide
  have projections (projection : HistoryExportProjection) :
      (exportProjectionName projection).length < 256 ^ 8 := by
    cases projection <;> decide
  have counts (count : Nat) : (leBytes 4 count).length < 256 ^ 8 := by
    rw [length_leBytes]
    decide
  simp only [digestInput, digestHeader, List.append_assoc] at same
  have same := List.append_cancel_left same
  obtain ⟨scope, same⟩ := prefixed_free (scopes _) (scopes _) same
  obtain ⟨projection, same⟩ := prefixed_free (projections _) (projections _) same
  obtain ⟨count, same⟩ := prefixed_free (counts _) (counts _) same
  have lengths : canonical.length = canonical'.length := by
    rw [← readLittleEndian_leBytes few, count, readLittleEndian_leBytes few']
  obtain ⟨records, _⟩ := prefixed_free.flatMap_of_length short short' lengths same
  have requests : request = request' := by
    cases request
    cases request'
    exact congrArg₂ HistoryExportRequest.mk (scopeName_injective scope)
      (projectionName_injective projection)
  exact ⟨requests, records⟩

section Runs

variable {blake3 : List UInt8 → List UInt8} {calls calls' : Calls}
  {store store' : StoreRun HistoryExportRecord} {format format' : ExportFormat}
  {request request' : HistoryExportRequest} {target target' : BoundExportTarget}
  {directory directory' : Directory} {writes writes' : List WriteAnswer}
  {artifact artifact' : ExportArtifact}

/-- The sizes of a published export are far below what the hasher's prefixes can say. -/
theorem exportRecords_small
    (succeeded : (exportRecords blake3 calls store format request target directory writes).1 =
      .ok artifact) :
    (store.records.map HistoryExportRecord.json).length < 256 ^ 4 ∧
      ∀ text ∈ store.records.map HistoryExportRecord.json, text.length < 256 ^ 8 := by
  obtain ⟨bytes, _, records⟩ := (returns_writeHistoryExport _ calls blake3 store format request
    target).of_ok succeeded
  have limits : (ExportLimits.forScope request.scope).maxOutputBytes < 256 ^ 8 ∧
      (ExportLimits.forScope request.scope).maxRecords < 256 ^ 4 := by
    cases request.scope <;> decide
  obtain ⟨_, _, body, document, written, counted, _⟩ := exportRecords_published blake3 succeeded
  constructor
  · rw [List.length_map]
    omega
  · intro text inside
    have within := length_le_document blake3 format request inside
    rw [← document] at within
    omega

/-- Two published exports have one digest exactly when they were asked for the same and hold the
same records, whatever their formats and however the store paged them. -/
theorem exportRecords_digest_eq_iff
    (succeeded : (exportRecords blake3 calls store format request target directory writes).1 =
      .ok artifact)
    (succeeded' : (exportRecords blake3 calls' store' format' request' target' directory'
      writes').1 = .ok artifact')
    (apart : Set.InjOn blake3
      {digestInput request (store.records.map HistoryExportRecord.json),
        digestInput request' (store'.records.map HistoryExportRecord.json)}) :
    artifact.logicalDigest = artifact'.logicalDigest ↔
      request = request' ∧ store.records = store'.records := by
  obtain ⟨few, short⟩ := exportRecords_small succeeded
  obtain ⟨few', short'⟩ := exportRecords_small succeeded'
  obtain ⟨_, _, _, _, _, _, digest, _⟩ := exportRecords_published blake3 succeeded
  obtain ⟨_, _, _, _, _, _, digest', _⟩ := exportRecords_published blake3 succeeded'
  rw [digest, digest', logicalDigest_eq, logicalDigest_eq]
  constructor
  · intro same
    have inputs := apart (.inl rfl) (.inr rfl) (hex_injective same)
    obtain ⟨requests, texts⟩ := digestInput_inj few few' short short' inputs
    exact ⟨requests, List.map_injective_iff.mpr HistoryExportRecord.json_injective texts⟩
  · rintro ⟨rfl, records⟩
    rw [records]

theorem exportRecords_digest_eq_iff_sampleStore :
    ∃ json csv, (exportRecords id keptCalls sampleStore .json ⟨.summary, .redacted⟩ sampleTarget
        emptyDirectory []).1 = .ok json ∧
      (exportRecords id keptCalls sampleStore .csv ⟨.summary, .redacted⟩ sampleTarget
        emptyDirectory []).1 = .ok csv ∧ json.logicalDigest = csv.logicalDigest := by
  obtain ⟨json, jsonRun⟩ := sampleStore_succeeds .json
  obtain ⟨csv, csvRun⟩ := sampleStore_succeeds .csv
  exact ⟨json, csv, jsonRun, csvRun,
    (exportRecords_digest_eq_iff jsonRun csvRun Function.injective_id.injOn).mpr ⟨rfl, rfl⟩⟩

end Runs

end Guiying.Export
