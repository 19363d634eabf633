import Guiying.Export.Encoder
import Guiying.Foundation.Csv
import Guiying.Foundation.Decimal
import Guiying.Foundation.JsonReader

/-!
# Reading an export

What a reader of CSV and a reader of JSON find in a document. Both find the
manifest, the canonical records in order and the integrity block.
-/

namespace Guiying.Export

open Guiying.Foundation Guiying.Foundation.ByteString

/-! ## CSV -/

section Csv

variable (request : HistoryExportRequest)

def sectionRow (name sequence json : List UInt8) : Csv.Row :=
  [exportSchema, exportProfileName request, name, sequence, json]

def recordRows (canonical : List (List UInt8)) : List Csv.Row :=
  canonical.mapIdx fun sequence record =>
    sectionRow request (asciiBytes "record") (decimalText sequence) record

/-- The rows of a CSV export. -/
def exportRows (canonical : List (List UInt8)) (digest : List UInt8) : List Csv.Row :=
  [csvHeader, sectionRow request (asciiBytes "manifest") [] (exportManifest .csv request)] ++
    recordRows request canonical ++
    [sectionRow request (asciiBytes "integrity") [] (exportIntegrity digest canonical.length)]

end Csv

theorem flatten_csvFieldPieces (value : List UInt8) : (csvFieldPieces value).flatten = Csv.field value := by
  have characters : asciiBytes ",\"\r\n" = Csv.special := by decide
  unfold csvFieldPieces Csv.field
  rw [characters]
  split
  case isTrue _ =>
    rw [List.cons_append, List.flatten_cons, List.flatten_append, List.flatten_singleton]
    rfl
  case isFalse _ => exact List.append_nil value

theorem flatten_intercalate {α : Type} (separator : List α) (pieces : List (List (List α))) :
    ([separator].intercalate pieces).flatten =
      separator.intercalate (pieces.map List.flatten) := by
  induction pieces with
  | nil => rfl
  | cons first rest ih =>
      cases rest with
      | nil => simp [List.intercalate_singleton]
      | cons second rest =>
          rw [List.intercalate_cons_cons, List.map_cons, List.map_cons, List.intercalate_cons_cons,
            List.flatten_append, List.flatten_append, ih, List.flatten_singleton, List.map_cons]

theorem flatten_csvRowPieces (fields : List (List UInt8)) :
    (csvRowPieces fields).flatten = Csv.row fields := by
  have flattened : (fields.map csvFieldPieces).map List.flatten = fields.map Csv.field := by
    rw [List.map_map]
    exact List.map_congr_left fun value _ => flatten_csvFieldPieces value
  rw [csvRowPieces, List.flatten_append, flatten_intercalate, flattened]
  rfl

/-- A CSV export is its rows. -/
theorem document_csv (blake3 : List UInt8 → List UInt8) (request : HistoryExportRequest)
    (canonical : List (List UInt8)) :
    document blake3 .csv request canonical =
      Csv.document (exportRows request canonical (logicalDigest blake3 request canonical)) := by
  have records : (canonical.mapIdx fun sequence record =>
      (recordPieces .csv request (sequence = 0) sequence record).flatten) =
        (recordRows request canonical).map Csv.row := by
    rw [recordRows, List.mapIdx_eq_zipIdx_map, List.mapIdx_eq_zipIdx_map, List.map_map]
    exact List.map_congr_left fun _ _ => flatten_csvRowPieces _
  unfold document openDocument exportRows
  rw [records, manifestPieces, integrityPieces, List.flatten_append, flatten_csvRowPieces]
  unfold csvSectionPieces
  rw [flatten_csvRowPieces, flatten_csvRowPieces]
  simp [Csv.document, sectionRow, List.flatMap]

theorem exportRows_named (request : HistoryExportRequest) (canonical : List (List UInt8))
    (digest : List UInt8) : ∀ fields ∈ exportRows request canonical digest, fields ≠ [] := by
  intro fields inside
  unfold exportRows recordRows at inside
  simp only [List.mem_append, List.mem_cons, List.not_mem_nil, or_false, List.mem_mapIdx] at inside
  rcases inside with ((rfl | rfl) | ⟨_, _, rfl⟩) | rfl <;> exact List.cons_ne_nil _ _

/-! ## JSON -/

/-- Text that JSON writes as it is. -/
def PlainText (text : List UInt8) : Prop := ∀ byte ∈ text, Json.Plain byte

instance (text : List UInt8) : Decidable (PlainText text) :=
  List.decidableBAll Json.Plain text

theorem plainText_hex (bytes : List UInt8) : PlainText (hex bytes) := by
  have digits : ∀ nibble < 16, Json.Plain (hexDigit nibble) := by decide
  intro digit inside
  obtain ⟨byte, _, member⟩ := List.mem_flatMap.mp inside
  have small := byte.toNat_lt
  rcases List.mem_cons.mp member with rfl | member
  · exact digits _ (by omega)
  · rw [List.mem_singleton] at member
    subst member
    exact digits _ (Nat.mod_lt _ (by decide))

theorem plainText_decimalText (value : Nat) : PlainText (decimalText value) := by
  have characters : (toString value).toList = Nat.toDigits 10 value := Nat.toList_repr
  intro digit inside
  unfold decimalText asciiBytes at inside
  rw [characters] at inside
  obtain ⟨character, member, rfl⟩ := List.mem_map.mp inside
  have range := Decimal.toNat_of_isDigit (Decimal.isDigit_of_mem member)
  have number : (ascii character).toNat = character.toNat :=
    UInt8.toNat_ofNat_of_lt' (lt_of_le_of_lt range.2 (by decide))
  have apart (control : UInt8) (low : control.toNat < 48 ∨ 57 < control.toNat) :
      ascii character ≠ control := by
    rintro rfl
    omega
  refine ⟨apart 34 (.inl (by decide)), apart 92 (.inr (by decide)), ?_⟩
  rw [UInt8.le_iff_toNat_le, number]
  exact Nat.le_trans (by decide) range.1

theorem plainText_profile (request : HistoryExportRequest) (format : ExportFormat) :
    PlainText format.asStr ∧ PlainText (exportScopeName request.scope) ∧
      PlainText (exportProjectionName request.projection) := by
  obtain ⟨scope, projection⟩ := request
  cases format <;> cases scope <;> cases projection <;> decide

/-- An object of plain texts. -/
theorem jsonObject_eq {fields : List (List UInt8 × List UInt8)}
    (plain : ∀ field ∈ fields, PlainText field.1 ∧ PlainText field.2) :
    jsonObject fields =
      (Json.Value.object (fields.map fun field => (field.1, .text field.2))).compact := by
  have written : (fields.map fun field => (field.1, Json.Value.text field.2)).map
      (fun member => Json.namedText member.1 member.2.compact) =
        fields.map fun field => asciiBytes "\"" ++ field.1 ++ asciiBytes "\"" ++
          asciiBytes ":" ++ (asciiBytes "\"" ++ field.2 ++ asciiBytes "\"") := by
    rw [List.map_map]
    refine List.map_congr_left fun field inside => ?_
    obtain ⟨key, value⟩ := plain field inside
    change Json.text field.1 ++ [58] ++ Json.text field.2 = _
    rw [Json.text_of_plain key, Json.text_of_plain value]
    rfl
  rw [Json.Value.compact, Json.compactMembers_eq]
  exact congrArg (Json.enclosed 123 125) written.symm

theorem isCompact_exportManifest (format : ExportFormat) (request : HistoryExportRequest) :
    Json.IsCompact (exportManifest format request) := by
  obtain ⟨name, scope, projection⟩ := plainText_profile request format
  refine ⟨_, (jsonObject_eq ?_).symm⟩
  simp only [List.forall_mem_cons, List.not_mem_nil, false_implies, implies_true, and_true]
  refine ⟨⟨?_, ?_⟩, ⟨?_, name⟩, ⟨?_, scope⟩, ⟨?_, projection⟩, ⟨?_, ?_⟩, ⟨?_, ?_⟩, ⟨?_, ?_⟩, ?_, ?_⟩
  all_goals decide

theorem isCompact_exportIntegrity (digest : List UInt8) (recordCount : Nat) :
    Json.IsCompact (exportIntegrity (hex digest) recordCount) := by
  refine ⟨_, (jsonObject_eq ?_).symm⟩
  simp only [List.forall_mem_cons, List.not_mem_nil, false_implies, implies_true, and_true]
  refine ⟨⟨?_, ?_⟩, ⟨?_, plainText_hex digest⟩, ?_, plainText_decimalText recordCount⟩
  all_goals decide

theorem intercalate_comma (first : List UInt8) (others : List (List UInt8)) :
    [44].intercalate (first :: others) = first ++ (others.map fun record => 44 :: record).flatten := by
  induction others generalizing first with
  | nil => rw [List.intercalate_singleton, List.map_nil, List.flatten_nil, List.append_nil]
  | cons second others ih =>
      rw [List.intercalate_cons_cons, ih second, List.map_cons, List.flatten_cons]
      simp

/-- The records of a JSON export stand with commas between them. -/
theorem records_json (request : HistoryExportRequest) (canonical : List (List UInt8)) :
    (canonical.mapIdx fun sequence record =>
      (recordPieces .json request (sequence = 0) sequence record).flatten).flatten =
        [44].intercalate canonical := by
  cases canonical with
  | nil => rfl
  | cons first others =>
      have later : (others.mapIdx fun _ record => asciiBytes "," ++ record) =
          others.map fun record => 44 :: record := by
        rw [List.mapIdx_eq_iff]
        intro index
        rw [List.getElem?_map]
        rfl
      rw [intercalate_comma, ← later, List.mapIdx_cons]
      simp [recordPieces]

/-- The value of a JSON export whose parts are these values. -/
def exportValue (manifest : Json.Value) (records : List Json.Value) (integrity : Json.Value) :
    Json.Value :=
  .object [(asciiBytes "manifest", manifest), (asciiBytes "records", .array records),
    (asciiBytes "integrity", integrity)]

/-- A JSON export is the text of its parts, with a line end after it. -/
theorem document_json (blake3 : List UInt8 → List UInt8) (request : HistoryExportRequest)
    (records : List Json.Value) :
    document blake3 .json request (records.map Json.Value.compact) =
      (exportValue (Json.valueOf (exportManifest .json request)) records
        (Json.valueOf (exportIntegrity
          (logicalDigest blake3 request (records.map Json.Value.compact)) records.length))).compact ++
        asciiBytes "\n" := by
  have integrity := Json.compact_valueOf (isCompact_exportIntegrity
    (blake3 (digestHeader request (records.map Json.Value.compact).length ++
      ((records.map Json.Value.compact).map lengthPrefixed).flatten ++
      lengthPrefixed (leBytes 4 (records.map Json.Value.compact).length))) records.length)
  rw [← logicalDigest] at integrity
  unfold document openDocument exportValue
  rw [records_json, Json.Value.compact, Json.compactMembers_eq]
  simp only [List.map_cons, List.map_nil, Json.namedText, Json.Value.compact,
    Json.compactElements_eq, integrity, Json.compact_valueOf (isCompact_exportManifest .json request),
    List.length_map]
  have plain : PlainText (asciiBytes "manifest") ∧ PlainText (asciiBytes "records") ∧
      PlainText (asciiBytes "integrity") := by decide
  rw [Json.text_of_plain plain.1, Json.text_of_plain plain.2.1, Json.text_of_plain plain.2.2]
  simp [Json.enclosed, manifestPieces, integrityPieces, List.intercalate]
  rfl

theorem read_document_csv (blake3 : List UInt8 → List UInt8) (request : HistoryExportRequest)
    (canonical : List (List UInt8)) :
    Csv.read (document blake3 .csv request canonical) =
      some (exportRows request canonical (logicalDigest blake3 request canonical)) := by
  rw [document_csv, Csv.read_document _ (exportRows_named _ _ _)]

theorem read_document_json (blake3 : List UInt8 → List UInt8) (request : HistoryExportRequest)
    (records : List Json.Value) :
    Json.read (document blake3 .json request (records.map Json.Value.compact)) =
      some (exportValue (Json.valueOf (exportManifest .json request)) records
        (Json.valueOf (exportIntegrity
          (logicalDigest blake3 request (records.map Json.Value.compact)) records.length))) := by
  have blank : ∀ byte ∈ asciiBytes "\n", Json.isSpace byte := by
    rw [show asciiBytes "\n" = [10] from rfl, List.forall_mem_singleton]
    rfl
  rw [document_json, Json.read_compact _ blank]

theorem length_le_document (blake3 : List UInt8 → List UInt8) (format : ExportFormat)
    (request : HistoryExportRequest) {canonical : List (List UInt8)} {record : List UInt8}
    (inside : record ∈ canonical) :
    record.length ≤ (document blake3 format request canonical).length := by
  have pieces (sequence : Nat) :
      record.length ≤
        (recordPieces format request (sequence = 0) sequence record).flatten.length := by
    cases format with
    | json =>
        simp only [recordPieces]
        split <;> simp
    | csv =>
        rw [recordPieces, csvSectionPieces, flatten_csvRowPieces]
        exact Csv.length_le_row (by simp)
  obtain ⟨sequence, bound, rfl⟩ := List.mem_iff_getElem.mp inside
  have listed : (recordPieces format request (sequence = 0) sequence canonical[sequence]).flatten ∈
      canonical.mapIdx fun sequence record =>
        (recordPieces format request (sequence = 0) sequence record).flatten :=
    List.mem_mapIdx.mpr ⟨sequence, bound, rfl⟩
  have within := (List.sublist_flatten_of_mem listed).length_le
  have own := pieces sequence
  unfold document openDocument
  rw [List.length_append, List.length_append]
  omega

end Guiying.Export
