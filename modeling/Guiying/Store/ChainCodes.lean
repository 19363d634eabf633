import Guiying.Store.DigestCodes
import Guiying.Store.ScanControl

/-!
# The encodings of scan control can be read back

The work plan of a lease, the steps of its two chains of evidence, the digest that
combines them, and the payload of a pause.
-/

namespace Guiying.Store

open Guiying.Foundation ByteString Outcome MachineInt

def IsI64 (value : Int) : Prop := i64Min ≤ value ∧ value ≤ i64Max

theorem charBytes_length_le (text : List Char) : (charBytes text).length ≤ 4 * text.length := by
  induction text with
  | nil => exact le_rfl
  | cons character rest ih =>
      have size := character.utf8Size_le_four
      rw [charBytes, List.flatMap_cons, List.length_append, String.length_utf8EncodeChar,
        List.length_cons]
      rw [charBytes] at ih
      omega

/-! ## The work plan -/

/-- What a lease is bound to. -/
structure RuntimeWorkPlan where
  volumeId : Int
  scanRunId : Int
  scanJobId : Int
  capabilityProfileId : Int
  namespaceProfileId : Int
  runtimeLeaseKey : Bytes32
  coreSessionId : Bytes32
  mountSessionKey : Bytes32
  mountRelativeRootRaw : List UInt8
  pathEncoding : String
  stableRootPathKey : Bytes32
  rootScopeKey : Bytes32
  rootObjectSignature : Bytes32
  rootSourceSignature : Bytes32
  deriving DecidableEq

def RunSessionRow.workPlan (session : RunSessionRow) (core : CoreSessionRow)
    (runtimeLeaseKey coreSessionId : Bytes32) : RuntimeWorkPlan where
  volumeId := session.volumeId
  scanRunId := session.scanRunId
  scanJobId := session.scanJobId
  capabilityProfileId := session.capabilityProfileId
  namespaceProfileId := session.namespaceProfileId
  runtimeLeaseKey := runtimeLeaseKey
  coreSessionId := coreSessionId
  mountSessionKey := session.mountSessionKey
  mountRelativeRootRaw := session.mountRelativeRootRaw
  pathEncoding := session.pathEncoding
  stableRootPathKey := session.stableRootPathKey
  rootScopeKey := session.rootScopeKey
  rootObjectSignature := session.rootObjectSignature
  rootSourceSignature := core.rootSourceSignature

namespace RuntimeWorkPlan

def numbers (plan : RuntimeWorkPlan) : List Int :=
  [plan.volumeId, plan.scanRunId, plan.scanJobId, plan.capabilityProfileId,
    plan.namespaceProfileId]

def strings (plan : RuntimeWorkPlan) : List (List UInt8) :=
  [plan.runtimeLeaseKey.bytes, plan.coreSessionId.bytes,
    charBytes (lowerHex plan.mountSessionKey).toList, plan.mountRelativeRootRaw,
    charBytes plan.pathEncoding.toList, plan.stableRootPathKey.bytes, plan.rootScopeKey.bytes,
    plan.rootObjectSignature.bytes, plan.rootSourceSignature.bytes]

def bytes (plan : RuntimeWorkPlan) : List UInt8 :=
  asciiBytes "guiying.runtime-work-plan.v1\x00" ++ plan.numbers.flatMap i64Bytes ++
    plan.strings.flatMap lengthPrefixed

/-- The numbers are of their type, and the strings of a length that can be written in front. -/
structure InRange (plan : RuntimeWorkPlan) : Prop where
  numbers : ∀ value ∈ plan.numbers, IsI64 value
  root : plan.mountRelativeRootRaw.length < u64Bound
  encoding : (textBytes plan.pathEncoding).length < u64Bound

end RuntimeWorkPlan

theorem computeRuntimeWorkPlanDigest_eq (hash : List UInt8 → Bytes32) (session : RunSessionRow)
    (core : CoreSessionRow) (runtimeLeaseKey coreSessionId : Bytes32) :
    computeRuntimeWorkPlanDigest hash session core runtimeLeaseKey coreSessionId =
      hash (session.workPlan core runtimeLeaseKey coreSessionId).bytes := rfl

/-- Every plan is the one of some rows. -/
theorem RuntimeWorkPlan.exists_rows (plan : RuntimeWorkPlan) :
    ∃ (session : RunSessionRow) (core : CoreSessionRow),
      session.workPlan core plan.runtimeLeaseKey plan.coreSessionId = plan := by
  let session : RunSessionRow :=
    { scanRunId := plan.scanRunId, volumeId := plan.volumeId, scanJobId := plan.scanJobId
      capabilityProfileId := plan.capabilityProfileId
      namespaceProfileId := plan.namespaceProfileId, mountSessionKey := plan.mountSessionKey
      mountRelativeRootRaw := plan.mountRelativeRootRaw, pathEncoding := plan.pathEncoding
      stableRootPathKey := plan.stableRootPathKey, rootScopeKey := plan.rootScopeKey
      rootObjectSignature := plan.rootObjectSignature, createdAtMs := 0, current := true }
  let core : CoreSessionRow :=
    { scanRunId := plan.scanRunId, volumeId := plan.volumeId
      capabilityProfileId := plan.capabilityProfileId
      namespaceProfileId := plan.namespaceProfileId, coreSessionId := plan.coreSessionId
      rootObjectSignature := plan.rootObjectSignature
      rootSourceSignature := plan.rootSourceSignature, boundAtMs := 0 }
  exact ⟨session, core, rfl⟩

theorem hexDigit_injective :
    ∀ left < 16, ∀ right < 16, hexDigit left = hexDigit right → left = right := by
  decide

/-- The two digits of a byte. -/
def hexDigits (byte : UInt8) : List Char :=
  [hexDigit (byte.toNat / 16), hexDigit (byte.toNat % 16)]

theorem hexDigits_prefixFree : PrefixFree Set.univ hexDigits := by
  have length : ∀ byte ∈ Set.univ, (hexDigits byte).length = 2 := fun _ _ => rfl
  refine .of_length length fun left _ right _ same => ?_
  have below := left.toNat_lt
  have others := right.toNat_lt
  simp only [hexDigits, List.cons.injEq, and_true] at same
  have high := hexDigit_injective _ (by omega) _ (by omega) same.1
  have low := hexDigit_injective _ (by omega) _ (by omega) same.2
  exact UInt8.toNat_inj.mp (by omega)

theorem lowerHex_injective : Function.Injective lowerHex := by
  intro left right same
  have texts : left.bytes.flatMap hexDigits ++ [] = right.bytes.flatMap hexDigits ++ [] := by
    have texts := congrArg String.toList same
    rw [lowerHex, lowerHex, String.toList_ofList, String.toList_ofList] at texts
    rw [List.append_nil, List.append_nil]
    exact texts
  exact Bytes32.ext (hexDigits_prefixFree.flatMap_of_length (fun _ _ => trivial)
    (fun _ _ => trivial) (left.length_eq.trans right.length_eq.symm) texts).1

theorem lowerHex_length (key : Bytes32) : (charBytes (lowerHex key).toList).length < u64Bound := by
  have long := charBytes_length_le (lowerHex key).toList
  have hex : (lowerHex key).toList.length = 64 := by
    simp [lowerHex, List.length_flatMap, key.length_eq]
  rw [hex] at long
  exact lt_of_le_of_lt long (by decide)

theorem bytes32_length (key : Bytes32) : key.bytes.length < u64Bound := by
  rw [key.length_eq]
  decide

namespace RuntimeWorkPlan

theorem bytes_injOn : Set.InjOn bytes {plan | plan.InRange} := by
  intro left inLeft right inRight same
  simp only [bytes, List.append_assoc] at same
  have same := List.append_cancel_left same
  obtain ⟨numbers, same⟩ := i64Bytes_prefixFree.flatMap_of_length inLeft.numbers inRight.numbers
    rfl same
  have fits : ∀ plan : RuntimeWorkPlan, plan.InRange →
      ∀ string ∈ plan.strings, string.length < u64Bound := by
    intro plan inRange
    simp only [strings, List.forall_mem_cons, List.not_mem_nil, false_implies, implies_true,
      and_true]
    exact ⟨bytes32_length _, bytes32_length _, lowerHex_length _, inRange.root, inRange.encoding,
      bytes32_length _, bytes32_length _, bytes32_length _, bytes32_length _⟩
  have ends : left.strings.flatMap lengthPrefixed ++ [] =
      right.strings.flatMap lengthPrefixed ++ [] := by rw [same]
  obtain ⟨strings, -⟩ := lengthPrefixed_prefixFree.flatMap_of_length (fits left inLeft)
    (fits right inRight) rfl ends
  simp only [RuntimeWorkPlan.numbers, List.cons.injEq, and_true] at numbers
  simp only [RuntimeWorkPlan.strings, List.cons.injEq, and_true] at strings
  obtain ⟨volume, run, job, capability, namespaceProfile⟩ := numbers
  obtain ⟨lease, core, mount, root, encoding, path, scope, object, source⟩ := strings
  have mount := lowerHex_injective (String.toList_inj.mp (charBytes_injective mount))
  have encoding := String.toList_inj.mp (charBytes_injective encoding)
  have lease := Bytes32.ext lease
  have core := Bytes32.ext core
  have path := Bytes32.ext path
  have scope := Bytes32.ext scope
  have object := Bytes32.ext object
  have source := Bytes32.ext source
  cases left
  cases right
  simp_all only

end RuntimeWorkPlan

/-! ## Evidence -/

inductive EvidenceKind where
  | directory
  | file
  deriving DecidableEq, Repr

def EvidenceKind.name : EvidenceKind → String
  | .directory => "directory\x00"
  | .file => "file\x00"

theorem kind_prefixFree : PrefixFree Set.univ fun kind : EvidenceKind => asciiBytes kind.name := by
  intro left right _ _ s t same
  cases left with
  | directory =>
      cases right with
      | directory => exact ⟨rfl, List.append_cancel_left same⟩
      | file =>
          injection same with first
          exact absurd first (by decide)
  | file =>
      cases right with
      | directory =>
          injection same with first
          exact absurd first (by decide)
      | file => exact ⟨rfl, List.append_cancel_left same⟩

/-- The start of a chain. -/
def emptyEvidenceBytes (kind : EvidenceKind) (workPlanDigest : Bytes32) : List UInt8 :=
  asciiBytes "guiying.runtime-evidence-empty.v1\x00" ++ asciiBytes kind.name ++
    workPlanDigest.bytes

theorem emptyEvidenceBytes_injective {leftKind rightKind : EvidenceKind} {left right : Bytes32}
    (same : emptyEvidenceBytes leftKind left = emptyEvidenceBytes rightKind right) :
    leftKind = rightKind ∧ left = right := by
  simp only [emptyEvidenceBytes, List.append_assoc] at same
  have same := List.append_cancel_left same
  obtain ⟨kind, same⟩ := kind_prefixFree trivial trivial same
  exact ⟨kind, Bytes32.ext same⟩

/-- What is hashed of one directory or file. -/
structure EvidenceEntry where
  evidenceId : Int
  sourceSignature : Bytes32
  ticketSortKey : Bytes32
  objectSignature : Option Bytes32
  deriving DecidableEq

namespace EvidenceEntry

def stepBytes (previous : Bytes32) (kind : EvidenceKind) (entry : EvidenceEntry) : List UInt8 :=
  asciiBytes "guiying.runtime-evidence-step.v1\x00" ++ previous.bytes ++ asciiBytes kind.name ++
    i64Bytes 1 ++ i64Bytes entry.evidenceId ++ lengthPrefixed entry.sourceSignature.bytes ++
    lengthPrefixed entry.ticketSortKey.bytes ++
    match entry.objectSignature with
    | some signature => [1] ++ lengthPrefixed signature.bytes
    | none => [0]

theorem advance_eq (hash : List UInt8 → Bytes32) (previous : Bytes32) (kind : EvidenceKind)
    (entry : EvidenceEntry) :
    advanceRuntimeEvidenceDigest hash previous kind.name entry.evidenceId entry.sourceSignature
        entry.ticketSortKey entry.objectSignature =
      hash (entry.stepBytes previous kind) := rfl

theorem prefixedKey_prefixFree :
    PrefixFree Set.univ fun key : Bytes32 => lengthPrefixed key.bytes :=
  lengthPrefixed_prefixFree.comap (fun key _ => bytes32_length key)
    fun _ _ _ _ same => Bytes32.ext same

theorem stepBytes_injective {leftPrevious rightPrevious : Bytes32} {leftKind rightKind : EvidenceKind}
    {left right : EvidenceEntry} (inLeft : IsI64 left.evidenceId) (inRight : IsI64 right.evidenceId)
    (same : left.stepBytes leftPrevious leftKind = right.stepBytes rightPrevious rightKind) :
    leftPrevious = rightPrevious ∧ leftKind = rightKind ∧ left = right := by
  simp only [stepBytes, List.append_assoc] at same
  have same := List.append_cancel_left same
  obtain ⟨previous, same⟩ := bytes32_prefixFree trivial trivial same
  obtain ⟨kind, same⟩ := kind_prefixFree trivial trivial same
  have same := List.append_cancel_left same
  obtain ⟨evidenceId, same⟩ := i64Bytes_prefixFree inLeft inRight same
  obtain ⟨sourceSignature, same⟩ := prefixedKey_prefixFree trivial trivial same
  obtain ⟨ticketSortKey, same⟩ := prefixedKey_prefixFree trivial trivial same
  have optional : ∀ signature : Option Bytes32,
      (match signature with
        | some signature => [1] ++ lengthPrefixed signature.bytes
        | none => [0]) = optionCode 0 1 (fun key : Bytes32 => lengthPrefixed key.bytes) signature := by
    rintro (_ | signature)
    · rfl
    · rfl
  rw [optional, optional] at same
  have objectSignature := (prefixedKey_prefixFree.option (by decide)).injOn
    (fun _ _ => trivial) (fun _ _ => trivial) same
  refine ⟨previous, kind, ?_⟩
  cases left
  cases right
  simp_all only

end EvidenceEntry

/-- What both chains of a lease are combined to. -/
structure EvidenceTotals where
  workPlanDigest : Bytes32
  directoryCount : Int
  directoryDigest : Bytes32
  fileCount : Int
  fileDigest : Bytes32
  deriving DecidableEq

namespace EvidenceTotals

def bytes (totals : EvidenceTotals) : List UInt8 :=
  asciiBytes "guiying.runtime-evidence-combined.v1\x00" ++ totals.workPlanDigest.bytes ++
    i64Bytes totals.directoryCount ++ totals.directoryDigest.bytes ++ i64Bytes totals.fileCount ++
    totals.fileDigest.bytes

theorem combine_eq (hash : List UInt8 → Bytes32) (totals : EvidenceTotals) :
    combineRuntimeEvidenceDigests hash totals.workPlanDigest totals.directoryCount
        totals.directoryDigest totals.fileCount totals.fileDigest = hash totals.bytes := rfl

theorem bytes_injOn :
    Set.InjOn bytes {totals | IsI64 totals.directoryCount ∧ IsI64 totals.fileCount} := by
  intro left inLeft right inRight same
  simp only [bytes, List.append_assoc] at same
  have same := List.append_cancel_left same
  obtain ⟨workPlanDigest, same⟩ := bytes32_prefixFree trivial trivial same
  obtain ⟨directoryCount, same⟩ := i64Bytes_prefixFree inLeft.1 inRight.1 same
  obtain ⟨directoryDigest, same⟩ := bytes32_prefixFree trivial trivial same
  obtain ⟨fileCount, same⟩ := i64Bytes_prefixFree inLeft.2 inRight.2 same
  have fileDigest := Bytes32.ext same
  cases left
  cases right
  simp_all only

end EvidenceTotals

/-! ## The payload of a pause -/

/-- An acknowledgement of a pause with the versions and the generation that it leads to. -/
structure PausePayload where
  input : PauseCheckpointInput
  acknowledgedAtMs : Int
  answer : PauseAnswer
  deriving DecidableEq

namespace PausePayload

def numbers (payload : PausePayload) : List Int :=
  pausePayloadNumbers payload.input payload.acknowledgedAtMs payload.answer.jobVersion
    payload.answer.runVersion payload.answer.generation

def bytes (payload : PausePayload) : List UInt8 :=
  pausePayloadBytes payload.input payload.acknowledgedAtMs payload.answer.jobVersion
    payload.answer.runVersion payload.answer.generation

/-- What an acknowledgement is checked for before its payload is hashed. -/
structure Checked (payload : PausePayload) : Prop where
  valid : payload.input.valid = true
  numbers : ∀ value ∈ payload.numbers, IsI64 value
  cursor : (cursorJson payload.input.cursor).length ≤ 16 * 1024

end PausePayload

/-- A number is told from what follows it by a comma. -/
theorem decimal_prefixFree :
    PrefixFree Set.univ fun value : Nat => Decimal.text value ++ [','] := by
  refine (PrefixFree.terminated ',').comap (fun value _ found => ?_) fun left _ right _ same => ?_
  · rcases Decimal.mem_text found with digit | minus
    · exact absurd digit (by decide)
    · exact absurd minus (by decide)
  · exact_mod_cast Decimal.text_injective same

theorem number_injective {left right : Nat} {text s t : List Char} (comma : text.head? = some ',')
    (same : Decimal.text left ++ (text ++ s) = Decimal.text right ++ (text ++ t)) :
    left = right ∧ s = t := by
  obtain ⟨rest, rfl⟩ : ∃ rest, text = ',' :: rest := List.head?_eq_some_iff.mp comma
  have marked : (Decimal.text left ++ [',']) ++ (rest ++ s) =
      (Decimal.text right ++ [',']) ++ (rest ++ t) := by
    simpa only [List.append_assoc, List.singleton_append, List.cons_append, List.nil_append]
      using same
  obtain ⟨numbers, follows⟩ := decimal_prefixFree trivial trivial marked
  exact ⟨numbers, List.append_cancel_left follows⟩

theorem last_number_injective {left right : Nat} {text : List Char} (comma : text.head? = some ',')
    (same : Decimal.text left ++ text = Decimal.text right ++ text) : left = right := by
  have ends : Decimal.text left ++ (text ++ []) = Decimal.text right ++ (text ++ []) := by
    simpa only [List.append_nil] using same
  exact (number_injective comma ends).1

theorem cursorJson_injective : Function.Injective cursorJson := by
  intro left right same
  unfold cursorJson at same
  rw [List.append_assoc, List.append_assoc, List.append_assoc, List.append_assoc,
    List.append_assoc, List.append_assoc] at same
  have same := (List.append_right_inj _).mp same
  obtain ⟨directory, same⟩ := number_injective (by decide) same
  have file := last_number_injective (by decide) same
  obtain ⟨leftDirectory, leftFile⟩ := left
  obtain ⟨rightDirectory, rightFile⟩ := right
  exact congrArg₂ PauseCheckpointCursor.mk directory file

namespace PausePayload

theorem cursor_length {payload : PausePayload} (checked : payload.Checked) :
    (charBytes (cursorJson payload.input.cursor)).length < u64Bound := by
  have long := charBytes_length_le (cursorJson payload.input.cursor)
  have short := checked.cursor
  refine lt_of_le_of_lt (by omega : _ ≤ 65536) (by decide)

/-- An absent generation is hashed as zero; one that is given is above. -/
theorem generation_injective {left right : Option Int}
    (positiveLeft : left.all (fun generation => 0 < generation) = true)
    (positiveRight : right.all (fun generation => 0 < generation) = true)
    (same : left.getD 0 = right.getD 0) : left = right := by
  cases left with
  | none =>
      cases right with
      | none => rfl
      | some generation =>
          simp only [Option.all_some, decide_eq_true_eq, Option.getD_none, Option.getD_some]
            at positiveRight same
          omega
  | some generation =>
      cases right with
      | none =>
          simp only [Option.all_some, decide_eq_true_eq, Option.getD_none, Option.getD_some]
            at positiveLeft same
          omega
      | some other => exact congrArg some same

theorem bytes_injOn : Set.InjOn bytes {payload | payload.Checked} := by
  intro left checkedLeft right checkedRight same
  simp only [bytes, pausePayloadBytes, List.append_assoc] at same
  have same := List.append_cancel_left same
  obtain ⟨numbers, same⟩ := i64Bytes_prefixFree.flatMap_of_length checkedLeft.numbers
    checkedRight.numbers rfl same
  obtain ⟨requestKey, same⟩ := bytes32_prefixFree trivial trivial same
  obtain ⟨writeKey, same⟩ := bytes32_prefixFree trivial trivial same
  have cursor := cursorJson_injective (charBytes_injective
    (lengthPrefixed_prefixFree.injOn (cursor_length checkedLeft) (cursor_length checkedRight) same))
  simp only [PausePayload.numbers, pausePayloadNumbers, List.cons.injEq, and_true] at numbers
  obtain ⟨request, generation, numbers⟩ := numbers
  have validLeft := checkedLeft.valid
  have validRight := checkedRight.valid
  simp only [PauseCheckpointInput.valid, Bool.and_eq_true] at validLeft validRight
  have generation := generation_injective validLeft.2 validRight.2 generation
  obtain ⟨leftInput, leftTime, leftAnswer⟩ := left
  obtain ⟨rightInput, rightTime, rightAnswer⟩ := right
  cases leftInput
  cases rightInput
  cases leftAnswer
  cases rightAnswer
  simp_all only

end PausePayload

end Guiying.Store
