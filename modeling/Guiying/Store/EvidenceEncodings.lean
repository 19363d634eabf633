import Guiying.Foundation.HashChain
import Guiying.Store.ChainCodes

/-!
# What the digests determine

Everything the store hashes as identity or proof of evidence, each kind under its
own domain tag. The hashed bytes determine the kind and the input; a digest
determines them as long as no two of the hashed strings collide.
-/

namespace Guiying.Store

open Guiying.Foundation ByteString Outcome MachineInt

/-! ## Domains -/

inductive DigestDomain where
  | exactGroupMember
  | exactGroupManifest
  | exactGroup
  | timeSessionExactScope
  | timeSessionOutcomes
  | metadataReportManifest
  | captureTimeAnalysisManifest
  | pauseCheckpointPayload
  | runtimeWorkPlan
  | runtimeEvidenceEmpty
  | runtimeEvidenceStep
  | runtimeEvidenceCombined
  deriving DecidableEq, Repr

namespace DigestDomain

def text : DigestDomain → String
  | exactGroupMember => "guiying.exact-group-member.v1\x00"
  | exactGroupManifest => "guiying.exact-group-manifest.v1\x00"
  | exactGroup => "guiying.exact-group.v1\x00"
  | timeSessionExactScope => "guiying.time-session-exact-scope.v1\x00"
  | timeSessionOutcomes => "guiying.time-session-outcomes.v2\x00"
  | metadataReportManifest => "guiying.metadata-report-manifest.v1\x00"
  | captureTimeAnalysisManifest => "guiying.capture-time-analysis-manifest.v1\x00"
  | pauseCheckpointPayload => "guiying.pause-checkpoint-payload.v1\x00"
  | runtimeWorkPlan => "guiying.runtime-work-plan.v1\x00"
  | runtimeEvidenceEmpty => "guiying.runtime-evidence-empty.v1\x00"
  | runtimeEvidenceStep => "guiying.runtime-evidence-step.v1\x00"
  | runtimeEvidenceCombined => "guiying.runtime-evidence-combined.v1\x00"

def tag (domain : DigestDomain) : List UInt8 := asciiBytes domain.text

theorem tag_eq (domain : DigestDomain) :
    domain.tag = domain.tag.dropLast ++ [0] ∧ 0 ∉ domain.tag.dropLast := by
  cases domain <;> decide

theorem tag_injective : Function.Injective tag := by
  intro left right
  cases left <;> cases right <;> first | exact fun _ => rfl | decide

/-- The byte that ends every tag keeps each from being the beginning of another. -/
theorem tag_prefixFree : PrefixFree Set.univ tag := by
  intro left right _ _ s t same
  obtain ⟨isLeft, endsLeft⟩ := left.tag_eq
  obtain ⟨isRight, endsRight⟩ := right.tag_eq
  rw [isLeft, isRight] at same
  obtain ⟨names, follows⟩ := PrefixFree.terminated 0 endsLeft endsRight same
  exact ⟨tag_injective (by rw [isLeft, isRight, names]), follows⟩

end DigestDomain

/-! ## Inputs -/

inductive DigestInput where
  | groupMember (member : ExactGroupManifestMember)
  | groupManifest (memberLeaves : List Bytes32)
  | groupKey (runKey : String) (common : ExactFingerprintCommon) (manifest : Bytes32)
  | timeScope (scanRunId : Int64) (groups : List VerifiedGroupColumns)
  | timeOutcomes (outcomes : TimeOutcomes) (counts : OutcomeCounts)
  | metadataReport (answers : QueryAnswers metadataReportQueries)
  | captureTimeAnalysis (answers : QueryAnswers captureTimeAnalysisQueries)
  | pausePayload (payload : PausePayload)
  | workPlan (plan : RuntimeWorkPlan)
  | emptyEvidence (kind : EvidenceKind) (workPlanDigest : Bytes32)
  | evidenceStep (previous : Bytes32) (kind : EvidenceKind) (entry : EvidenceEntry)
  | combinedEvidence (totals : EvidenceTotals)

namespace DigestInput

def domain : DigestInput → DigestDomain
  | groupMember _ => .exactGroupMember
  | groupManifest _ => .exactGroupManifest
  | groupKey _ _ _ => .exactGroup
  | timeScope _ _ => .timeSessionExactScope
  | timeOutcomes _ _ => .timeSessionOutcomes
  | metadataReport _ => .metadataReportManifest
  | captureTimeAnalysis _ => .captureTimeAnalysisManifest
  | pausePayload _ => .pauseCheckpointPayload
  | workPlan _ => .runtimeWorkPlan
  | emptyEvidence _ _ => .runtimeEvidenceEmpty
  | evidenceStep _ _ _ => .runtimeEvidenceStep
  | combinedEvidence _ => .runtimeEvidenceCombined

/-- The string that is fed to the hash. -/
def bytes : DigestInput → List UInt8
  | groupMember member => member.leafBytes
  | groupManifest memberLeaves => groupManifestBytes memberLeaves
  | groupKey runKey common manifest => common.groupKeyBytes runKey manifest
  | timeScope scanRunId groups => timeScopeBytes scanRunId groups
  | timeOutcomes outcomes counts => outcomes.bytes counts
  | metadataReport answers => metadataReportBytes answers
  | captureTimeAnalysis answers => captureTimeAnalysisBytes answers
  | pausePayload payload => payload.bytes
  | workPlan plan => plan.bytes
  | emptyEvidence kind workPlanDigest => emptyEvidenceBytes kind workPlanDigest
  | evidenceStep previous kind entry => entry.stepBytes previous kind
  | combinedEvidence totals => totals.bytes

/-- The inputs that reach the hash: those that pass the check in front of it, with numbers of their
type, and rows as the tables keep them. -/
def Accepted : DigestInput → Prop
  | groupMember member => member.check = .ok ()
  | groupManifest memberLeaves => checkGroupManifest memberLeaves = .ok ()
  | groupKey runKey common _ => common.check runKey = .ok ()
  | timeScope scanRunId groups => ∃ count, checkTimeScope scanRunId groups = .ok count
  | timeOutcomes outcomes counts => outcomes.Stored ∧ outcomes.check = .ok counts
  | metadataReport answers => ∃ reportId, checkMetadataReport reportId answers = .ok ()
  | captureTimeAnalysis answers =>
      ∃ analysisBuildId, checkCaptureTimeAnalysis analysisBuildId answers = .ok ()
  | pausePayload payload => payload.Checked
  | workPlan plan => plan.InRange
  | emptyEvidence _ _ => True
  | evidenceStep _ _ entry => IsI64 entry.evidenceId
  | combinedEvidence totals => IsI64 totals.directoryCount ∧ IsI64 totals.fileCount

theorem bytes_eq (input : DigestInput) : ∃ body, input.bytes = input.domain.tag ++ body := by
  cases input with
  | groupMember member =>
      simp only [bytes, ExactGroupManifestMember.leafBytes, List.append_assoc]
      exact ⟨_, rfl⟩
  | groupManifest memberLeaves =>
      simp only [bytes, groupManifestBytes, List.append_assoc]
      exact ⟨_, rfl⟩
  | groupKey runKey common manifest =>
      simp only [bytes, ExactFingerprintCommon.groupKeyBytes, List.append_assoc]
      exact ⟨_, rfl⟩
  | timeScope scanRunId groups =>
      simp only [bytes, timeScopeBytes, List.append_assoc]
      exact ⟨_, rfl⟩
  | timeOutcomes outcomes counts =>
      simp only [bytes, TimeOutcomes.bytes, List.append_assoc]
      exact ⟨_, rfl⟩
  | metadataReport answers => exact ⟨_, rfl⟩
  | captureTimeAnalysis answers => exact ⟨_, rfl⟩
  | pausePayload payload =>
      simp only [bytes, PausePayload.bytes, pausePayloadBytes, List.append_assoc]
      exact ⟨_, rfl⟩
  | workPlan plan =>
      simp only [bytes, RuntimeWorkPlan.bytes, List.append_assoc]
      exact ⟨_, rfl⟩
  | emptyEvidence kind workPlanDigest =>
      simp only [bytes, emptyEvidenceBytes, List.append_assoc]
      exact ⟨_, rfl⟩
  | evidenceStep previous kind entry =>
      simp only [bytes, EvidenceEntry.stepBytes, List.append_assoc]
      exact ⟨_, rfl⟩
  | combinedEvidence totals =>
      simp only [bytes, EvidenceTotals.bytes, List.append_assoc]
      exact ⟨_, rfl⟩

theorem domain_eq {left right : DigestInput} (same : left.bytes = right.bytes) :
    left.domain = right.domain := by
  obtain ⟨leftBody, isLeft⟩ := left.bytes_eq
  obtain ⟨rightBody, isRight⟩ := right.bytes_eq
  rw [isLeft, isRight] at same
  exact (DigestDomain.tag_prefixFree trivial trivial same).1

/-- The hashed bytes determine the kind of the digest and everything that goes into it. -/
theorem bytes_injOn : Set.InjOn bytes {input | input.Accepted} := by
  intro left acceptedLeft right acceptedRight same
  have domains := domain_eq same
  cases left with
  | groupMember member =>
      cases right with
      | groupMember other =>
          exact congrArg groupMember
            (ExactGroupManifestMember.leafBytes_injOn acceptedLeft acceptedRight same)
      | _ => simp only [domain, reduceCtorEq] at domains
  | groupManifest memberLeaves =>
      cases right with
      | groupManifest others =>
          exact congrArg groupManifest (groupManifestBytes_injOn acceptedLeft acceptedRight same)
      | _ => simp only [domain, reduceCtorEq] at domains
  | groupKey runKey common manifest =>
      cases right with
      | groupKey otherKey otherCommon otherManifest =>
          obtain ⟨rfl, rfl, rfl⟩ :=
            ExactFingerprintCommon.groupKeyBytes_injective acceptedLeft acceptedRight same
          rfl
      | _ => simp only [domain, reduceCtorEq] at domains
  | timeScope scanRunId groups =>
      cases right with
      | timeScope otherRun otherGroups =>
          obtain ⟨_, checkedLeft⟩ := acceptedLeft
          obtain ⟨_, checkedRight⟩ := acceptedRight
          obtain ⟨rfl, rfl⟩ := timeScopeBytes_injective checkedLeft checkedRight same
          rfl
      | _ => simp only [domain, reduceCtorEq] at domains
  | timeOutcomes outcomes counts =>
      cases right with
      | timeOutcomes others otherCounts =>
          obtain ⟨storedLeft, checkedLeft⟩ := acceptedLeft
          obtain ⟨storedRight, checkedRight⟩ := acceptedRight
          have outcomes :=
            TimeOutcomes.bytes_injective storedLeft storedRight checkedLeft checkedRight same
          subst outcomes
          rw [checkedLeft] at checkedRight
          cases checkedRight
          rfl
      | _ => simp only [domain, reduceCtorEq] at domains
  | metadataReport answers =>
      cases right with
      | metadataReport others =>
          obtain ⟨_, checkedLeft⟩ := acceptedLeft
          obtain ⟨_, checkedRight⟩ := acceptedRight
          obtain ⟨_, -, checkedLeft⟩ := bind_eq_ok.mp checkedLeft
          obtain ⟨_, -, checkedRight⟩ := bind_eq_ok.mp checkedRight
          exact congrArg metadataReport (QueryAnswers.bytes_injective
            (QueryAnswers.check_of_checkManifest checkedLeft)
            (QueryAnswers.check_of_checkManifest checkedRight) (List.append_cancel_left same))
      | _ => simp only [domain, reduceCtorEq] at domains
  | captureTimeAnalysis answers =>
      cases right with
      | captureTimeAnalysis others =>
          obtain ⟨_, checkedLeft⟩ := acceptedLeft
          obtain ⟨_, checkedRight⟩ := acceptedRight
          obtain ⟨_, -, checkedLeft⟩ := bind_eq_ok.mp checkedLeft
          obtain ⟨_, -, checkedRight⟩ := bind_eq_ok.mp checkedRight
          exact congrArg captureTimeAnalysis (QueryAnswers.bytes_injective
            (QueryAnswers.check_of_checkManifest checkedLeft)
            (QueryAnswers.check_of_checkManifest checkedRight) (List.append_cancel_left same))
      | _ => simp only [domain, reduceCtorEq] at domains
  | pausePayload payload =>
      cases right with
      | pausePayload other =>
          exact congrArg pausePayload (PausePayload.bytes_injOn acceptedLeft acceptedRight same)
      | _ => simp only [domain, reduceCtorEq] at domains
  | workPlan plan =>
      cases right with
      | workPlan other =>
          exact congrArg workPlan (RuntimeWorkPlan.bytes_injOn acceptedLeft acceptedRight same)
      | _ => simp only [domain, reduceCtorEq] at domains
  | emptyEvidence kind workPlanDigest =>
      cases right with
      | emptyEvidence otherKind other =>
          obtain ⟨rfl, rfl⟩ := emptyEvidenceBytes_injective same
          rfl
      | _ => simp only [domain, reduceCtorEq] at domains
  | evidenceStep previous kind entry =>
      cases right with
      | evidenceStep otherPrevious otherKind other =>
          obtain ⟨rfl, rfl, rfl⟩ :=
            EvidenceEntry.stepBytes_injective acceptedLeft acceptedRight same
          rfl
      | _ => simp only [domain, reduceCtorEq] at domains
  | combinedEvidence totals =>
      cases right with
      | combinedEvidence other =>
          exact congrArg combinedEvidence
            (EvidenceTotals.bytes_injOn acceptedLeft acceptedRight same)
      | _ => simp only [domain, reduceCtorEq] at domains

theorem bytes_eq_iff {left right : DigestInput} (acceptedLeft : left.Accepted)
    (acceptedRight : right.Accepted) : left.bytes = right.bytes ↔ left = right :=
  bytes_injOn.eq_iff acceptedLeft acceptedRight

/-- What is hashed behind a check. -/
theorem checked_eq_ok {check : Result Unit} {value digest : Bytes32} :
    (do check; .ok value : Result Bytes32) = .ok digest ↔ check = .ok () ∧ digest = value := by
  rw [bind_eq_ok]
  constructor
  · rintro ⟨_, checked, answered⟩
    cases answered
    exact ⟨checked, rfl⟩
  · rintro ⟨checked, rfl⟩
    exact ⟨(), checked, rfl⟩

theorem checked_id_eq_ok {check : Int64 → Result Unit} {value digest : Bytes32} :
    (∃ id, (do check id; .ok value : Result Bytes32) = .ok digest) ↔
      (∃ id, check id = .ok ()) ∧ digest = value := by
  rw [← exists_and_right]
  exact exists_congr fun _ => checked_eq_ok

variable (hash : List UInt8 → Bytes32)

/-- The function of the store that computes this kind of digest answers `digest` for the input. -/
def Computes (digest : Bytes32) : DigestInput → Prop
  | groupMember member => computeExactGroupMemberLeaf hash member = .ok digest
  | groupManifest memberLeaves => computeExactGroupManifest hash memberLeaves = .ok digest
  | groupKey runKey common manifest => computeExactGroupKey hash runKey common manifest = .ok digest
  | timeScope scanRunId groups =>
      ∃ count, recomputeTimeSessionScopeManifest hash scanRunId groups = .ok (count, digest)
  | timeOutcomes outcomes counts =>
      outcomes.Stored ∧ outcomes.check = .ok counts ∧
        recomputeTimeSessionOutcomeManifestForTerminal hash outcomes = .ok digest
  | metadataReport answers =>
      ∃ reportId, recomputeMetadataReportManifest hash reportId answers = .ok digest
  | captureTimeAnalysis answers =>
      ∃ analysisBuildId,
        recomputeCaptureTimeAnalysisManifest hash analysisBuildId answers = .ok digest
  | pausePayload payload =>
      payload.Checked ∧
        pauseCheckpointPayloadDigest hash payload.input payload.acknowledgedAtMs
          payload.answer.jobVersion payload.answer.runVersion payload.answer.generation = digest
  | workPlan plan =>
      plan.InRange ∧ ∃ (session : RunSessionRow) (core : CoreSessionRow) (leaseKey id : Bytes32),
        session.workPlan core leaseKey id = plan ∧
          computeRuntimeWorkPlanDigest hash session core leaseKey id = digest
  | emptyEvidence kind workPlanDigest =>
      emptyRuntimeEvidenceDigest hash kind.name workPlanDigest = digest
  | evidenceStep previous kind entry =>
      IsI64 entry.evidenceId ∧
        advanceRuntimeEvidenceDigest hash previous kind.name entry.evidenceId entry.sourceSignature
          entry.ticketSortKey entry.objectSignature = digest
  | combinedEvidence totals =>
      (IsI64 totals.directoryCount ∧ IsI64 totals.fileCount) ∧
        combineRuntimeEvidenceDigests hash totals.workPlanDigest totals.directoryCount
          totals.directoryDigest totals.fileCount totals.fileDigest = digest

/-- A digest is computed for the accepted inputs, and it is the hash of their bytes. -/
theorem computes_iff {input : DigestInput} {digest : Bytes32} :
    input.Computes hash digest ↔ input.Accepted ∧ digest = hash input.bytes := by
  cases input with
  | groupMember member => exact checked_eq_ok
  | groupManifest memberLeaves => exact checked_eq_ok
  | groupKey runKey common manifest => exact checked_eq_ok
  | timeScope scanRunId groups =>
      constructor
      · rintro ⟨count, computed⟩
        obtain ⟨counted, checked, answered⟩ := bind_eq_ok.mp computed
        cases answered
        exact ⟨⟨count, checked⟩, rfl⟩
      · rintro ⟨⟨count, checked⟩, rfl⟩
        exact ⟨count, bind_eq_ok.mpr ⟨count, checked, rfl⟩⟩
  | timeOutcomes outcomes counts =>
      constructor
      · rintro ⟨stored, checked, computed⟩
        obtain ⟨counted, checkedAgain, answered⟩ := bind_eq_ok.mp computed
        rw [checked] at checkedAgain
        cases checkedAgain
        cases answered
        exact ⟨⟨stored, checked⟩, rfl⟩
      · rintro ⟨⟨stored, checked⟩, rfl⟩
        exact ⟨stored, checked, bind_eq_ok.mpr ⟨counts, checked, rfl⟩⟩
  | metadataReport answers => exact checked_id_eq_ok
  | captureTimeAnalysis answers => exact checked_id_eq_ok
  | pausePayload payload => exact and_congr_right fun _ => eq_comm
  | workPlan plan =>
      refine and_congr_right fun _ => ⟨?_, fun same => ?_⟩
      · rintro ⟨session, core, leaseKey, id, rfl, rfl⟩
        exact computeRuntimeWorkPlanDigest_eq hash session core leaseKey id
      · obtain ⟨session, core, isPlan⟩ := plan.exists_rows
        refine ⟨session, core, plan.runtimeLeaseKey, plan.coreSessionId, isPlan, ?_⟩
        rw [computeRuntimeWorkPlanDigest_eq, isPlan, same]
        rfl
  | emptyEvidence kind workPlanDigest =>
      exact eq_comm.trans ⟨fun same => ⟨trivial, same⟩, And.right⟩
  | evidenceStep previous kind entry =>
      refine and_congr_right fun _ => ?_
      rw [EvidenceEntry.advance_eq]
      exact eq_comm
  | combinedEvidence totals =>
      refine and_congr_right fun _ => ?_
      rw [EvidenceTotals.combine_eq]
      exact eq_comm

end DigestInput

/-! ## The chains of a lease -/

namespace EvidenceKind

/-- The step of a chain. -/
def step (kind : EvidenceKind) (previous : Bytes32) (entry : EvidenceEntry) : List UInt8 :=
  entry.stepBytes previous kind

theorem advance_directory (hash : List UInt8 → Bytes32) (previous : Bytes32) (evidenceId : Int)
    (sourceSignature ticketSortKey : Bytes32) (objectSignature : Option Bytes32) :
    advanceRuntimeEvidenceDigest hash previous "directory\x00" evidenceId sourceSignature
        ticketSortKey objectSignature =
      hash (directory.step previous
        ⟨evidenceId, sourceSignature, ticketSortKey, objectSignature⟩) := rfl

theorem advance_file (hash : List UInt8 → Bytes32) (previous : Bytes32) (evidenceId : Int)
    (sourceSignature ticketSortKey : Bytes32) (objectSignature : Option Bytes32) :
    advanceRuntimeEvidenceDigest hash previous "file\x00" evidenceId sourceSignature
        ticketSortKey objectSignature =
      hash (file.step previous ⟨evidenceId, sourceSignature, ticketSortKey, objectSignature⟩) :=
  rfl

/-- A step is never the start of a chain: their domains differ. -/
theorem step_ne_empty (kind other : EvidenceKind) (previous workPlanDigest : Bytes32)
    (entry : EvidenceEntry) :
    kind.step previous entry ≠ emptyEvidenceBytes other workPlanDigest := by
  intro same
  have domains : (DigestInput.evidenceStep previous kind entry).domain =
      (DigestInput.emptyEvidence other workPlanDigest).domain := DigestInput.domain_eq same
  simp only [DigestInput.domain, reduceCtorEq] at domains

end EvidenceKind

variable {Rest : Type}

def EvidenceInput.entry (input : EvidenceInput Rest) : EvidenceEntry where
  evidenceId := input.evidenceId
  sourceSignature := input.sourceSignature
  ticketSortKey := input.ticketSortKey
  objectSignature := input.directoryObjectSignature

/-- The directories among what was recorded, in their order. -/
def directoryEntries (inputs : List (EvidenceInput Rest)) : List EvidenceEntry :=
  (inputs.filter fun input => input.directoryObjectSignature.isSome).map EvidenceInput.entry

def fileEntries (inputs : List (EvidenceInput Rest)) : List EvidenceEntry :=
  (inputs.filter fun input => input.directoryObjectSignature.isNone).map EvidenceInput.entry

variable (hash : List UInt8 → Bytes32)

/-- The lease after everything that was recorded under it. -/
def RuntimeLeaseRow.withAll (row : RuntimeLeaseRow) (inputs : List (EvidenceInput Rest)) :
    RuntimeLeaseRow :=
  inputs.foldl (fun row input => row.withEvidence hash input) row

def RuntimeLeaseRow.totals (row : RuntimeLeaseRow) : EvidenceTotals where
  workPlanDigest := row.workPlanDigest
  directoryCount := row.directoryEvidenceCount
  directoryDigest := row.directoryEvidenceDigest
  fileCount := row.fileEvidenceCount
  fileDigest := row.fileEvidenceDigest

/-- A lease whose chains are those of the directories and files recorded so far. -/
structure RuntimeLeaseRow.Chained (row : RuntimeLeaseRow) (workPlanDigest : Bytes32)
    (directories files : List EvidenceEntry) : Prop where
  plan : row.workPlanDigest = workPlanDigest
  directoryCount : row.directoryEvidenceCount = directories.length
  fileCount : row.fileEvidenceCount = files.length
  directoryDigest : row.directoryEvidenceDigest = HashChain.chain hash EvidenceKind.directory.step
    (emptyEvidenceBytes .directory workPlanDigest) directories
  fileDigest : row.fileEvidenceDigest = HashChain.chain hash EvidenceKind.file.step
    (emptyEvidenceBytes .file workPlanDigest) files
  chainDigest : row.evidenceChainDigest = hash row.totals.bytes

namespace RuntimeLeaseRow.Chained

variable {hash}
variable {row : RuntimeLeaseRow} {workPlanDigest : Bytes32} {directories files : List EvidenceEntry}

/-- Recording one more directory or file extends its own chain. -/
theorem withEvidence (chained : row.Chained hash workPlanDigest directories files)
    (input : EvidenceInput Rest) :
    (row.withEvidence hash input).Chained hash workPlanDigest
      (directories ++ directoryEntries [input]) (files ++ fileEntries [input]) := by
  unfold RuntimeLeaseRow.withEvidence
  cases kind : input.directoryObjectSignature with
  | some signature =>
      have entry : input.entry = ⟨input.evidenceId, input.sourceSignature, input.ticketSortKey,
          some signature⟩ := by rw [EvidenceInput.entry, kind]
      have isDirectory : directoryEntries [input] = [input.entry] := by
        simp [directoryEntries, kind]
      have isFile : fileEntries [input] = [] := by simp [fileEntries, kind]
      rw [isDirectory, isFile, List.append_nil]
      refine ⟨chained.plan, ?_, chained.fileCount, ?_, chained.fileDigest, rfl⟩
      · simp [chained.directoryCount]
      · rw [HashChain.chain_append_singleton, ← chained.directoryDigest, entry]
        exact EvidenceKind.advance_directory hash row.directoryEvidenceDigest input.evidenceId
          input.sourceSignature input.ticketSortKey (some signature)
  | none =>
      have entry : input.entry = ⟨input.evidenceId, input.sourceSignature, input.ticketSortKey,
          none⟩ := by rw [EvidenceInput.entry, kind]
      have isDirectory : directoryEntries [input] = [] := by simp [directoryEntries, kind]
      have isFile : fileEntries [input] = [input.entry] := by simp [fileEntries, kind]
      rw [isDirectory, isFile, List.append_nil]
      refine ⟨chained.plan, chained.directoryCount, ?_, chained.directoryDigest, ?_, rfl⟩
      · simp [chained.fileCount]
      · rw [HashChain.chain_append_singleton, ← chained.fileDigest, entry]
        exact EvidenceKind.advance_file hash row.fileEvidenceDigest input.evidenceId
          input.sourceSignature input.ticketSortKey none

theorem withAll (chained : row.Chained hash workPlanDigest directories files)
    (inputs : List (EvidenceInput Rest)) :
    (row.withAll hash inputs).Chained hash workPlanDigest (directories ++ directoryEntries inputs)
      (files ++ fileEntries inputs) := by
  induction inputs generalizing row directories files with
  | nil => simpa [RuntimeLeaseRow.withAll, directoryEntries, fileEntries] using chained
  | cons input rest ih =>
      have directories' : directoryEntries (input :: rest) =
          directoryEntries [input] ++ directoryEntries rest := by
        rw [directoryEntries, ← List.singleton_append, List.filter_append, List.map_append]
        rfl
      have files' : fileEntries (input :: rest) = fileEntries [input] ++ fileEntries rest := by
        rw [fileEntries, ← List.singleton_append, List.filter_append, List.map_append]
        rfl
      rw [directories', files', ← List.append_assoc, ← List.append_assoc]
      exact ih (chained.withEvidence input)

/-- A lease starts with both chains empty. -/
theorem acquired (guard : RunEvidenceGuard) (context : BoundRunContext)
    (input : AcquireRuntimeLeaseInput) (workPlanDigest : Bytes32) :
    (acquiredLeaseRow hash guard context input workPlanDigest).Chained hash workPlanDigest [] [] :=
  ⟨rfl, rfl, rfl, rfl, rfl, rfl⟩

end RuntimeLeaseRow.Chained

/-- The strings that are hashed for both chains of a lease and for their combination. -/
def hashedForLease (row : RuntimeLeaseRow) (inputs : List (EvidenceInput Rest)) :
    List (List UInt8) :=
  HashChain.hashed hash EvidenceKind.directory.step
      (emptyEvidenceBytes .directory row.workPlanDigest) (directoryEntries inputs) ++
    HashChain.hashed hash EvidenceKind.file.step
      (emptyEvidenceBytes .file row.workPlanDigest) (fileEntries inputs) ++
    [(row.withAll hash inputs).totals.bytes]

/-- No two of the strings have one hash. -/
def CollisionFree (strings : List (List UInt8)) : Prop :=
  Set.InjOn hash {string | string ∈ strings}

/-- Ids and numbers of recorded evidence are of type `i64`. -/
def EvidenceInRange (inputs : List (EvidenceInput Rest)) : Prop :=
  (inputs.length : Int) ≤ i64Max ∧ ∀ input ∈ inputs, IsI64 input.evidenceId

section Chains

variable {hash} {left right : RuntimeLeaseRow} {leftInputs rightInputs : List (EvidenceInput Rest)}

theorem directoryEntries_inRange (inRange : EvidenceInRange leftInputs) :
    ((directoryEntries leftInputs).length : Int) ≤ i64Max ∧
      ∀ entry ∈ directoryEntries leftInputs, IsI64 entry.evidenceId := by
  constructor
  · have fewer := List.length_filter_le
      (fun input : EvidenceInput Rest => input.directoryObjectSignature.isSome) leftInputs
    have total := inRange.1
    rw [directoryEntries, List.length_map]
    omega
  · intro entry found
    obtain ⟨input, isInput, rfl⟩ := List.mem_map.mp found
    exact inRange.2 input (List.mem_filter.mp isInput).1

theorem fileEntries_inRange (inRange : EvidenceInRange leftInputs) :
    ((fileEntries leftInputs).length : Int) ≤ i64Max ∧
      ∀ entry ∈ fileEntries leftInputs, IsI64 entry.evidenceId := by
  constructor
  · have fewer := List.length_filter_le
      (fun input : EvidenceInput Rest => input.directoryObjectSignature.isNone) leftInputs
    have total := inRange.1
    rw [fileEntries, List.length_map]
    omega
  · intro entry found
    obtain ⟨input, isInput, rfl⟩ := List.mem_map.mp found
    exact inRange.2 input (List.mem_filter.mp isInput).1

/-- The chain of one kind, when nothing that was hashed for it collides. -/
theorem kind_chain_injective (kind : EvidenceKind) {leftPlan rightPlan : Bytes32}
    {leftEntries rightEntries : List EvidenceEntry}
    (idsLeft : ∀ entry ∈ leftEntries, IsI64 entry.evidenceId)
    (idsRight : ∀ entry ∈ rightEntries, IsI64 entry.evidenceId) {strings : List (List UInt8)}
    (free : CollisionFree hash strings)
    (hashedLeft : HashChain.hashed hash kind.step (emptyEvidenceBytes kind leftPlan) leftEntries ⊆
      strings)
    (hashedRight : HashChain.hashed hash kind.step (emptyEvidenceBytes kind rightPlan)
      rightEntries ⊆ strings)
    (same : HashChain.chain hash kind.step (emptyEvidenceBytes kind leftPlan) leftEntries =
      HashChain.chain hash kind.step (emptyEvidenceBytes kind rightPlan) rightEntries) :
    leftEntries = rightEntries := by
  have unique : ∀ first item second other, item ∈ {entry : EvidenceEntry | IsI64 entry.evidenceId} →
      other ∈ {entry : EvidenceEntry | IsI64 entry.evidenceId} →
      kind.step first item = kind.step second other → first = second ∧ item = other := by
    intro first item second other inItem inOther steps
    obtain ⟨digests, -, items⟩ := EvidenceEntry.stepBytes_injective inItem inOther steps
    exact ⟨digests, items⟩
  refine (HashChain.chain_injective unique (fun digest entry => ⟨kind.step_ne_empty kind digest
    leftPlan entry, kind.step_ne_empty kind digest rightPlan entry⟩) idsLeft idsRight
    (free.mono ?_) same).2
  rintro string (found | found)
  · exact hashedLeft found
  · exact hashedRight found

/-- Both chains are determined by the digest that combines them. -/
theorem chains_determined (startLeft : left.Chained hash left.workPlanDigest [] [])
    (startRight : right.Chained hash right.workPlanDigest [] [])
    (inLeft : EvidenceInRange leftInputs) (inRight : EvidenceInRange rightInputs)
    (free : CollisionFree hash
      (hashedForLease hash left leftInputs ++ hashedForLease hash right rightInputs))
    (same : (left.withAll hash leftInputs).evidenceChainDigest =
      (right.withAll hash rightInputs).evidenceChainDigest) :
    left.workPlanDigest = right.workPlanDigest ∧
      directoryEntries leftInputs = directoryEntries rightInputs ∧
      fileEntries leftInputs = fileEntries rightInputs := by
  have chainedLeft := startLeft.withAll leftInputs
  have chainedRight := startRight.withAll rightInputs
  rw [List.nil_append, List.nil_append] at chainedLeft chainedRight
  obtain ⟨directoriesLeft, directoryIdsLeft⟩ := directoryEntries_inRange inLeft
  obtain ⟨directoriesRight, directoryIdsRight⟩ := directoryEntries_inRange inRight
  obtain ⟨filesLeft, fileIdsLeft⟩ := fileEntries_inRange inLeft
  obtain ⟨filesRight, fileIdsRight⟩ := fileEntries_inRange inRight
  have low : i64Min ≤ 0 := by decide
  have countsLeft : IsI64 (left.withAll hash leftInputs).totals.directoryCount ∧
      IsI64 (left.withAll hash leftInputs).totals.fileCount := by
    simp only [RuntimeLeaseRow.totals, chainedLeft.directoryCount, chainedLeft.fileCount, IsI64]
    omega
  have countsRight : IsI64 (right.withAll hash rightInputs).totals.directoryCount ∧
      IsI64 (right.withAll hash rightInputs).totals.fileCount := by
    simp only [RuntimeLeaseRow.totals, chainedRight.directoryCount, chainedRight.fileCount, IsI64]
    omega
  rw [chainedLeft.chainDigest, chainedRight.chainDigest] at same
  have texts := free (List.mem_append_left _ (List.mem_append_right _ List.mem_cons_self))
    (List.mem_append_right _ (List.mem_append_right _ List.mem_cons_self)) same
  have totals := EvidenceTotals.bytes_injOn countsLeft countsRight texts
  have plans := congrArg EvidenceTotals.workPlanDigest totals
  have directories := congrArg EvidenceTotals.directoryDigest totals
  have files := congrArg EvidenceTotals.fileDigest totals
  simp only [RuntimeLeaseRow.totals, chainedLeft.plan, chainedRight.plan,
    chainedLeft.directoryDigest, chainedRight.directoryDigest, chainedLeft.fileDigest,
    chainedRight.fileDigest] at plans directories files
  refine ⟨plans, ?_, ?_⟩
  · refine kind_chain_injective .directory directoryIdsLeft directoryIdsRight free ?_ ?_ directories
    · intro string found
      exact List.mem_append_left _ (List.mem_append_left _ (List.mem_append_left _ found))
    · intro string found
      exact List.mem_append_right _ (List.mem_append_left _ (List.mem_append_left _ found))
  · refine kind_chain_injective .file fileIdsLeft fileIdsRight free ?_ ?_ files
    · intro string found
      exact List.mem_append_left _ (List.mem_append_left _ (List.mem_append_right _ found))
    · intro string found
      exact List.mem_append_right _ (List.mem_append_left _ (List.mem_append_right _ found))

/-- A stored checkpoint answers only the payload that it was written for. -/
theorem replay_determined {guard other : RuntimeLeaseGuard} {original replayed : PausePayload}
    {volumeId : Int} {lease : RuntimeLeaseRow} {request : ControlRequestRow}
    (checkedOriginal : original.Checked) (checkedReplayed : replayed.Checked)
    (free : CollisionFree hash [original.bytes, replayed.bytes])
    (answers : answersPause
      (newCheckpointRow guard original.input volumeId lease original.answer (hash original.bytes))
      request other replayed.input replayed.acknowledgedAtMs replayed.answer
      (hash replayed.bytes) = true) :
    replayed = original := by
  simp only [answersPause, Bool.and_eq_true, decide_eq_true_eq] at answers
  have texts := free List.mem_cons_self (List.mem_cons_of_mem _ List.mem_cons_self) answers.2
  exact (PausePayload.bytes_injOn checkedOriginal checkedReplayed texts).symm

end Chains

/-- What the hashed encodings of evidence determine. -/
structure EvidenceEncodings (hash : List UInt8 → Bytes32) : Prop where
  /-- Within a kind and across kinds. -/
  inputs : ∀ left right : DigestInput, left.Accepted → right.Accepted →
    (left.bytes = right.bytes ↔ left = right)
  /-- The functions of the store hash the bytes of the accepted inputs. -/
  digests : ∀ (input : DigestInput) digest,
    input.Computes hash digest ↔ input.Accepted ∧ digest = hash input.bytes
  queries : ∀ query (left right : QueryRows query) leftCount rightCount,
    left.check = .ok leftCount → right.check = .ok rightCount →
    (left.bytes = right.bytes ↔ left = right)
  chains : ∀ (Rest : Type) leftGuard leftContext leftLease leftPlan rightGuard rightContext
    rightLease rightPlan (leftInputs rightInputs : List (EvidenceInput Rest)),
    EvidenceInRange leftInputs → EvidenceInRange rightInputs →
    CollisionFree hash
      (hashedForLease hash (acquiredLeaseRow hash leftGuard leftContext leftLease leftPlan)
          leftInputs ++
        hashedForLease hash (acquiredLeaseRow hash rightGuard rightContext rightLease rightPlan)
          rightInputs) →
    ((acquiredLeaseRow hash leftGuard leftContext leftLease leftPlan).withAll hash
        leftInputs).evidenceChainDigest =
      ((acquiredLeaseRow hash rightGuard rightContext rightLease rightPlan).withAll hash
        rightInputs).evidenceChainDigest →
    leftPlan = rightPlan ∧ directoryEntries leftInputs = directoryEntries rightInputs ∧
      fileEntries leftInputs = fileEntries rightInputs
  replays : ∀ guard other (original replayed : PausePayload) volumeId lease request,
    original.Checked → replayed.Checked → CollisionFree hash [original.bytes, replayed.bytes] →
    answersPause
      (newCheckpointRow guard original.input volumeId lease original.answer (hash original.bytes))
      request other replayed.input replayed.acknowledgedAtMs replayed.answer
      (hash replayed.bytes) = true →
    replayed = original

/-! ### The order between the chains -/

def sampleDirectory : EvidenceInput Unit where
  directoryObjectSignature := some (.filled 1)
  evidenceId := 1
  sourceSignature := .filled 2
  ticketSortKey := .filled 3
  ticketBlob := []
  recorded := fun rest => .ok (false, rest)

def sampleFile : EvidenceInput Unit := { sampleDirectory with directoryObjectSignature := none }

/-- Directories and files have a chain each: which of two came first leaves no trace. -/
theorem interleaving_not_determined :
    (∀ (hash : List UInt8 → Bytes32) (row : RuntimeLeaseRow),
      (row.withAll hash [sampleDirectory, sampleFile]).evidenceChainDigest =
        (row.withAll hash [sampleFile, sampleDirectory]).evidenceChainDigest) ∧
    [sampleDirectory, sampleFile].map EvidenceInput.entry ≠
      [sampleFile, sampleDirectory].map EvidenceInput.entry :=
  ⟨fun _ _ => rfl, by decide⟩

theorem evidenceEncodings (hash : List UInt8 → Bytes32) : EvidenceEncodings hash where
  inputs _ _ acceptedLeft acceptedRight := DigestInput.bytes_eq_iff acceptedLeft acceptedRight
  digests _ _ := DigestInput.computes_iff hash
  queries query left right leftCount rightCount checkedLeft checkedRight := by
    refine ⟨fun same => ?_, fun same => congrArg QueryRows.bytes same⟩
    have ends : left.bytes ++ [] = right.bytes ++ [] := by rw [same]
    exact (QueryRows.bytes_injective checkedLeft checkedRight ends).1
  chains Rest leftGuard leftContext leftLease leftPlan rightGuard rightContext rightLease
      rightPlan leftInputs rightInputs inLeft inRight free same :=
    chains_determined (RuntimeLeaseRow.Chained.acquired leftGuard leftContext leftLease leftPlan)
      (RuntimeLeaseRow.Chained.acquired rightGuard rightContext rightLease rightPlan) inLeft
      inRight free same
  replays _ _ _ _ _ _ _ checkedOriginal checkedReplayed free answers :=
    replay_determined checkedOriginal checkedReplayed free answers

section Samples

def sampleMember : ExactGroupManifestMember where
  ordinal := 0
  observationId := 1
  fingerprintId := 1
  sortRank := 0
  stablePathKey := .filled 1
  sourceSignature := .filled 2
  sizeBytes := 3
  algorithm := "blake3"
  algorithmVersion := 1
  parametersHash := .filled 4
  digest := [5]
  fileObjectKey := none

/-- The same member with a file object. -/
def sampleObject : ExactGroupManifestMember :=
  { sampleMember with fileObjectKey := some (.filled 0) }

/-- A stand-in for the hash that tells the strings of the samples apart. -/
def lengthHash (bytes : List UInt8) : Bytes32 := .filled (UInt8.ofNat bytes.length)

def sampleLease : RuntimeLeaseRow :=
  acquiredLeaseRow lengthHash ⟨1, 1, .filled 3⟩ ⟨1, 1, 1, 1, 1, .running, .running⟩
    ⟨.filled 8, .filled 7, 100⟩ (.filled 6)

/-- An absent object is not one of zeros, each member has its leaf, and a directory and a file are
determined whichever came first. -/
theorem evidenceEncodings_sample :
    sampleMember.leafBytes ≠ sampleObject.leafBytes ∧
      computeExactGroupMemberLeaf lengthHash sampleObject =
        .ok (lengthHash sampleObject.leafBytes) ∧
      directoryEntries [sampleDirectory, sampleFile] =
        directoryEntries [sampleFile, sampleDirectory] ∧
      fileEntries [sampleDirectory, sampleFile] = fileEntries [sampleFile, sampleDirectory] := by
  have encodings := evidenceEncodings lengthHash
  have member : (DigestInput.groupMember sampleMember).Accepted := rfl
  have object : (DigestInput.groupMember sampleObject).Accepted := rfl
  refine ⟨fun same => ?_, (encodings.digests (.groupMember sampleObject) _).mpr ⟨object, rfl⟩, ?_⟩
  · have inputs := (encodings.inputs _ _ member object).mp same
    injection inputs with members
    exact absurd members (by decide)
  · have inRange : EvidenceInRange [sampleDirectory, sampleFile] :=
      ⟨by decide, by simp [sampleFile, sampleDirectory, IsI64, i64Min, i64Max]⟩
    have otherInRange : EvidenceInRange [sampleFile, sampleDirectory] :=
      ⟨by decide, by simp [sampleFile, sampleDirectory, IsI64, i64Min, i64Max]⟩
    let strings := hashedForLease lengthHash sampleLease [sampleDirectory, sampleFile] ++
      hashedForLease lengthHash sampleLease [sampleFile, sampleDirectory]
    have apart : ∀ left ∈ strings, ∀ right ∈ strings,
        lengthHash left = lengthHash right → left = right := by decide +kernel
    have free : CollisionFree lengthHash strings :=
      fun left inLeft right inRight => apart left inLeft right inRight
    exact (encodings.chains Unit _ _ _ _ _ _ _ _ _ _ inRange otherInRange free rfl).2

end Samples

end Guiying.Store
