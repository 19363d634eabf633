import Guiying.Store.ChainCodes
import Guiying.Store.ControlOrder
import Guiying.Store.ControlOutcomes

/-!
# Repeated calls

A request is stored under its key and a checkpoint under its write key. A call that
repeats the one that stored it is answered from the store, at any later time, and
changes nothing; a call with the same key and any other payload is a conflict.
-/

namespace Guiying.Store

open Guiying.Foundation Guiying.Foundation.MachineInt Program

variable {Rest : Type} {hash : List UInt8 → Bytes32} {before after : Database Rest}

/-! ## Keys -/

/-- The keys that the schema keeps distinct. -/
structure Database.KeysDistinct (database : Database Rest) : Prop where
  requests : (database.requests.rows.map ControlRequestRow.requestKey).Nodup
  writes : (database.checkpoints.rows.map PauseCheckpointRow.writeKey).Nodup

namespace Database.KeysDistinct

theorem of_eq (distinct : before.KeysDistinct) (requests : after.requests = before.requests)
    (checkpoints : after.checkpoints = before.checkpoints) : after.KeysDistinct where
  requests := by
    rw [requests]
    exact distinct.requests
  writes := by
    rw [checkpoints]
    exact distinct.writes

/-- A change of requests that keeps their keys. -/
theorem update {change : ControlRequestRow → ControlRequestRow}
    {keeps : ∀ row, (change row).id = row.id} (distinct : before.KeysDistinct)
    (key : ∀ row, (change row).requestKey = row.requestKey) :
    Database.KeysDistinct { before with requests := before.requests.update change keeps } where
  requests := by
    change ((before.requests.rows.map change).map ControlRequestRow.requestKey).Nodup
    rw [List.map_map, show ControlRequestRow.requestKey ∘ change = ControlRequestRow.requestKey from
      funext key]
    exact distinct.requests
  writes := distinct.writes

end Database.KeysDistinct

theorem nodup_map_append {ρ κ : Type} {column : ρ → κ} {rows : List ρ} {row : ρ}
    (distinct : (rows.map column).Nodup) (fresh : column row ∉ rows.map column) :
    ((rows ++ [row]).map column).Nodup := by
  rw [List.map_append, List.map_singleton]
  refine List.nodup_append.mpr ⟨distinct, List.nodup_singleton _, ?_⟩
  intro key inside other single same
  rw [List.mem_singleton] at single
  subst single
  exact fresh (same ▸ inside)

/-- No change gives two requests one key, or two checkpoints. -/
theorem Change.keysDistinct (change : Change hash before after) (distinct : before.KeysDistinct) :
    after.KeysDistinct := by
  cases change with
  | moveRun | moveJob | beginRelease | finishRelease | appendEvidence | bindCoreSession
  | acquireLease | progress | record => exact distinct.of_eq rfl rfl
  | acknowledge found pending allowed =>
      refine distinct.update fun row => ?_
      split
      · rfl
      · rfl
  | supersede allowed =>
      refine distinct.update fun row => ?_
      unfold supersededRow
      split
      · rfl
      · rfl
  | insertRequest new allowed fresh inserted =>
      refine ⟨?_, distinct.writes⟩
      rw [(Table.insert_eq_some.mp inserted).2]
      exact nodup_map_append distinct.requests fresh
  | insertCheckpoint allowed freshKey freshRequest inserted =>
      refine ⟨distinct.requests, ?_⟩
      rw [(Table.insert_eq_some.mp inserted).2]
      exact nodup_map_append distinct.writes freshKey
  | other mutator =>
      have same := mutator.keeps before
      exact distinct.of_eq same.requests same.checkpoints

theorem Changes.keysDistinct (changes : Changes hash before after)
    (distinct : before.KeysDistinct) : after.KeysDistinct :=
  changes.invariant (fun _ _ change => change.keysDistinct) distinct

theorem mem_of_find?_key {ρ κ : Type} [DecidableEq κ] {column : ρ → κ} {rows : List ρ} {row : ρ}
    {key : κ} (found : (rows.find? fun row => column row = key) = some row) :
    row ∈ rows ∧ column row = key := by
  have passes := List.find?_some found
  exact ⟨List.mem_of_find?_eq_some found, of_decide_eq_true passes⟩

/-- The row of a key, where no two rows share one. -/
theorem find?_eq_of_distinct {ρ κ : Type} [DecidableEq κ] {column : ρ → κ} {rows : List ρ} {row : ρ}
    (distinct : (rows.map column).Nodup) (inside : row ∈ rows) {key : κ} (keyed : column row = key) :
    (rows.find? fun row => column row = key) = some row := by
  cases found : rows.find? fun row => column row = key with
  | none =>
      rw [List.find?_eq_none] at found
      exact absurd (decide_eq_true keyed) (found row inside)
  | some other =>
      obtain ⟨present, same⟩ := mem_of_find?_key found
      rw [List.inj_on_of_nodup_map distinct present inside (same.trans keyed.symm)]

/-! ## Requests -/

/-- The stored request of a key. -/
def Database.requestOfKey (database : Database Rest) (requestKey : Bytes32) :
    Option ControlRequestRow :=
  database.requests.rows.find? fun row => row.requestKey = requestKey

/-- A stored request stays stored under its key. -/
theorem requestOfKey_settles (settles : before.Settles after) (distinct : after.KeysDistinct)
    {requestKey : Bytes32} {row : ControlRequestRow}
    (found : before.requestOfKey requestKey = some row) :
    ∃ later, after.requestOfKey requestKey = some later ∧ row.Settles later := by
  obtain ⟨inside, keyed⟩ := mem_of_find?_key (show (before.requests.rows.find? fun row =>
    row.requestKey = requestKey) = some row from found)
  obtain ⟨later, present, settled⟩ :=
    settles.requests row.id row (Table.get?_eq_some.mpr ⟨inside, rfl⟩)
  refine ⟨later, find?_eq_of_distinct distinct.requests (Table.get?_eq_some.mp present).1 ?_, settled⟩
  have same := settled.same
  unfold Database.sameRequest at same
  simp only [Bool.and_eq_true, decide_eq_true_eq] at same
  rw [← keyed]
  simp only [same]

/-- A request goes on answering the call that it answers. -/
theorem answersRequest_settles {row later : ControlRequestRow} (settles : row.Settles later)
    (guard : RuntimeLeaseGuard) (input : ScanControlRequestInput) :
    answersRequest later guard input = answersRequest row guard input := by
  have same := settles.same
  unfold Database.sameRequest at same
  simp only [Bool.and_eq_true, decide_eq_true_eq] at same
  unfold answersRequest
  simp only [same]

/-- The guard is of the instance of the store. -/
def RepositoryTx.OfInstance (tx : RepositoryTx Rest) (guard : RuntimeLeaseGuard) : Prop :=
  tx.storeInstanceKey ≠ noInstance ∧ guard.storeInstanceKey = tx.storeInstanceKey

section Requests

variable {tx later : RepositoryTx Rest} {guard : RuntimeLeaseGuard}
  {input : ScanControlRequestInput} {row answer : ControlRequestRow}

/-- A request under a key that is stored: the stored one, or a conflict. -/
theorem requestScanControl_stored (found : tx.database.requestOfKey input.requestKey = some row) :
    requestScanControl guard input tx = (.ok answer, later) ↔
      tx.OfInstance guard ∧ answersRequest row guard input = true ∧ answer = row ∧ later = tx := by
  unfold requestScanControl
  constructor
  · intro ran
    obtain ⟨_, s1, ran1, ran⟩ := bind_eq_ok.mp ran
    obtain ⟨same, rfl⟩ := validateRuntimeGuardInstance_eq_ok.mp ran1
    obtain ⟨_, s2, ran2, ran⟩ := bind_eq_ok.mp ran
    obtain ⟨rfl, rfl⟩ := current_eq_ok.mp ran2
    rw [show (tx.database.requests.rows.find? fun row => row.requestKey = input.requestKey) =
      some row from found] at ran
    obtain ⟨_, s3, ran3, ran⟩ := bind_eq_ok.mp ran
    obtain ⟨answers, rfl⟩ := ensure_eq_ok.mp ran3
    obtain ⟨rfl, rfl⟩ := pure_eq_ok.mp ran
    exact ⟨same, answers, rfl, rfl⟩
  · rintro ⟨same, answers, rfl, rfl⟩
    refine bind_eq_ok.mpr ⟨⟨⟩, later, validateRuntimeGuardInstance_eq_ok.mpr ⟨same, rfl⟩, ?_⟩
    refine bind_eq_ok.mpr ⟨later, later, current_eq_ok.mpr ⟨rfl, rfl⟩, ?_⟩
    rw [show (later.database.requests.rows.find? fun row => row.requestKey = input.requestKey) =
      some answer from found]
    exact bind_eq_ok.mpr ⟨⟨⟩, later, ensure_eq_ok.mpr ⟨answers, rfl⟩, pure_eq_ok.mpr ⟨rfl, rfl⟩⟩

theorem requestScanControl_conflict (ofInstance : tx.OfInstance guard)
    (found : tx.database.requestOfKey input.requestKey = some row)
    (differs : answersRequest row guard input = false) :
    requestScanControl guard input tx =
      (.error (.idempotencyConflict "scan_control_request" (lowerHex input.requestKey)), tx) := by
  have passed : (validateRuntimeGuardInstance guard : Tx Rest PUnit) tx = (.ok ⟨⟩, tx) :=
    validateRuntimeGuardInstance_eq_ok.mpr ⟨ofInstance, rfl⟩
  unfold requestScanControl
  rw [bind_after passed, bind_after (current_eq_ok.mpr ⟨rfl, rfl⟩),
    show (tx.database.requests.rows.find? fun row => row.requestKey = input.requestKey) =
      some row from found]
  dsimp only
  rw [differs, ensure_false, fail_bind]
  rfl

/-- A request that was accepted is stored under its key and answers the call. -/
theorem requestScanControl_stores (ran : requestScanControl guard input tx = (.ok row, later))
    (distinct : later.database.KeysDistinct) :
    tx.OfInstance guard ∧ later.database.requestOfKey input.requestKey = some row ∧
      answersRequest row guard input = true := by
  cases found : tx.database.requestOfKey input.requestKey with
  | some existing =>
      obtain ⟨same, answers, rfl, rfl⟩ := (requestScanControl_stored found).mp ran
      exact ⟨same, found, answers⟩
  | none =>
      obtain ⟨context, requests, leased, -, rfl, -, inserted, rfl⟩ :=
        (requestScanControl_eq_ok found).mp ran
      refine ⟨leased.honoured.1, find?_eq_of_distinct distinct.requests ?_ rfl, ?_⟩
      · rw [(Table.insert_eq_some.mp inserted).2]
        exact List.mem_append_right _ List.mem_cons_self
      · simp [answersRequest, Database.newRequest, newRequestRow]

end Requests

/-! ## Pauses -/

/-- The answer that the expected versions and the expected generation lead to. -/
structure PauseCheckpointInput.LeadsTo (input : PauseCheckpointInput) (answer : PauseAnswer) :
    Prop where
  job : checkedI64 (input.expectedJobStateVersion + 1) = some answer.jobVersion
  run : checkedI64 (input.expectedRunStateVersion + 1) = some answer.runVersion
  generation : (match input.expectedGeneration with
    | some generation => checkedI64 (generation + 1)
    | none => some 1) = some answer.generation

/-- What an acknowledgement of a pause is checked for before it looks for a checkpoint. -/
structure PauseChecked (tx : RepositoryTx Rest) (guard : RuntimeLeaseGuard)
    (input : PauseCheckpointInput) (acknowledgedAtMs : Int) (answer : PauseAnswer) : Prop where
  ofInstance : tx.OfInstance guard
  nonnegative : 0 ≤ acknowledgedAtMs
  cursor : (cursorJson input.cursor).length ≤ 16 * 1024
  ordinals : ∃ ordinals, pauseCursorOrdinals input.cursor = .ok ordinals
  leads : input.LeadsTo answer

section Pauses

variable {tx later : RepositoryTx Rest} {guard : RuntimeLeaseGuard} {input : PauseCheckpointInput}
  {acknowledgedAtMs : Int} {answer expected : PauseAnswer} {checkpoint : PauseCheckpointRow}
  {request : ControlRequestRow}

theorem expectedPauseAnswer_eq_ok :
    (expectedPauseAnswer input : Tx Rest PauseAnswer) tx = (.ok answer, later) ↔
      input.LeadsTo answer ∧ tx = later := by
  unfold expectedPauseAnswer
  rw [bind_eq_ok]
  constructor
  · rintro ⟨job, s1, ran1, ran⟩
    obtain ⟨jobFits, rfl⟩ := nextVersion_eq_ok.mp ran1
    obtain ⟨run, s2, ran2, ran⟩ := bind_eq_ok.mp ran
    obtain ⟨runFits, rfl⟩ := nextVersion_eq_ok.mp ran2
    cases given : input.expectedGeneration with
    | none =>
        rw [given] at ran
        obtain ⟨rfl, rfl⟩ := pure_eq_ok.mp ran
        exact ⟨⟨jobFits, runFits, by rw [given]⟩, rfl⟩
    | some current =>
        rw [given] at ran
        obtain ⟨generation, s3, ran3, ran⟩ := bind_eq_ok.mp ran
        obtain ⟨next, rfl⟩ := nextVersion_eq_ok.mp ran3
        obtain ⟨rfl, rfl⟩ := pure_eq_ok.mp ran
        exact ⟨⟨jobFits, runFits, by rw [given]; exact next⟩, rfl⟩
  · rintro ⟨⟨job, run, generation⟩, rfl⟩
    refine ⟨_, tx, nextVersion_eq_ok.mpr ⟨job, rfl⟩, ?_⟩
    refine bind_eq_ok.mpr ⟨_, tx, nextVersion_eq_ok.mpr ⟨run, rfl⟩, ?_⟩
    cases given : input.expectedGeneration with
    | none =>
        rw [given] at generation
        refine pure_eq_ok.mpr ⟨?_, rfl⟩
        rw [Option.some.inj generation]
    | some current =>
        rw [given] at generation
        exact bind_eq_ok.mpr ⟨answer.generation, tx, nextVersion_eq_ok.mpr ⟨generation, rfl⟩,
          pure_eq_ok.mpr ⟨rfl, rfl⟩⟩

/-- An acknowledgement that is checked goes on to look for the checkpoint of its write key. -/
theorem acknowledgePause_checked
    (checked : PauseChecked tx guard input acknowledgedAtMs expected) :
    let payloadDigest := pauseCheckpointPayloadDigest hash input acknowledgedAtMs
      expected.jobVersion expected.runVersion expected.generation
    acknowledgePause hash guard input acknowledgedAtMs tx =
      match writtenCheckpoint tx.database input.writeKey with
      | some (checkpoint, request) => (do
          Program.ensure
            (answersPause checkpoint request guard input acknowledgedAtMs expected payloadDigest)
            (.idempotencyConflict "pause_checkpoint_write" (lowerHex input.writeKey))
          pure expected : Tx Rest PauseAnswer) tx
      | none => writePause guard input acknowledgedAtMs expected payloadDigest tx := by
  obtain ⟨ofInstance, nonnegative, cursor, ⟨ordinals, inRange⟩, leads⟩ := checked
  have passed : (validateRuntimeGuardInstance guard : Tx Rest PUnit) tx = (.ok ⟨⟩, tx) :=
    validateRuntimeGuardInstance_eq_ok.mpr ⟨ofInstance, rfl⟩
  have clock : (requireNonnegative "acknowledged_at_ms" acknowledgedAtMs : Tx Rest PUnit) tx =
      (.ok ⟨⟩, tx) := requireNonnegative_eq_ok.mpr ⟨nonnegative, rfl⟩
  have answered : (expectedPauseAnswer input : Tx Rest PauseAnswer) tx = (.ok expected, tx) :=
    expectedPauseAnswer_eq_ok.mpr ⟨leads, rfl⟩
  unfold acknowledgePause
  rw [bind_after passed, bind_after clock, decide_eq_true cursor, inRange, ensure_true, ret_bind,
    ofExcept_ok_bind, bind_after answered, bind_after (current_eq_ok.mpr ⟨rfl, rfl⟩)]
  cases writtenCheckpoint tx.database input.writeKey <;> rfl

theorem pauseChecked_of_ok
    (ran : acknowledgePause hash guard input acknowledgedAtMs tx = (.ok answer, later)) :
    ∃ expected, PauseChecked tx guard input acknowledgedAtMs expected := by
  unfold acknowledgePause at ran
  obtain ⟨_, s1, ran1, ran⟩ := bind_eq_ok.mp ran
  obtain ⟨ofInstance, rfl⟩ := validateRuntimeGuardInstance_eq_ok.mp ran1
  obtain ⟨_, s2, ran2, ran⟩ := bind_eq_ok.mp ran
  obtain ⟨nonnegative, rfl⟩ := requireNonnegative_eq_ok.mp ran2
  obtain ⟨_, s3, ran3, ran⟩ := bind_eq_ok.mp ran
  obtain ⟨cursor, rfl⟩ := ensure_eq_ok.mp ran3
  obtain ⟨ordinals, s4, ran4, ran⟩ := bind_eq_ok.mp ran
  obtain ⟨inRange, rfl⟩ := ofExcept_eq_ok.mp ran4
  obtain ⟨expected, s5, ran5, -⟩ := bind_eq_ok.mp ran
  obtain ⟨leads, rfl⟩ := expectedPauseAnswer_eq_ok.mp ran5
  exact ⟨expected, ofInstance, nonnegative, of_decide_eq_true cursor, ⟨ordinals, inRange⟩, leads⟩

/-- The digest of the payload of an acknowledgement that leads to the answer. -/
def pauseDigest (hash : List UInt8 → Bytes32) (input : PauseCheckpointInput) (acknowledgedAtMs : Int)
    (answer : PauseAnswer) : Bytes32 :=
  pauseCheckpointPayloadDigest hash input acknowledgedAtMs answer.jobVersion answer.runVersion
    answer.generation

/-- A pause that is stored is answered from the store. -/
theorem acknowledgePause_stored
    (checked : PauseChecked tx guard input acknowledgedAtMs expected)
    (found : writtenCheckpoint tx.database input.writeKey = some (checkpoint, request))
    (answers : answersPause checkpoint request guard input acknowledgedAtMs expected
      (pauseDigest hash input acknowledgedAtMs expected) = true) :
    acknowledgePause hash guard input acknowledgedAtMs tx = (.ok expected, tx) := by
  rw [acknowledgePause_checked checked, found]
  change ((Program.ensure (answersPause checkpoint request guard input acknowledgedAtMs expected
    (pauseDigest hash input acknowledgedAtMs expected)) _ >>= fun _ => pure expected :
      Tx Rest PauseAnswer)) tx = _
  rw [answers, ensure_true, ret_bind]
  rfl

theorem acknowledgePause_conflict
    (checked : PauseChecked tx guard input acknowledgedAtMs expected)
    (found : writtenCheckpoint tx.database input.writeKey = some (checkpoint, request))
    (differs : answersPause checkpoint request guard input acknowledgedAtMs expected
      (pauseDigest hash input acknowledgedAtMs expected) = false) :
    acknowledgePause hash guard input acknowledgedAtMs tx =
      (.error (.idempotencyConflict "pause_checkpoint_write" (lowerHex input.writeKey)), tx) := by
  rw [acknowledgePause_checked checked, found]
  change ((Program.ensure (answersPause checkpoint request guard input acknowledgedAtMs expected
    (pauseDigest hash input acknowledgedAtMs expected)) _ >>= fun _ => pure expected :
      Tx Rest PauseAnswer)) tx = _
  rw [differs, ensure_false, fail_bind]
  rfl

/-- The checkpoint that was written is stored under its key, with the acknowledged request. -/
theorem writePause_stores
    (ran : writePause guard input acknowledgedAtMs expected
      (pauseDigest hash input acknowledgedAtMs expected) tx = (.ok answer, later))
    (leads : input.LeadsTo expected) (distinct : later.database.KeysDistinct) :
    answer = expected ∧ ∃ checkpoint request,
      writtenCheckpoint later.database input.writeKey = some (checkpoint, request) ∧
      answersPause checkpoint request guard input acknowledgedAtMs answer
        (pauseDigest hash input acknowledgedAtMs answer) = true := by
  obtain ⟨context, lease, request, run, job, checkpoints, wrote, rfl, rfl⟩ := writePause_of_ok ran
  have same : (⟨input.expectedJobStateVersion + 1, input.expectedRunStateVersion + 1,
      expected.generation⟩ : PauseAnswer) = expected := by
    rw [← eq_of_nextVersion leads.job, ← eq_of_nextVersion leads.run]
  obtain ⟨present, -⟩ := pendingRequest_eq_some.mp wrote.pending
  have acknowledged := Table.get?_modify_self (fun old : ControlRequestRow => old.acknowledged
      (input.expectedJobStateVersion + 1) (input.expectedRunStateVersion + 1)
      (some expected.generation) "PAUSE_SAFE_POINT_ACKNOWLEDGED" acknowledgedAtMs
      (some (input.writeKey, pauseDigest hash input acknowledgedAtMs expected)))
    (fun _ => rfl) present
  have inside : newCheckpointRow guard input context.volumeId lease expected
      (pauseDigest hash input acknowledgedAtMs expected) ∈ checkpoints.rows := by
    rw [(Table.insert_eq_some.mp wrote.inserted).2]
    exact List.mem_append_right _ List.mem_cons_self
  have keyed := find?_eq_of_distinct distinct.writes inside
    (rfl : _ = input.writeKey)
  refine ⟨same, newCheckpointRow guard input context.volumeId lease expected
    (pauseDigest hash input acknowledgedAtMs expected), request.acknowledged (input.expectedJobStateVersion + 1)
    (input.expectedRunStateVersion + 1) (some expected.generation) "PAUSE_SAFE_POINT_ACKNOWLEDGED"
    acknowledgedAtMs (some (input.writeKey, pauseDigest hash input acknowledgedAtMs expected)),
    ?_, ?_⟩
  · unfold writtenCheckpoint
    refine Option.bind_eq_some_iff.mpr ⟨_, keyed, ?_⟩
    exact Option.bind_eq_some_iff.mpr ⟨_, acknowledged, rfl⟩
  · rw [same]
    simp [answersPause, newCheckpointRow, ControlRequestRow.acknowledged,
      eq_of_nextVersion leads.job, eq_of_nextVersion leads.run]

/-- An acknowledgement that returned is stored, and answers the call. -/
theorem acknowledgePause_stores
    (ran : acknowledgePause hash guard input acknowledgedAtMs tx = (.ok answer, later))
    (distinct : later.database.KeysDistinct) :
    PauseChecked tx guard input acknowledgedAtMs answer ∧ ∃ checkpoint request,
      writtenCheckpoint later.database input.writeKey = some (checkpoint, request) ∧
      answersPause checkpoint request guard input acknowledgedAtMs answer
        (pauseDigest hash input acknowledgedAtMs answer) = true := by
  obtain ⟨expected, checked⟩ := pauseChecked_of_ok ran
  rw [acknowledgePause_checked checked] at ran
  cases found : writtenCheckpoint tx.database input.writeKey with
  | some stored =>
      obtain ⟨checkpoint, request⟩ := stored
      rw [found] at ran
      obtain ⟨_, s1, ran1, ran⟩ := bind_eq_ok.mp ran
      obtain ⟨answers, rfl⟩ := ensure_eq_ok.mp ran1
      obtain ⟨rfl, rfl⟩ := pure_eq_ok.mp ran
      exact ⟨checked, checkpoint, request, found, answers⟩
  | none =>
      rw [found] at ran
      obtain ⟨rfl, stored⟩ := writePause_stores ran checked.leads distinct
      exact ⟨checked, stored⟩

/-- A checkpoint whose request is settled stays stored under its write key. -/
theorem writtenCheckpoint_settles (settles : before.Settles after) (distinct : after.KeysDistinct)
    {writeKey : Bytes32}
    (found : writtenCheckpoint before writeKey = some (checkpoint, request))
    (settled : request.disposition ≠ .pending) :
    writtenCheckpoint after writeKey = some (checkpoint, request) := by
  unfold writtenCheckpoint at found ⊢
  obtain ⟨stored, key, found⟩ := Option.bind_eq_some_iff.mp found
  obtain ⟨asked, present, same⟩ := Option.bind_eq_some_iff.mp found
  obtain ⟨rfl, rfl⟩ := Prod.mk.inj (Option.some.inj same)
  obtain ⟨inside, keyed⟩ := mem_of_find?_key key
  obtain ⟨kept, there, rfl⟩ :=
    settles.checkpoints stored.key stored (Table.get?_eq_some.mpr ⟨inside, rfl⟩)
  obtain ⟨later, presentLater, settles⟩ := settles.requests stored.pauseRequestId asked present
  rw [find?_eq_of_distinct distinct.writes (Table.get?_eq_some.mp there).1 keyed]
  change (after.requests.get? stored.pauseRequestId).bind _ = _
  rw [presentLater, settles.settled settled]
  rfl

end Pauses

end Guiying.Store
