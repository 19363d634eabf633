import Guiying.Foundation.Numbered
import Guiying.Store.TransactionEffects

/-!
# The order of requests and checkpoints

The requests of a run are numbered in the order in which they were accepted, and
so are its checkpoints. Only the last request may be pending, only the last may be
a cancel, and a request that was settled stays as it is. A checkpoint is never
behind an earlier one.
-/

namespace Guiying.Store

open Guiying.Foundation

variable {Rest : Type} {hash : List UInt8 → Bytes32} {before after : Database Rest}

/-! ## Requests -/

/-- The requests of a run in the order of the table. -/
structure RequestsInOrder (requests : List ControlRequestRow) : Prop where
  numbered : Numbered ControlRequestRow.sequence requests
  pendingLast : ∀ request ∈ requests, request.disposition = .pending →
    request.sequence = requests.length
  cancelLast : ∀ request ∈ requests, request.kind = .cancel → request.sequence = requests.length

/-- What no statement changes of a request, and that a settled request stays as it is. -/
structure ControlRequestRow.Settles (row later : ControlRequestRow) : Prop where
  same : Database.sameRequest row later = true
  settled : row.disposition ≠ .pending → later = row

theorem ControlRequestRow.Settles.refl (row : ControlRequestRow) : row.Settles row := by
  refine ⟨?_, fun _ => rfl⟩
  unfold Database.sameRequest
  simp

theorem ControlRequestRow.Settles.trans {first second third : ControlRequestRow}
    (left : first.Settles second) (right : second.Settles third) : first.Settles third := by
  constructor
  · have one := left.same
    have two := right.same
    unfold Database.sameRequest at one two ⊢
    simp only [Bool.and_eq_true, decide_eq_true_eq] at one two ⊢
    simp only [two, one, and_self]
  · intro settled
    have same := left.settled settled
    subst same
    exact right.settled settled

/-- What an update that the trigger allows does to a row. -/
theorem settles_of_allowed {old new : ControlRequestRow} {database : Database Rest}
    (allowed : database.requestUpdateAllowed old new = true) : old.Settles new := by
  unfold Database.requestUpdateAllowed at allowed
  simp only [Bool.and_eq_true] at allowed
  obtain ⟨⟨⟨same, pending⟩, -⟩, -⟩ := allowed
  exact ⟨same, fun settled => absurd (of_decide_eq_true pending) settled⟩

namespace RequestsInOrder

variable {requests : List ControlRequestRow} {request other row : ControlRequestRow}

theorem nil : RequestsInOrder [] where
  numbered := Numbered.nil
  pendingLast := fun _ inside => absurd inside List.not_mem_nil
  cancelLast := fun _ inside => absurd inside List.not_mem_nil

/-- At most one request is pending. -/
theorem onePending (ordered : RequestsInOrder requests) (inside : request ∈ requests)
    (present : other ∈ requests) (pending : request.disposition = .pending)
    (waiting : other.disposition = .pending) : request = other :=
  ordered.numbered.injective inside present
    ((ordered.pendingLast request inside pending).trans
      (ordered.pendingLast other present waiting).symm)

/-- Beside a cancel, every request is earlier and settled. -/
theorem before_cancel (ordered : RequestsInOrder requests) (inside : request ∈ requests)
    (cancel : request.kind = .cancel) (present : other ∈ requests) (different : other ≠ request) :
    other.sequence < request.sequence ∧ other.disposition ≠ .pending := by
  have last := ordered.cancelLast request inside cancel
  have upper := (ordered.numbered.bounds present).2
  have apart : other.sequence ≠ request.sequence := fun same =>
    different (ordered.numbered.injective present inside same)
  refine ⟨by omega, fun pending => ?_⟩
  have place := ordered.pendingLast other present pending
  omega

theorem map {change : ControlRequestRow → ControlRequestRow} (ordered : RequestsInOrder requests)
    (sequence : ∀ row, (change row).sequence = row.sequence)
    (kind : ∀ row, (change row).kind = row.kind)
    (pending : ∀ row ∈ requests, (change row).disposition = .pending → row.disposition = .pending) :
    RequestsInOrder (requests.map change) where
  numbered := ordered.numbered.map sequence
  pendingLast := by
    intro changed inside waiting
    obtain ⟨old, present, rfl⟩ := List.mem_map.mp inside
    rw [sequence, List.length_map]
    exact ordered.pendingLast old present (pending old present waiting)
  cancelLast := by
    intro changed inside cancel
    obtain ⟨old, present, rfl⟩ := List.mem_map.mp inside
    rw [kind] at cancel
    rw [sequence, List.length_map]
    exact ordered.cancelLast old present cancel

theorem append (ordered : RequestsInOrder requests)
    (next : row.sequence = (requests.length : Int) + 1)
    (settled : ∀ request ∈ requests, request.disposition ≠ .pending)
    (open_ : ∀ request ∈ requests, request.kind ≠ .cancel) : RequestsInOrder (requests ++ [row]) where
  numbered := ordered.numbered.append next
  pendingLast := by
    intro request inside pending
    rw [List.mem_append, List.mem_singleton] at inside
    rcases inside with inside | rfl
    · exact absurd pending (settled request inside)
    · rw [next, List.length_append, List.length_singleton]
      push_cast
      rfl
  cancelLast := by
    intro request inside cancel
    rw [List.mem_append, List.mem_singleton] at inside
    rcases inside with inside | rfl
    · exact absurd cancel (open_ request inside)
    · rw [next, List.length_append, List.length_singleton]
      push_cast
      rfl

end RequestsInOrder

/-! ## Checkpoints -/

/-- A checkpoint is not behind another: neither the cursor nor a counter nor the time is less. -/
structure PauseCheckpointRow.NotAfter (row later : PauseCheckpointRow) : Prop where
  directories : row.cursor.nextDirectoryOrdinal ≤ later.cursor.nextDirectoryOrdinal
  files : row.cursor.nextFileOrdinal ≤ later.cursor.nextFileOrdinal
  discovered : row.discoveredCount ≤ later.discoveredCount
  fingerprinted : row.fingerprintedCount ≤ later.fingerprintedCount
  errors : row.errorCount ≤ later.errorCount
  bytes : row.logicalBytesSeen ≤ later.logicalBytesSeen
  saved : row.savedAtMs ≤ later.savedAtMs

theorem PauseCheckpointRow.NotAfter.refl (row : PauseCheckpointRow) : row.NotAfter row :=
  ⟨le_refl _, le_refl _, le_refl _, le_refl _, le_refl _, le_refl _, le_refl _⟩

theorem PauseCheckpointRow.NotAfter.trans {first second third : PauseCheckpointRow}
    (left : first.NotAfter second) (right : second.NotAfter third) : first.NotAfter third where
  directories := left.directories.trans right.directories
  files := left.files.trans right.files
  discovered := left.discovered.trans right.discovered
  fingerprinted := left.fingerprinted.trans right.fingerprinted
  errors := left.errors.trans right.errors
  bytes := left.bytes.trans right.bytes
  saved := left.saved.trans right.saved

/-- The checkpoints of a run in the order of the table. -/
structure CheckpointsInOrder (checkpoints : List PauseCheckpointRow) : Prop where
  numbered : Numbered PauseCheckpointRow.generation checkpoints
  ascending : ∀ earlier ∈ checkpoints, ∀ later ∈ checkpoints,
    earlier.generation ≤ later.generation → earlier.NotAfter later

namespace CheckpointsInOrder

variable {checkpoints : List PauseCheckpointRow} {row : PauseCheckpointRow}

theorem nil : CheckpointsInOrder [] where
  numbered := Numbered.nil
  ascending := fun _ inside => absurd inside List.not_mem_nil

theorem append (ordered : CheckpointsInOrder checkpoints)
    (next : row.generation = (checkpoints.length : Int) + 1)
    (continues : ∀ last ∈ checkpoints, last.generation = checkpoints.length → last.NotAfter row) :
    CheckpointsInOrder (checkpoints ++ [row]) where
  numbered := ordered.numbered.append next
  ascending := by
    intro earlier inside later present below
    rw [List.mem_append, List.mem_singleton] at inside present
    rcases inside with inside | rfl
    · rcases present with present | rfl
      · exact ordered.ascending earlier inside later present below
      · -- the last of the old checkpoints is between them
        have nonempty : checkpoints ≠ [] := List.ne_nil_of_mem inside
        have found := List.getLast?_eq_some_getLast nonempty
        generalize checkpoints.getLast nonempty = last at found
        have there : last ∈ checkpoints := List.mem_of_getLast? found
        have number : last.generation = checkpoints.length := by
          rw [List.getLast?_eq_getElem?] at found
          have counted := ordered.numbered _ _ found
          have long := List.length_pos_of_mem inside
          omega
        have bound := (ordered.numbered.bounds inside).2
        exact (ordered.ascending earlier inside last there (by omega)).trans
          (continues last there number)
    · rcases present with present | rfl
      · have bound := (ordered.numbered.bounds present).2
        omega
      · exact .refl _

end CheckpointsInOrder

/-! ## The tables -/

section Tables

variable {scanRunId : Int}

theorem requestsOf_update {database : Database Rest} {change : ControlRequestRow → ControlRequestRow}
    {keeps : ∀ row, (change row).id = row.id}
    (run : ∀ row, (change row).scanRunId = row.scanRunId) :
    Database.requestsOf { database with requests := database.requests.update change keeps }
      scanRunId = (database.requestsOf scanRunId).map change := by
  unfold Database.requestsOf Table.update
  dsimp only
  rw [List.filter_map]
  congr 2
  funext row
  exact congrArg (fun id => decide (id = scanRunId)) (run row)

theorem requestsOf_insert {database : Database Rest} {row : ControlRequestRow}
    {requests : Table ControlRequestRow.id} (inserted : database.requests.insert row = some requests) :
    Database.requestsOf { database with requests := requests } scanRunId =
      if row.scanRunId = scanRunId then database.requestsOf scanRunId ++ [row]
      else database.requestsOf scanRunId := by
  unfold Database.requestsOf
  dsimp only
  rw [(Table.insert_eq_some.mp inserted).2, List.filter_append]
  split
  · rename_i same
    rw [List.filter_singleton, decide_eq_true same]
    rfl
  · rename_i different
    rw [List.filter_singleton, decide_eq_false different]
    exact List.append_nil _

theorem checkpointsOf_insert {database : Database Rest} {row : PauseCheckpointRow}
    {checkpoints : Table PauseCheckpointRow.key}
    (inserted : database.checkpoints.insert row = some checkpoints) :
    Database.checkpointsOf { database with checkpoints := checkpoints } scanRunId =
      if row.scanRunId = scanRunId then database.checkpointsOf scanRunId ++ [row]
      else database.checkpointsOf scanRunId := by
  unfold Database.checkpointsOf
  dsimp only
  rw [(Table.insert_eq_some.mp inserted).2, List.filter_append]
  split
  · rename_i same
    rw [List.filter_singleton, decide_eq_true same]
    rfl
  · rename_i different
    rw [List.filter_singleton, decide_eq_false different]
    exact List.append_nil _

end Tables

/-- The requests and checkpoints of a run are in order, and are there only once it has a lease. -/
structure Database.InControlOrder (database : Database Rest) (scanRunId : Int) : Prop where
  requests : RequestsInOrder (database.requestsOf scanRunId)
  checkpoints : CheckpointsInOrder (database.checkpointsOf scanRunId)
  leased : database.leases.get? scanRunId = none →
    database.requestsOf scanRunId = [] ∧ database.checkpointsOf scanRunId = []

namespace Database.InControlOrder

variable {scanRunId : Int}

/-- Only the three tables matter, and of the leases only whether there is one. -/
theorem of_eq (ordered : before.InControlOrder scanRunId)
    (requests : after.requestsOf scanRunId = before.requestsOf scanRunId)
    (checkpoints : after.checkpointsOf scanRunId = before.checkpointsOf scanRunId)
    (leases : after.leases.get? scanRunId = none → before.leases.get? scanRunId = none) :
    after.InControlOrder scanRunId where
  requests := by
    rw [requests]
    exact ordered.requests
  checkpoints := by
    rw [checkpoints]
    exact ordered.checkpoints
  leased := by
    intro absent
    rw [requests, checkpoints]
    exact ordered.leased (leases absent)

/-- A change of requests that keeps their columns and settles what it changes. -/
theorem update {change : ControlRequestRow → ControlRequestRow}
    {keeps : ∀ row, (change row).id = row.id} (ordered : before.InControlOrder scanRunId)
    (run : ∀ row, (change row).scanRunId = row.scanRunId)
    (sequence : ∀ row, (change row).sequence = row.sequence)
    (kind : ∀ row, (change row).kind = row.kind)
    (pending : ∀ row, (change row).disposition = .pending → row.disposition = .pending) :
    Database.InControlOrder { before with requests := before.requests.update change keeps }
      scanRunId where
  requests := by
    rw [requestsOf_update run]
    exact ordered.requests.map sequence kind fun row _ => pending row
  checkpoints := ordered.checkpoints
  leased := by
    intro absent
    rw [requestsOf_update run, (ordered.leased absent).1]
    exact ⟨rfl, (ordered.leased absent).2⟩

end Database.InControlOrder

theorem Database.lastSequence_eq {database : Database Rest} {scanRunId : Int}
    (ordered : RequestsInOrder (database.requestsOf scanRunId)) :
    database.lastSequence scanRunId = (database.requestsOf scanRunId).length :=
  ordered.numbered.foldl_max

/-- The checkpoint with the highest generation is the last. -/
theorem Database.nextGeneration_eq {database : Database Rest} {scanRunId : Int}
    (ordered : CheckpointsInOrder (database.checkpointsOf scanRunId)) :
    database.nextGeneration scanRunId = ((database.checkpointsOf scanRunId).length : Int) + 1 := by
  unfold Database.nextGeneration Database.latestCheckpoint
  cases last : (database.checkpointsOf scanRunId).getLast? with
  | none =>
      rw [List.getLast?_eq_none_iff.mp last]
      rfl
  | some row =>
      have inside : row ∈ database.checkpointsOf scanRunId := List.mem_of_getLast? last
      rw [ordered.numbered.highest last]
      rw [List.getLast?_eq_getElem?] at last
      have counted := ordered.numbered _ _ last
      have long := List.length_pos_of_mem inside
      change row.generation + 1 = _
      omega

theorem Database.mem_requestsOf {database : Database Rest} {scanRunId : Int}
    {request : ControlRequestRow} :
    request ∈ database.requestsOf scanRunId ↔
      request ∈ database.requests.rows ∧ request.scanRunId = scanRunId := by
  unfold Database.requestsOf
  rw [List.mem_filter, decide_eq_true_eq]

theorem Database.mem_checkpointsOf {database : Database Rest} {scanRunId : Int}
    {checkpoint : PauseCheckpointRow} :
    checkpoint ∈ database.checkpointsOf scanRunId ↔
      checkpoint ∈ database.checkpoints.rows ∧ checkpoint.scanRunId = scanRunId := by
  unfold Database.checkpointsOf
  rw [List.mem_filter, decide_eq_true_eq]

/-- What the trigger asks of a new request, apart from the states of lease, run and job. -/
theorem Database.requestInsertAllowed_settled {database : Database Rest} {row : ControlRequestRow}
    (allowed : database.requestInsertAllowed row = true) :
    row.disposition = .pending ∧ row.sequence = database.lastSequence row.scanRunId + 1 ∧
      (∀ request ∈ database.requestsOf row.scanRunId, request.kind ≠ .cancel) ∧
      (∀ request ∈ database.requestsOf row.scanRunId, request.disposition ≠ .pending) ∧
      ∃ lease, database.leases.get? row.scanRunId = some lease := by
  unfold Database.requestInsertAllowed Database.hasPending Database.isPending at allowed
  simp only [Bool.and_eq_true, decide_eq_true_eq, Bool.not_eq_true', List.any_eq_false] at allowed
  obtain ⟨⟨⟨⟨pending, sequence⟩, noCancel⟩, noPending⟩, lease⟩ := allowed
  refine ⟨pending, sequence, noCancel, noPending, ?_⟩
  obtain ⟨lease, found, -⟩ := (Option.any_eq_true _ _).mp lease
  exact ⟨lease, found⟩

theorem checkpointContinues_notAfter {database : Database Rest} {previous new : PauseCheckpointRow}
    (continues : database.checkpointContinues previous new = true) : previous.NotAfter new := by
  unfold Database.checkpointContinues at continues
  rw [Bool.and_eq_true, Option.any_eq_true] at continues
  obtain ⟨-, previousRequest, -, continues⟩ := continues
  obtain ⟨request, -, continues⟩ := (Option.any_eq_true _ _).mp continues
  obtain ⟨-, discovered, fingerprinted, errors, bytes, saved, directories, files⟩ :=
    of_decide_eq_true continues
  exact ⟨directories, files, discovered, fingerprinted, errors, bytes, saved⟩

theorem supersededRow_columns (scanRunId requestedAtMs byId : Int) (row : ControlRequestRow) :
    (supersededRow scanRunId requestedAtMs byId row).scanRunId = row.scanRunId ∧
      (supersededRow scanRunId requestedAtMs byId row).sequence = row.sequence ∧
      (supersededRow scanRunId requestedAtMs byId row).kind = row.kind ∧
      ((supersededRow scanRunId requestedAtMs byId row).disposition = .pending →
        row.disposition = .pending) := by
  unfold supersededRow
  split
  · rename_i pending
    exact ⟨rfl, rfl, rfl, fun _ => pending.2.1⟩
  · exact ⟨rfl, rfl, rfl, id⟩

theorem LeasesKept.absent (kept : LeasesKept before after) {scanRunId : Int}
    (absent : after.leases.get? scanRunId = none) : before.leases.get? scanRunId = none := by
  cases found : before.leases.get? scanRunId with
  | none => rfl
  | some row =>
      obtain ⟨row', there, -⟩ := kept scanRunId row found
      rw [absent] at there
      cases there

/-- No change puts the requests or the checkpoints of a run out of order. -/
theorem Change.inControlOrder (change : Change hash before after) {scanRunId : Int}
    (ordered : before.InControlOrder scanRunId) : after.InControlOrder scanRunId := by
  have kept := change.leasesKept
  cases change with
  | moveRun | moveJob | bindCoreSession | progress | record =>
      exact ordered.of_eq rfl rfl id
  | beginRelease | finishRelease | appendEvidence | acquireLease =>
      exact ordered.of_eq rfl rfl kept.absent
  | other mutator =>
      have same := mutator.keeps before
      refine ordered.of_eq ?_ ?_ kept.absent
      · unfold Database.requestsOf
        rw [same.requests]
      · unfold Database.checkpointsOf
        rw [same.checkpoints]
  | acknowledge found pending allowed =>
      refine ordered.update ?_ ?_ ?_ ?_
      · intro row
        split
        · rfl
        · rfl
      · intro row
        split
        · rfl
        · rfl
      · intro row
        split
        · rfl
        · rfl
      · intro row
        split
        · intro settled
          cases settled
        · exact id
  | supersede allowed =>
      refine ordered.update ?_ ?_ ?_ ?_
      · exact fun row => (supersededRow_columns _ _ _ row).1
      · exact fun row => (supersededRow_columns _ _ _ row).2.1
      · exact fun row => (supersededRow_columns _ _ _ row).2.2.1
      · exact fun row => (supersededRow_columns _ _ _ row).2.2.2
  | @insertRequest row _ new allowed fresh inserted =>
      obtain ⟨pending, sequence, noCancel, noPending, lease, found⟩ :=
        Database.requestInsertAllowed_settled allowed
      by_cases same : row.scanRunId = scanRunId
      · subst same
        rw [Database.lastSequence_eq ordered.requests] at sequence
        refine ⟨?_, ordered.checkpoints, fun absent => ?_⟩
        · rw [requestsOf_insert inserted, if_pos rfl]
          exact ordered.requests.append sequence noPending noCancel
        · rw [found] at absent
          cases absent
      · refine ordered.of_eq ?_ rfl id
        rw [requestsOf_insert inserted, if_neg same]
  | @insertCheckpoint row _ allowed freshKey freshRequest inserted =>
      unfold Database.checkpointInsertAllowed at allowed
      rw [Bool.and_eq_true, Bool.and_eq_true, decide_eq_true_eq, Option.any_eq_true] at allowed
      obtain ⟨⟨generation, continues⟩, lease, found, -⟩ := allowed
      by_cases same : row.scanRunId = scanRunId
      · subst same
        rw [Database.nextGeneration_eq ordered.checkpoints] at generation
        refine ⟨ordered.requests, ?_, fun absent => ?_⟩
        · rw [checkpointsOf_insert inserted, if_pos rfl]
          refine ordered.checkpoints.append generation fun last inside number => ?_
          have long := List.length_pos_of_mem inside
          rw [Bool.or_eq_true, decide_eq_true_eq, Option.any_eq_true] at continues
          rcases continues with first | ⟨previous, there, continues⟩
          · omega
          · have key : last.key = (row.scanRunId, row.generation - 1) := by
              unfold PauseCheckpointRow.key
              rw [(Database.mem_checkpointsOf.mp inside).2, number, generation]
              congr 1
              omega
            have last' := Table.get?_eq_some.mpr ⟨(Database.mem_checkpointsOf.mp inside).1, key⟩
            rw [last'] at there
            cases there
            exact checkpointContinues_notAfter continues
        · rw [found] at absent
          cases absent
      · refine ordered.of_eq rfl ?_ id
        rw [checkpointsOf_insert inserted, if_neg same]

theorem Changes.inControlOrder (changes : Changes hash before after) {scanRunId : Int}
    (ordered : before.InControlOrder scanRunId) : after.InControlOrder scanRunId :=
  changes.invariant (fun _ _ change => change.inControlOrder) ordered

/-! ## Settled requests -/

/-- Every request is kept and settled, and every checkpoint stays as it is. -/
structure Database.Settles (before after : Database Rest) : Prop where
  requests : Table.Kept ControlRequestRow.Settles before.requests after.requests
  checkpoints : Table.Kept Eq before.checkpoints after.checkpoints

theorem Database.Settles.refl (database : Database Rest) : database.Settles database where
  requests := Table.Kept.refl ControlRequestRow.Settles.refl _
  checkpoints := Table.Kept.refl (fun _ => rfl) _

theorem Database.Settles.trans {first second third : Database Rest} (left : first.Settles second)
    (right : second.Settles third) : first.Settles third where
  requests := left.requests.trans (fun _ _ _ => ControlRequestRow.Settles.trans) right.requests
  checkpoints := left.checkpoints.trans (fun _ _ _ => Eq.trans) right.checkpoints

theorem Change.settles (change : Change hash before after) : before.Settles after := by
  have same := Database.Settles.refl before
  cases change with
  | moveRun | moveJob | beginRelease | finishRelease | appendEvidence | bindCoreSession
  | acquireLease | progress | record => exact ⟨same.requests, same.checkpoints⟩
  | acknowledge found pending allowed =>
      refine ⟨?_, same.checkpoints⟩
      refine Table.kept_modify ControlRequestRow.Settles.refl ?_ found (settles_of_allowed allowed)
      exact fun _ => rfl
  | supersede allowed =>
      refine ⟨?_, same.checkpoints⟩
      refine Table.kept_update ?_ fun row inside => ?_
      · exact supersededRow_id _ _ _
      · rcases allowed row inside with unchanged | allowed
        · rw [unchanged]
          exact .refl row
        · exact settles_of_allowed allowed
  | insertRequest new allowed fresh inserted =>
      exact ⟨Table.kept_insert ControlRequestRow.Settles.refl inserted, same.checkpoints⟩
  | insertCheckpoint allowed freshKey freshRequest inserted =>
      exact ⟨same.requests, Table.kept_insert (fun _ => rfl) inserted⟩
  | other mutator =>
      have unchanged := mutator.keeps before
      constructor
      · rw [unchanged.requests]
        exact same.requests
      · rw [unchanged.checkpoints]
        exact same.checkpoints

theorem Changes.settles (changes : Changes hash before after) : before.Settles after := by
  induction changes with
  | refl => exact .refl _
  | tail _ change ih => exact ih.trans change.settles

end Guiying.Store
