import Guiying.Export.WriteExport

/-!
# From the temporary file to the link

What follows the creation of the temporary file only writes into it until the
link is made, and the link comes under a free name, after the complete document
and under the mutex of the cancellation.
-/

namespace Guiying.Export

open Guiying.Foundation Guiying.Foundation.ByteString

/-! ## Calls that only look -/

theorem reads_revalidate (parent : DirectoryHandle) (answer : Option Stat) :
    Program.Reads (parent.revalidate answer) :=
  Program.reads_bind Program.reads_orFail fun _ => Program.reads_ensure

theorem reads_statEntry (answer : StatAnswer) (name : FileName) :
    Program.Reads (DirectoryHandle.statEntry answer name) :=
  Program.reads_bind Program.reads_current fun _ =>
    Program.reads_bind Program.reads_orFail fun _ => Program.reads_pure

theorem reads_verifyTempIdentity (effectiveUid : Nat) (answers : VerifyAnswers) (file : Inode)
    (parent : DirectoryHandle) (name : FileName) :
    Program.Reads (verifyTempIdentity effectiveUid answers file parent name) := by
  apply Program.reads_bind Program.reads_orFail
  intro _
  apply Program.reads_bind (reads_statEntry _ _)
  intro _
  apply Program.reads_bind Program.reads_orFail
  intro _
  apply Program.reads_bind Program.reads_ensure
  intro _
  apply Program.reads_bind Program.reads_ensure
  intro _
  exact Program.reads_bind Program.reads_ensure fun _ => Program.reads_pure

theorem OwnedTemp.reads_revalidate (temp : OwnedTemp) (effectiveUid : Nat)
    (answers : VerifyAnswers) (target : BoundExportTarget) :
    Program.Reads (temp.revalidate effectiveUid answers target) := by
  apply Program.reads_bind Program.reads_ensure
  intro _
  apply Program.reads_bind Program.reads_orFail
  intro _
  exact Program.reads_bind (reads_verifyTempIdentity _ _ _ _ _) fun _ => Program.reads_ensure

theorem OwnedTemp.reads_flushAndSync (temp : OwnedTemp) (calls : Calls) :
    Program.Reads (temp.flushAndSync calls) := by
  apply Program.reads_bind Program.reads_orFail
  intro _
  exact Program.reads_bind Program.reads_ensure fun _ => Program.reads_ensure

/-! ## The run until the link -/

section Publish

variable {base : Directory} {file : Inode}

theorem Holding.arrive {body : List UInt8} {world : World} (holding : Holding base file body world)
    (cancels : Nat → Nat) : Holding base file body (world.arrive cancels) where
  directory := holding.directory
  consistent := holding.consistent.cancels _
  uncommitted := (CancelHistory.cancels_commitState _ _).trans holding.uncommitted

theorem meets_check (calls : Calls) (body : List UInt8) :
    Program.Meets (Holding base file body) (check calls) (fun _ => Holding base file body)
      (fun _ => Holding base file body) := by
  intro world holding
  have arrived := holding.arrive calls.cancels
  unfold check
  dsimp only
  by_cases flagged : (world.arrive calls.cancels).history.cells.isCancelled = true
  · rw [if_pos flagged]
    exact arrived
  · rw [if_neg flagged]
    by_cases late : calls.expired world.looks = true
    · rw [if_pos late]
      exact arrived
    · rw [if_neg late]
      exact arrived

/-- A run that has written something and linked nothing. -/
def Unlinked (base : Directory) (file : Inode) (world : World) : Prop :=
  ∃ body, Holding base file body world

theorem meets_callbackCheck (calls : Calls) (body : List UInt8) :
    Program.Meets (Holding base file body) (callbackCheck calls) (fun _ => Holding base file body)
      (fun _ => Unlinked base file) :=
  Program.meets_mapError ((meets_check calls body).consequence (fun _ holds => holds)
    (fun _ _ holds => holds) (fun _ _ holds => ⟨body, holds⟩))

section Encode

variable {ρ : Type} (toVec : ρ → Option (List UInt8)) (calls : Calls) {format : ExportFormat}
  {request : HistoryExportRequest} {expected : Nat}

/-- The encoder has written the serialized `records` behind `canonical`. -/
def Extended (base : Directory) (file : Inode) (format : ExportFormat)
    (request : HistoryExportRequest) (expected : Nat) (canonical : List (List UInt8))
    (records : List ρ) (encoder : ExportEncoder) (world : World) : Prop :=
  ∃ more, records.map toVec = more.map some ∧
    Encoding base file format request expected (canonical ++ more) encoder world

theorem meets_writeBatch (records : List ρ) {canonical : List (List UInt8)}
    {encoder : ExportEncoder} (encoded : Encoded file format request expected canonical encoder) :
    Program.Meets (Holding base file (openDocument format request canonical))
      (writeBatch toVec calls records encoder)
      (Extended toVec base file format request expected canonical records)
      (fun _ => Unlinked base file) := by
  induction records generalizing canonical encoder with
  | nil =>
      apply Program.meets_pure
      intro world holding
      refine ⟨[], rfl, ?_⟩
      rw [List.append_nil]
      exact ⟨encoded, holding⟩
  | cons record rest ih =>
      apply Program.meets_bind (meets_callbackCheck calls _)
      intro _
      apply Program.meets_bind (Program.meets_mapError (meets_writeRecord encoded (toVec record)))
      rintro after world ⟨first, found, written, holding⟩
      refine (ih written).consequence (fun _ holds => holds) ?_ (fun _ _ holds => holds) world
        holding
      rintro final world' ⟨more, rest', encoding⟩
      refine ⟨first :: more, ?_, ?_⟩
      · rw [List.map_cons, List.map_cons, found, rest']
      · rwa [List.append_assoc] at encoding

theorem meets_writePages (pages : List (StorePage ρ)) {canonical : List (List UInt8)}
    {encoder : ExportEncoder} (encoded : Encoded file format request expected canonical encoder) :
    Program.Meets (Holding base file (openDocument format request canonical))
      (writePages toVec calls pages encoder)
      (Extended toVec base file format request expected canonical (pages.flatMap (·.records)))
      (fun _ => Unlinked base file) := by
  induction pages generalizing canonical encoder with
  | nil =>
      apply Program.meets_bind (meets_callbackCheck calls _)
      intro _
      apply Program.meets_pure
      intro world holding
      refine ⟨[], rfl, ?_⟩
      rw [List.append_nil]
      exact ⟨encoded, holding⟩
  | cons page rest ih =>
      apply Program.meets_bind (meets_callbackCheck calls _)
      intro _
      cases page with
      | empty => exact ih encoded
      | refused => exact Program.meets_fail (fun _ holding => ⟨_, holding⟩)
      | rejected =>
          apply Program.meets_bind (meets_callbackCheck calls _)
          intro _
          exact Program.meets_fail (fun _ holding => ⟨_, holding⟩)
      | batch records =>
          apply Program.meets_bind (meets_callbackCheck calls _)
          intro _
          apply Program.meets_bind (meets_writeBatch toVec calls records encoded)
          rintro after world ⟨first, found, written, holding⟩
          refine (ih written).consequence (fun _ holds => holds) ?_ (fun _ _ holds => holds) world
            holding
          rintro final world' ⟨more, rest', encoding⟩
          refine ⟨first ++ more, ?_, ?_⟩
          · rw [List.flatMap_cons, List.map_append, List.map_append, rest']
            exact congrArg (· ++ _) found
          · rwa [List.append_assoc] at encoding

/-- `body` is the complete document of the store's records, and `result` describes it. -/
def Documented (blake3 : List UInt8 → List UInt8) (store : StoreRun ρ) (format : ExportFormat)
    (request : HistoryExportRequest) (result : EncoderResult) (body : List UInt8) : Prop :=
  ∃ canonical, store.records.map toVec = canonical.map some ∧
    body = document blake3 format request canonical ∧
    result = ⟨body.length, canonical.length, logicalDigest blake3 request canonical⟩

theorem meets_withScanHistoryExportSnapshot (blake3 : List UInt8 → List UInt8)
    (store : StoreRun ρ) {temp : OwnedTemp} (opened : temp.file = some file) :
    Program.Meets (Holding base file [])
      (withScanHistoryExportSnapshot toVec calls blake3 store format request temp)
      (fun result world => ∃ body, Documented toVec blake3 store format request result body ∧
        Holding base file body world)
      (fun _ => Unlinked base file) := by
  have stopped (world : World) (holding : Holding base file [] world) : Unlinked base file world :=
    ⟨[], holding⟩
  refine Program.meets_orFail_bind ?_ ?_
  · exact fun _ => stopped
  intro expected _
  refine Program.meets_ensure_bind ?_ ?_
  · exact fun _ => stopped
  intro _
  rw [opened]
  refine Program.meets_orFail_bind ?_ ?_
  · exact fun _ => stopped
  rintro _ ⟨⟩
  apply Program.meets_bind (Program.meets_mapError (meets_begin _))
  rintro encoder world ⟨encoded, holding⟩
  refine Program.meets_bind (meets_writePages toVec calls store.pages encoded) ?_ world holding
  rintro encoder' world' ⟨canonical, records, encoded', holding'⟩
  rw [List.nil_append] at encoded' holding'
  refine Program.meets_bind (Program.meets_mapError (meets_finish encoded' blake3 _)) ?_ world'
    holding'
  intro result
  refine Program.meets_ensure_bind ?_ ?_
  · exact fun _ _ finished => ⟨_, finished.1⟩
  intro _
  apply Program.meets_pure
  rintro world'' ⟨holding'', rfl⟩
  exact ⟨_, ⟨canonical, records, rfl, rfl⟩, holding''⟩

end Encode

/-! ## The link -/

/-- The directory right after the link of `body`, under a target name that was free. -/
structure Linked (base : Directory) (file : Inode) (body : List UInt8) (temp : OwnedTemp)
    (target : BoundExportTarget) (world : World) : Prop where
  free : base.entries target.fileName = none
  directory : world.directory = (base.append file body).link temp.name target.fileName

theorem meets_statEntry {pre : World → Prop} (answer : StatAnswer) (name : FileName) :
    Program.Meets pre (DirectoryHandle.statEntry answer name)
      (fun found world => pre world ∧ found.isNone = (world.directory.entries name).isNone)
      (fun _ => pre) := by
  apply Program.meets_current_bind
  intro world holds
  refine Program.meets_orFail_bind ?_ ?_
  · rintro _ _ rfl
    exact holds
  intro attributes _
  apply Program.meets_pure
  rintro _ rfl
  exact ⟨holds, Option.isNone_map⟩

theorem meets_ensureAbsent {pre : World → Prop} (answer : StatAnswer) (name : FileName) :
    Program.Meets pre (DirectoryHandle.ensureAbsent answer name)
      (fun _ world => pre world ∧ world.directory.entries name = none) (fun _ => pre) := by
  apply Program.meets_bind (meets_statEntry answer name)
  intro found
  apply Program.meets_ensure
  · rintro absent world ⟨holds, same⟩
    exact ⟨holds, Option.isNone_iff_eq_none.mp (same ▸ absent)⟩
  · exact fun _ _ held => held.1

/-- Under the mutex, with the flag clear: the link is made, or nothing has changed. -/
theorem meets_target_commitLink (calls : Calls) (target : BoundExportTarget) (temp : OwnedTemp)
    (body : List UInt8) :
    Program.Meets (fun world => Holding base file body world ∧
        world.history.cells.cancelled = false)
      (target.commitLink calls temp)
      (fun _ world => Linked base file body temp target world ∧ world.history.commit.Consistent)
      (fun _ => Unlinked base file) := by
  have stopped (error : ExportTargetError) (world : World) (held : Holding base file body world ∧
      world.history.cells.cancelled = false) : Unlinked base file world := ⟨body, held.1⟩
  apply Program.meets_reads_bind (reads_revalidate _ _) stopped
  intro _
  refine Program.meets_bind ((meets_ensureAbsent _ _).consequence (fun _ holds => holds)
    (fun _ _ holds => holds) stopped) ?_
  intro _
  apply Program.meets_reads_bind (temp.reads_revalidate _ _ _) (fun error world held =>
    stopped error world held.1)
  intro _
  refine Program.meets_via (fun _ world =>
    Linked base file body temp target world ∧ world.history.commit.Consistent) ?_ ?_
  · rintro world ⟨⟨holding, clear⟩, free⟩
    unfold DirectoryHandle.linkNoReplace
    rw [free]
    by_cases links : (calls.linkat && (world.directory.entries temp.name).isSome) = true
    · rw [if_neg (by simp), if_pos links]
      refine ⟨⟨?_, ?_⟩, holding.consistent.commitLink clear⟩
      · rwa [holding.directory] at free
      · exact congrArg (fun directory => directory.link temp.name target.fileName)
          holding.directory
    · rw [if_neg (by simp), if_neg links]
      exact ⟨body, holding⟩
  intro _
  apply Program.meets_current_bind
  intro world linked
  apply Program.meets_pure
  rintro _ rfl
  exact linked

/-- `commit_link`: the mutex covers the look at the flag, the link and the commit. -/
theorem meets_commitLink (calls : Calls) (target : BoundExportTarget) (temp : OwnedTemp)
    (body : List UInt8) :
    Program.Meets (Holding base file body) (commitLink calls (target.commitLink calls temp))
      (fun _ world => Linked base file body temp target world ∧ world.history.Consistent)
      (fun _ => Unlinked base file) := by
  refine Program.meets_via (fun _ => Holding base file body)
    (Program.meets_update fun _ holding => holding.arrive calls.cancels) ?_
  intro _
  apply Program.meets_current_bind
  intro world holding
  refine Program.meets_ensure_bind ?_ ?_
  · rintro _ _ rfl
    exact ⟨body, holding⟩
  intro _
  refine Program.meets_ensure_bind ?_ ?_
  · rintro _ _ rfl
    exact ⟨body, holding⟩
  intro clear
  refine Program.meets_bind ((meets_target_commitLink calls target temp body).consequence ?_
    (fun _ _ holds => holds) (fun _ _ holds => holds)) ?_
  · rintro _ rfl
    exact ⟨holding, by simpa using clear⟩
  intro identityVerified
  refine Program.meets_via (fun _ world =>
    Linked base file body temp target world ∧ world.history.Consistent)
    (Program.meets_update ?_) ?_
  · rintro world' ⟨⟨free, directory⟩, consistent⟩
    exact ⟨⟨free, directory⟩, consistent⟩
  intro _
  exact Program.meets_pure (fun _ holds => holds)

/-! ## After the link -/

/-- The temporary entry has been removed or is still there. -/
structure Published (base : Directory) (file : Inode) (body : List UInt8) (temp : OwnedTemp)
    (target : BoundExportTarget) (world : World) : Prop where
  free : base.entries target.fileName = none
  directory : world.directory = (base.append file body).link temp.name target.fileName ∨
    world.directory = ((base.append file body).link temp.name target.fileName).unlink temp.name
  consistent : world.history.Consistent

theorem meets_finishCommitted (calls : Calls) (target : BoundExportTarget) (temp : OwnedTemp)
    (body : List UInt8) (identityVerified : Bool) :
    Program.Meets
      (fun world => Linked base file body temp target world ∧ world.history.Consistent)
      (target.finishCommitted calls temp identityVerified)
      (fun _ => Published base file body temp target) (fun _ _ => False) := by
  refine Program.meets_via (fun _ => Published base file body temp target)
    (Program.meets_attempt ?_) ?_
  · apply Program.meets_current_bind
    rintro world ⟨⟨free, directory⟩, consistent⟩
    refine Program.meets_ensure_bind ?_ ?_
    · rintro _ _ rfl
      exact ⟨free, .inl directory, consistent⟩
    intro _
    apply Program.meets_update
    rintro _ rfl
    refine ⟨free, .inr ?_, consistent⟩
    exact congrArg (fun directory => Directory.unlink directory temp.name) directory
  intro _
  refine Program.meets_via (fun _ => Published base file body temp target)
    (Program.meets_attempt (reads_revalidate _ _).meets) ?_
  intro _
  apply Program.meets_current_bind
  intro world published
  apply Program.meets_pure
  rintro _ rfl
  exact published

section Encode

variable {ρ : Type} (toVec : ρ → Option (List UInt8)) (calls : Calls) {format : ExportFormat}
  {request : HistoryExportRequest}

/-- What follows the creation of the temporary file links nothing, or links the complete
document under a free name. -/
theorem meets_publish (blake3 : List UInt8 → List UInt8) (store : StoreRun ρ)
    (target : BoundExportTarget) {temp : OwnedTemp} (opened : temp.file = some file) :
    Program.Meets (Holding base file [])
      (publish toVec calls blake3 store format request target temp)
      (fun artifact world => ∃ result body,
        Documented toVec blake3 store format request result body ∧
        artifact.bytesWritten = result.bytesWritten ∧
        artifact.recordCount = result.recordCount ∧
        artifact.logicalDigest = result.logicalDigest ∧
        Published base file body temp target world)
      (fun _ => Unlinked base file) := by
  refine Program.meets_via (fun result world => ∃ body,
    Documented toVec blake3 store format request result body ∧ Holding base file body world)
    (Program.meets_mapError (meets_withScanHistoryExportSnapshot toVec calls blake3 store opened))
    ?_
  rintro result world ⟨body, documented, holding⟩
  have stopped (error : ExportTargetError) (world : World) (holding : Holding base file body world) :
      Unlinked base file world := ⟨body, holding⟩
  have checked : Program.Meets (Holding base file body)
      (Program.mapError mapCallbackFailure (check calls)) (fun _ => Holding base file body)
      (fun _ => Unlinked base file) :=
    Program.meets_mapError ((meets_check calls body).consequence (fun _ holds => holds)
      (fun _ _ holds => holds) (fun _ _ held => ⟨body, held⟩))
  refine Program.meets_bind checked ?_ world holding
  intro _
  apply Program.meets_reads_bind (temp.reads_flushAndSync calls) stopped
  intro _
  apply Program.meets_reads_bind (temp.reads_revalidate _ _ _) stopped
  intro _
  apply Program.meets_bind checked
  intro _
  apply Program.meets_bind (meets_commitLink calls target temp body)
  intro identityVerified
  refine Program.meets_bind ((meets_finishCommitted calls target temp body identityVerified).consequence
    (fun _ holds => holds) (fun _ _ holds => holds) (fun _ _ impossible => impossible.elim)) ?_
  intro publication
  apply Program.meets_pure
  intro world published
  exact ⟨result, body, documented, rfl, rfl, rfl, published⟩

end Encode

end Publish

end Guiying.Export
