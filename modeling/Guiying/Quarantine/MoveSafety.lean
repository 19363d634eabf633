import Guiying.Quarantine.MoveMember

/-!
# What a move relocates

A move that is accepted has put the member's own file into the operation's
directory. A move that is rejected gives the name in quarantine back without
looking at what it names, so it relocates nothing else unless another program has
put something there.
-/

namespace Guiying.Quarantine

open Guiying.Foundation ByteString Outcome
open Guiying.Desktop (AppError)

/-! ## Looks at the tree -/

namespace FileTree

variable {tree : FileTree} {kernel : Kernel}

theorem lookup_eq_some {parent key : ObjectKey} {name : Name} {object : FileObject} :
    tree.lookup parent name = some (key, object) ↔
      tree.entries parent name = some key ∧ tree.objects key = some object := by
  constructor
  · intro found
    obtain ⟨entry, named, found⟩ := Option.bind_eq_some_iff.mp found
    obtain ⟨held, known, same⟩ := Option.map_eq_some_iff.mp found
    cases same
    exact ⟨named, known⟩
  · rintro ⟨named, known⟩
    simp [lookup, named, known]

theorem fileIdentity_eq_ok {file : ObjectKey} {identity : FileObjectIdentity} :
    tree.fileIdentity file = .ok identity ↔
      ∃ object, tree.objects file = some object ∧ object.identity file = identity := by
  unfold fileIdentity
  cases known : tree.objects file with
  | none => simp
  | some object => simp

theorem fileIdentity_key {file : ObjectKey} {identity : FileObjectIdentity}
    (found : tree.fileIdentity file = .ok identity) : identity.toObjectKey = file := by
  obtain ⟨object, -, rfl⟩ := fileIdentity_eq_ok.mp found
  rfl

/-- Two handles of one directory identity are one directory. -/
theorem stableRootIdentity_key {file : ObjectKey} {identity : StableRootIdentity}
    (found : tree.stableRootIdentity file = .ok identity) : identity.toObjectKey = file := by
  obtain ⟨seen, isSeen, found⟩ := bind_eq_ok.mp found
  split at found
  · cases found
  · cases found
    exact fileIdentity_key isSeen

theorem openRegularFileAt_eq_some {parent file : ObjectKey} {name : Name} :
    tree.openRegularFileAt parent name = some file ↔
      ∃ object, tree.entries parent name = some file ∧ tree.objects file = some object ∧
        object.kind = .regular := by
  constructor
  · intro opened
    obtain ⟨⟨key, object⟩, found, opened⟩ := Option.bind_eq_some_iff.mp opened
    split at opened
    · rename_i regular
      cases opened
      obtain ⟨named, known⟩ := lookup_eq_some.mp found
      exact ⟨object, named, known, regular⟩
    · cases opened
  · rintro ⟨object, named, known, regular⟩
    simp [openRegularFileAt, lookup_eq_some.mpr ⟨named, known⟩, regular]

/-- The name of a member depends on its path alone. -/
theorem openRelativeParent_name {other : FileTree} {root parent otherParent : ObjectKey}
    {raw : List UInt8} {name otherName : Name}
    (opened : tree.openRelativeParent root raw = .ok (parent, name))
    (otherOpened : other.openRelativeParent root raw = .ok (otherParent, otherName)) :
    name = otherName := by
  obtain ⟨components, split₁, opened⟩ := bind_eq_ok.mp opened
  obtain ⟨otherComponents, split₂, otherOpened⟩ := bind_eq_ok.mp otherOpened
  rw [split₁] at split₂
  cases split₂
  split at opened
  · cases opened
  · rename_i outside
    rw [if_neg outside] at otherOpened
    obtain ⟨_, -, opened⟩ := bind_eq_ok.mp opened
    obtain ⟨_, -, otherOpened⟩ := bind_eq_ok.mp otherOpened
    cases opened
    cases otherOpened
    rfl

/-! ### Moving -/

theorem renameNoreplace_eq_ok {source target : ObjectKey × Name} {changed : FileTime}
    {after : FileTree} :
    tree.renameNoreplace kernel source target changed = .ok after ↔
      ∃ key object, tree.lookup source.1 source.2 = some (key, object) ∧
        source.1.device = target.1.device ∧ tree.entries target.1 target.2 = none ∧
        (object.kind = .directory → kernel.movesDirectory key target.1 = true) ∧
        after = tree.move source target key changed := by
  unfold renameNoreplace
  cases found : tree.lookup source.1 source.2 with
  | none => simp [renameNoreplace.failed]
  | some pair =>
      obtain ⟨key, object⟩ := pair
      simp only [Option.some.injEq, Prod.mk.injEq]
      constructor
      · intro renamed
        split_ifs at renamed with devices taken refused
        · cases renamed
        · cases renamed
        · cases renamed
        · cases renamed
          refine ⟨key, object, ⟨rfl, rfl⟩, not_not.mp devices, ?_, ?_, rfl⟩
          · simpa [entryExistsAt] using taken
          · intro directory
            by_contra refuses
            exact refused ⟨directory, by simpa using refuses⟩
      · rintro ⟨_, _, ⟨rfl, rfl⟩, devices, free, moves, rfl⟩
        rw [if_neg (not_not.mpr devices), if_neg (by simp [entryExistsAt, free]), if_neg]
        rintro ⟨directory, refuses⟩
        rw [moves directory] at refuses
        cases refuses

theorem entries_move_target {source target : ObjectKey × Name} {moved : ObjectKey}
    {changed : FileTime} :
    (tree.move source target moved changed).entries target.1 target.2 = some moved := by
  simp [move]

theorem entries_move_source {source target : ObjectKey × Name} {moved : ObjectKey}
    {changed : FileTime} (apart : source ≠ target) :
    (tree.move source target moved changed).entries source.1 source.2 = none := by
  simp [move, apart]

/-- Every entry but that of the moved name is kept. -/
theorem entries_move {source target : ObjectKey × Name} {moved : ObjectKey}
    {changed : FileTime} {parent key : ObjectKey} {name : Name}
    (free : tree.entries target.1 target.2 = none)
    (named : tree.entries parent name = some key) (other : (parent, name) ≠ source) :
    (tree.move source target moved changed).entries parent name = some key := by
  have apart : (parent, name) ≠ target := by
    rintro rfl
    rw [named] at free
    cases free
  simp [move, apart, other, named]

/-! ### Objects -/

/-- The object of a key is one of the given kind. -/
def HasKind (tree : FileTree) (key : ObjectKey) (kind : ObjectKind) : Prop :=
  ∃ object, tree.objects key = some object ∧ object.kind = kind

variable {key : ObjectKey} {kind : ObjectKind}

/-- A change of an object that leaves its kind alone. -/
theorem HasKind.of_update (has : tree.HasKind key kind) {changedKey : ObjectKey}
    {change : FileObject → FileObject} {after : FileTree}
    (objects : after.objects =
      Function.update tree.objects changedKey ((tree.objects changedKey).map change))
    (keeps : ∀ object, (change object).kind = object.kind) :
    after.HasKind key kind := by
  obtain ⟨object, known, isKind⟩ := has
  by_cases same : key = changedKey
  · subst same
    refine ⟨change object, ?_, (keeps object).trans isKind⟩
    rw [objects, Function.update_self, known]
    rfl
  · refine ⟨object, ?_, isKind⟩
    rw [objects, Function.update_of_ne same]
    exact known

theorem HasKind.move (has : tree.HasKind key kind) {source target : ObjectKey × Name}
    {moved : ObjectKey} {changed : FileTime} :
    (tree.move source target moved changed).HasKind key kind :=
  has.of_update rfl fun _ => rfl

theorem HasKind.relink (has : tree.HasKind key kind) {linked : ObjectKey} {links : Nat → Nat}
    {changed : FileTime} : (tree.relink linked links changed).HasKind key kind :=
  has.of_update rfl fun _ => rfl

/-- Nothing done from outside makes a file a directory. -/
theorem HasKind.changeOutside (has : tree.HasKind key kind) (change : OutsideChange) :
    (tree.changeOutside change).HasKind key kind := by
  cases change with
  | rename source target changed =>
      simp only [FileTree.changeOutside]
      split
      · exact has
      · split
        · exact has.move
        · split
          · exact has
          · exact has.relink.move
  | create parent name created object =>
      simp only [FileTree.changeOutside]
      split_ifs with taken
      · exact has
      · obtain ⟨held, known, isKind⟩ := has
        have apart : key ≠ created := by
          rintro rfl
          exact taken (.inr (by simp [known]))
        exact ⟨held, by simp [Function.update_of_ne apart, known], isKind⟩
  | link source target changed =>
      simp only [FileTree.changeOutside]
      split
      · exact has
      · split_ifs
        · exact has
        · exact has.relink

theorem HasKind.changesOutside (has : tree.HasKind key kind) (changes : List OutsideChange) :
    (tree.changesOutside changes).HasKind key kind := by
  induction changes generalizing tree with
  | nil => exact has
  | cons change changes ih => exact ih (has.changeOutside change)

end FileTree

section

variable {hash : List UInt8 → Bytes32} {kernel : Kernel} {call : MoveCall} {tree : FileTree}
  {barrier : MoveBarrier}

/-! ## What a barrier says -/

theorem requireRelativeParentBinding_ok {root : BoundQuarantineRoot} {raw : List UInt8}
    {identity : StableRootIdentity}
    (bound : requireRelativeParentBinding root raw identity tree = .ok ()) :
    ∃ parent name, tree.openRelativeParent root.directory raw = .ok (parent, name) ∧
      parent = identity.toObjectKey := by
  obtain ⟨_, -, bound⟩ := bind_eq_ok.mp bound
  obtain ⟨⟨parent, name⟩, opened, bound⟩ := bind_eq_ok.mp bound
  obtain ⟨seen, isSeen, bound⟩ := bind_eq_ok.mp bound
  obtain ⟨_, same, -⟩ := bind_eq_ok.mp bound
  have same : seen = identity := by simpa using refuse_eq_ok.mp same
  subst same
  exact ⟨parent, name, mapError_eq_ok.mp opened, (FileTree.stableRootIdentity_key isSeen).symm⟩

theorem requireInternalFilesDirectoryBinding_ok {root : BoundQuarantineRoot}
    {operationId : List Char} {identity : StableRootIdentity}
    (bound : requireInternalFilesDirectoryBinding kernel root operationId identity tree = .ok ()) :
    openFilesDirectory kernel root operationId tree = .ok identity.toObjectKey := by
  obtain ⟨_, -, bound⟩ := bind_eq_ok.mp bound
  obtain ⟨_, first, -⟩ := bind_eq_ok.mp bound
  obtain ⟨_, -, first⟩ := bind_eq_ok.mp first
  obtain ⟨files, opened, first⟩ := bind_eq_ok.mp first
  obtain ⟨seen, isSeen, same⟩ := bind_eq_ok.mp first
  have same : seen = identity := by simpa using refuse_eq_ok.mp same
  subst same
  rw [opened, FileTree.stableRootIdentity_key isSeen]

theorem requireMemberPathBinding_ok {root : BoundQuarantineRoot}
    {member : QuarantineMemberEvidence} {identity : FileObjectIdentity}
    (bound : requireMemberPathBinding hash root member identity tree = .ok ()) :
    ∃ file, openMemberRaw hash root member tree = .ok file ∧
      tree.fileIdentity file = .ok identity := by
  obtain ⟨_, -, bound⟩ := bind_eq_ok.mp bound
  obtain ⟨file, opened, bound⟩ := bind_eq_ok.mp bound
  obtain ⟨seen, isSeen, bound⟩ := bind_eq_ok.mp bound
  obtain ⟨_, same, -⟩ := bind_eq_ok.mp bound
  have same : seen = identity := by simpa using refuse_eq_ok.mp same
  subst same
  exact ⟨file, mapError_eq_ok.mp opened, isSeen⟩

theorem digestExactFile_ok {file : ObjectKey} {size : Nat} {digest : Bytes32}
    (read : digestExactFile hash tree file size = .ok digest) :
    digest = hash (tree.content file) := by
  unfold digestExactFile at read
  split_ifs at read
  cases read
  rfl

theorem sameFileObject_key {left right : FileObjectIdentity}
    (same : sameFileObjectAndContentMetadata left right = true) :
    left.toObjectKey = right.toObjectKey := by
  unfold sameFileObjectAndContentMetadata at same
  simp only [Bool.and_eq_true, decide_eq_true_eq] at same
  exact same.1.1.1.1.1.1

/-! ## Before the commit -/

/-- What the checks before the commit have found out. -/
structure MoveBarrier.Found (call : MoveCall) (barrier : MoveBarrier) (tree : FileTree) : Prop where
  filesDirectory : barrier.filesDirectoryIdentity.toObjectKey = call.filesDirectory
  sourceParent : barrier.sourceParentIdentity.toObjectKey = barrier.sourceParent
  opened : tree.openRelativeParent call.root.directory call.member.rootRelativePathRaw =
    .ok (barrier.sourceParent, barrier.sourceName)
  source : tree.entries barrier.sourceParent barrier.sourceName =
    some barrier.sourceIdentity.toObjectKey
  regular : tree.HasKind barrier.sourceIdentity.toObjectKey .regular

theorem beforeCommit_found (ran : beforeCommit hash kernel call tree = .ok barrier) :
    barrier.Found call tree := by
  obtain ⟨_, -, ran⟩ := bind_eq_ok.mp ran
  obtain ⟨_, -, ran⟩ := bind_eq_ok.mp ran
  obtain ⟨filesDirectoryIdentity, files, ran⟩ := bind_eq_ok.mp ran
  obtain ⟨_, -, ran⟩ := bind_eq_ok.mp ran
  obtain ⟨_, -, ran⟩ := bind_eq_ok.mp ran
  obtain ⟨⟨sourceParent, sourceName⟩, opened, ran⟩ := bind_eq_ok.mp ran
  obtain ⟨sourceParentIdentity, parent, ran⟩ := bind_eq_ok.mp ran
  obtain ⟨keeperFile, -, ran⟩ := bind_eq_ok.mp ran
  obtain ⟨sourceFile, source, ran⟩ := bind_eq_ok.mp ran
  obtain ⟨keeperIdentity, -, ran⟩ := bind_eq_ok.mp ran
  obtain ⟨sourceIdentity, identified, ran⟩ := bind_eq_ok.mp ran
  obtain ⟨_, -, ran⟩ := bind_eq_ok.mp ran
  obtain ⟨_, -, ran⟩ := bind_eq_ok.mp ran
  obtain ⟨_, -, ran⟩ := bind_eq_ok.mp ran
  obtain ⟨_, -, ran⟩ := bind_eq_ok.mp ran
  obtain ⟨_, -, ran⟩ := bind_eq_ok.mp ran
  obtain ⟨_, -, ran⟩ := bind_eq_ok.mp ran
  obtain ⟨_, -, ran⟩ := bind_eq_ok.mp ran
  obtain ⟨_, -, ran⟩ := bind_eq_ok.mp ran
  obtain ⟨_, -, ran⟩ := bind_eq_ok.mp ran
  obtain ⟨_, -, ran⟩ := bind_eq_ok.mp ran
  cases ran
  have key := FileTree.fileIdentity_key identified
  obtain ⟨object, named, known, isRegular⟩ :=
    FileTree.openRegularFileAt_eq_some.mp (orError_eq_ok.mp source)
  subst key
  exact ⟨FileTree.stableRootIdentity_key files, FileTree.stableRootIdentity_key parent, opened,
    named, object, known, isRegular⟩

/-! ## What is promised -/

/-- The member's own file, with the expected digest, is in the operation's directory; its
original name is free, and the keeper is where it was. -/
structure Quarantined (hash : List UInt8 → Bytes32) (kernel : Kernel) (call : MoveCall)
    (barrier : MoveBarrier) (tree : FileTree) : Prop where
  files : openFilesDirectory kernel call.root call.operationId tree = .ok call.filesDirectory
  moved : tree.openRegularFileAt call.filesDirectory call.quarantineName =
    some barrier.sourceIdentity.toObjectKey
  digest : hash (tree.content barrier.sourceIdentity.toObjectKey) = call.expectedDigest
  parent : tree.openRelativeParent call.root.directory call.member.rootRelativePathRaw =
    .ok (barrier.sourceParent, barrier.sourceName)
  free : tree.entries barrier.sourceParent barrier.sourceName = none
  keeper : ∃ file, openMemberRaw hash call.root call.keeper tree = .ok file ∧
    tree.fileIdentity file = .ok barrier.keeperIdentity

/-- No entry but the member's own name in quarantine is touched; the member is back where it can
be put back; and it is said to be in quarantine only if it is there. -/
structure Contained (kernel : Kernel) (call : MoveCall) (barrier : MoveBarrier)
    (failure : MoveOneMemberFailure) (observed after : FileTree) : Prop where
  kept : ∀ parent name object, observed.entries parent name = some object →
    after.entries parent name = some object ∨
      ((parent, name) = (call.filesDirectory, call.quarantineName) ∧
        object = barrier.sourceIdentity.toObjectKey)
  back : sourceParentContained call barrier observed = true →
    observed.entries barrier.sourceParent barrier.sourceName = none →
    observed.entries call.filesDirectory call.quarantineName =
      some barrier.sourceIdentity.toObjectKey →
    after.entries barrier.sourceParent barrier.sourceName = some barrier.sourceIdentity.toObjectKey
  committed : failure.committedInQuarantine = true →
    openFilesDirectory kernel call.root call.operationId after = .ok call.filesDirectory ∧
      after.entries call.filesDirectory call.quarantineName =
        some barrier.sourceIdentity.toObjectKey

/-- The promise of `move_one_member` for one run of it. -/
def MoveSafe (hash : List UInt8 → Bytes32) (kernel : Kernel) (call : MoveCall)
    (committedAt rolledBackAt : FileTime) (outside : List OutsideChange) (tree : FileTree) : Prop :=
  let ran := moveOneMemberWithPostRenameHook hash kernel call committedAt rolledBackAt outside tree
  match commit hash kernel call committedAt tree with
  | .error error => ran = (.error ⟨error, false⟩, tree)
  | .ok (barrier, committed) =>
      match ran.1 with
      | .ok _ => Quarantined hash kernel call barrier ran.2
      | .error failure =>
          Contained kernel call barrier failure (committed.changesOutside outside) ran.2

/-- Something else has the member's name in quarantine, and it can be moved to the member's
original name, which is free in a directory that is still bound. -/
def ReturnsStranger (kernel : Kernel) (call : MoveCall) (barrier : MoveBarrier)
    (observed : FileTree) : Prop :=
  sourceParentContained call barrier observed = true ∧
    observed.entries barrier.sourceParent barrier.sourceName = none ∧
    ∃ key object,
      observed.lookup call.filesDirectory call.quarantineName = some (key, object) ∧
      key ≠ barrier.sourceIdentity.toObjectKey ∧
      (object.kind = .directory → kernel.movesDirectory key barrier.sourceParent = true)

/-! ## After the commit -/

/-- What holds in every tree that is seen after the commit. -/
structure MoveBarrier.Holds (call : MoveCall) (barrier : MoveBarrier) (tree : FileTree) : Prop where
  filesDirectory : barrier.filesDirectoryIdentity.toObjectKey = call.filesDirectory
  sourceParent : barrier.sourceParentIdentity.toObjectKey = barrier.sourceParent
  name : ∀ parent name, tree.openRelativeParent call.root.directory
    call.member.rootRelativePathRaw = .ok (parent, name) → name = barrier.sourceName
  device : call.filesDirectory.device = barrier.sourceParent.device
  regular : tree.HasKind barrier.sourceIdentity.toObjectKey .regular

theorem commit_holds {committedAt : FileTime} {committed : FileTree}
    (ran : commit hash kernel call committedAt tree = .ok (barrier, committed))
    (outside : List OutsideChange) :
    barrier.Holds call (committed.changesOutside outside) := by
  obtain ⟨seen, before, ran⟩ := bind_eq_ok.mp ran
  obtain ⟨moved, renamed, ran⟩ := bind_eq_ok.mp ran
  cases ran
  have found := beforeCommit_found before
  obtain ⟨key, object, -, device, -, -, rfl⟩ := FileTree.renameNoreplace_eq_ok.mp renamed
  refine ⟨found.filesDirectory, found.sourceParent, ?_, device.symm,
    found.regular.move.changesOutside outside⟩
  intro parent name opened
  exact FileTree.openRelativeParent_name opened found.opened

theorem verifyMoved_quarantined (holds : barrier.Holds call tree)
    (verified : verifyMoved hash kernel call barrier tree = .ok ()) :
    Quarantined hash kernel call barrier tree := by
  obtain ⟨_, files, verified⟩ := bind_eq_ok.mp verified
  obtain ⟨_, keeper, verified⟩ := bind_eq_ok.mp verified
  obtain ⟨_, parent, verified⟩ := bind_eq_ok.mp verified
  obtain ⟨_, free, verified⟩ := bind_eq_ok.mp verified
  obtain ⟨_, -, verified⟩ := bind_eq_ok.mp verified
  obtain ⟨moved, opened, verified⟩ := bind_eq_ok.mp verified
  obtain ⟨movedIdentity, identified, verified⟩ := bind_eq_ok.mp verified
  obtain ⟨size, -, verified⟩ := bind_eq_ok.mp verified
  obtain ⟨digest, read, verified⟩ := bind_eq_ok.mp verified
  obtain ⟨again, -, verified⟩ := bind_eq_ok.mp verified
  obtain ⟨_, same, -⟩ := bind_eq_ok.mp verified
  have same := refuse_eq_ok.mp same
  simp only [Bool.or_eq_false_iff, Bool.not_eq_false', decide_eq_false_iff_not, ne_eq,
    not_not] at same
  obtain ⟨⟨sameObject, expected⟩, -⟩ := same
  -- The object that is in quarantine is the member's.
  have key : moved = barrier.sourceIdentity.toObjectKey := by
    rw [← FileTree.fileIdentity_key identified]
    exact sameFileObject_key sameObject
  subst key
  obtain ⟨sourceParent, sourceName, reopened, sameParent⟩ := requireRelativeParentBinding_ok parent
  have sameName := holds.name sourceParent sourceName reopened
  rw [sameParent, holds.sourceParent, sameName] at reopened
  refine ⟨?_, orError_eq_ok.mp opened, ?_, reopened, ?_, requireMemberPathBinding_ok keeper⟩
  · rw [requireInternalFilesDirectoryBinding_ok files, holds.filesDirectory]
  · rw [← expected]
    exact (digestExactFile_ok read).symm
  · simpa [FileTree.entryExistsAt] using refuse_eq_ok.mp free

/-- A move is not accepted while something else has the member's name in quarantine. -/
theorem Quarantined.not_returnsStranger (quarantined : Quarantined hash kernel call barrier tree) :
    ¬ ReturnsStranger kernel call barrier tree := by
  rintro ⟨-, -, key, object, found, stranger, -⟩
  obtain ⟨_, named, -⟩ := FileTree.openRegularFileAt_eq_some.mp quarantined.moved
  have other := (FileTree.lookup_eq_some.mp found).1
  rw [named] at other
  cases other
  exact stranger rfl

theorem movedObjectIsInTarget_entry (holds : barrier.Holds call tree)
    (inTarget : movedObjectIsInTarget kernel call barrier tree = true) :
    openFilesDirectory kernel call.root call.operationId tree = .ok call.filesDirectory ∧
      tree.entries call.filesDirectory call.quarantineName =
        some barrier.sourceIdentity.toObjectKey := by
  unfold movedObjectIsInTarget at inTarget
  obtain ⟨bound, same⟩ := Bool.and_eq_true_iff.mp inTarget
  constructor
  · cases files : requireInternalFilesDirectoryBinding kernel call.root call.operationId
        barrier.filesDirectoryIdentity tree with
    | error error =>
        rw [files] at bound
        cases bound
    | ok _ => rw [requireInternalFilesDirectoryBinding_ok files, holds.filesDirectory]
  · obtain ⟨identity, found, same⟩ := (Option.any_eq_true _ _).mp same
    obtain ⟨⟨key, object⟩, looked, rfl⟩ := Option.map_eq_some_iff.mp found
    have sameKey : key = barrier.sourceIdentity.toObjectKey := sameFileObject_key same
    rw [← sameKey]
    exact (FileTree.lookup_eq_some.mp looked).1

/-- A rollback is contained unless it finds something else under the member's name. -/
theorem rollback_contained (holds : barrier.Holds call tree) (rolledBackAt : FileTime)
    (own : ¬ ReturnsStranger kernel call barrier tree) :
    Contained kernel call barrier
      (rollbackFailedPostMoveVerification kernel call barrier rolledBackAt tree).1 tree
      (rollbackFailedPostMoveVerification kernel call barrier rolledBackAt tree).2 := by
  have unmoved : ∀ parent name object, tree.entries parent name = some object →
      tree.entries parent name = some object ∨
        ((parent, name) = (call.filesDirectory, call.quarantineName) ∧
          object = barrier.sourceIdentity.toObjectKey) :=
    fun parent name object named => .inl named
  unfold rollbackFailedPostMoveVerification
  dsimp only
  by_cases bound : sourceParentContained call barrier tree = true
  · rw [if_pos bound]
    cases renamed : tree.renameNoreplace kernel (call.filesDirectory, call.quarantineName)
        (barrier.sourceParent, barrier.sourceName) rolledBackAt with
    | error error =>
        refine ⟨unmoved, ?_, movedObjectIsInTarget_entry holds⟩
        -- The kernel does not refuse to move the member's own file back.
        intro _ free named
        obtain ⟨object, known, regular⟩ := holds.regular
        have found := FileTree.lookup_eq_some.mpr ⟨named, known⟩
        have possible : tree.renameNoreplace kernel (call.filesDirectory, call.quarantineName)
            (barrier.sourceParent, barrier.sourceName) rolledBackAt = .ok _ :=
          FileTree.renameNoreplace_eq_ok.mpr
            ⟨_, object, found, holds.device, free, by simp [regular], rfl⟩
        rw [renamed] at possible
        cases possible
    | ok rolledBack =>
        obtain ⟨key, object, found, -, free, moves, rfl⟩ :=
          FileTree.renameNoreplace_eq_ok.mp renamed
        have isMember : key = barrier.sourceIdentity.toObjectKey := by
          by_contra stranger
          exact own ⟨bound, free, key, object, found, stranger, moves⟩
        subst isMember
        refine ⟨?_, fun _ _ _ => FileTree.entries_move_target, nofun⟩
        intro parent name other named
        by_cases source : (parent, name) = (call.filesDirectory, call.quarantineName)
        · cases source
          rw [(FileTree.lookup_eq_some.mp found).1] at named
          cases named
          exact .inr ⟨rfl, rfl⟩
        · exact .inl (FileTree.entries_move free named source)
  · rw [if_neg bound]
    exact ⟨unmoved, fun contained => absurd contained bound, movedObjectIsInTarget_entry holds⟩

/-- What has the member's name in quarantine is moved to the original name. -/
theorem rollback_not_contained (holds : barrier.Holds call tree) (rolledBackAt : FileTime)
    {failure : MoveOneMemberFailure} (returns : ReturnsStranger kernel call barrier tree) :
    ¬ Contained kernel call barrier failure tree
      (rollbackFailedPostMoveVerification kernel call barrier rolledBackAt tree).2 := by
  intro contained
  obtain ⟨bound, free, key, object, found, stranger, moves⟩ := returns
  have renamed : tree.renameNoreplace kernel (call.filesDirectory, call.quarantineName)
      (barrier.sourceParent, barrier.sourceName) rolledBackAt = .ok _ :=
    FileTree.renameNoreplace_eq_ok.mpr ⟨key, object, found, holds.device, free, moves, rfl⟩
  have named := (FileTree.lookup_eq_some.mp found).1
  have apart : (call.filesDirectory, call.quarantineName) ≠
      (barrier.sourceParent, barrier.sourceName) := by
    intro same
    have sameName := Prod.mk.inj same
    rw [sameName.1, sameName.2, free] at named
    cases named
  unfold rollbackFailedPostMoveVerification at contained
  dsimp only at contained
  rw [if_pos bound, renamed] at contained
  rcases contained.kept _ _ key named with kept | ⟨-, own⟩
  · rw [FileTree.entries_move_source apart] at kept
    cases kept
  · exact stranger own

section

variable {committedAt rolledBackAt : FileTime} {outside : List OutsideChange}
  {committed : FileTree}

/-- A run that is committed keeps its promise when nothing else can be taken for the member, and
only then. -/
theorem moveSafe_of_commit (ran : commit hash kernel call committedAt tree = .ok (barrier, committed)) :
    MoveSafe hash kernel call committedAt rolledBackAt outside tree ↔
      ¬ ReturnsStranger kernel call barrier (committed.changesOutside outside) := by
  have holds := commit_holds ran outside
  unfold MoveSafe moveOneMemberWithPostRenameHook
  rw [ran]
  dsimp only
  cases verified : verifyMoved hash kernel call barrier (committed.changesOutside outside) with
  | ok _ =>
      have quarantined := verifyMoved_quarantined holds verified
      exact iff_of_true quarantined quarantined.not_returnsStranger
  | error error =>
      constructor
      · intro contained returns
        exact rollback_not_contained holds rolledBackAt returns contained
      · exact rollback_contained holds rolledBackAt

end

/-- The promise holds in exactly the runs in which, after what other programs have done, nothing
else can be taken for the member. -/
theorem moveSafe_iff (hash : List UInt8 → Bytes32) (kernel : Kernel) (call : MoveCall)
    (committedAt rolledBackAt : FileTime) (outside : List OutsideChange) (tree : FileTree) :
    MoveSafe hash kernel call committedAt rolledBackAt outside tree ↔
      ∀ barrier committed, commit hash kernel call committedAt tree = .ok (barrier, committed) →
        ¬ ReturnsStranger kernel call barrier (committed.changesOutside outside) := by
  cases ran : commit hash kernel call committedAt tree with
  | error error => simp [MoveSafe, moveOneMemberWithPostRenameHook, ran]
  | ok pair =>
      obtain ⟨barrier, committed⟩ := pair
      rw [moveSafe_of_commit ran]
      constructor
      · rintro own other after same
        cases same
        exact own
      · intro all
        exact all barrier committed rfl

end

/-! ## A stranger under the member's name -/

def albumKey (inode : Nat) : ObjectKey := ⟨1, inode, 0⟩

def albumObject (kind : ObjectKind) (content : List UInt8) : FileObject :=
  ⟨kind, 0o700, 501, 1, content, ⟨0, 0⟩, ⟨0, 0⟩, ⟨0, 0⟩⟩

def albumOperation : List Char := "op-".toList ++ List.replicate 64 '6'

/-- `/r` with a keeper, a copy of it and an open operation. -/
def albumTree : FileTree where
  top := albumKey 2
  objects key :=
    ([2, 10, 11, 12, 13, 14].map fun inode => (albumKey inode, albumObject .directory []))
      ++ ([20, 21].map fun inode => (albumKey inode, albumObject .regular [7])) |>.lookup key
  entries parent name :=
    [((albumKey 2, asciiBytes "r"), albumKey 10),
      ((albumKey 10, asciiBytes "keeper.jpg"), albumKey 20),
      ((albumKey 10, asciiBytes "copy.jpg"), albumKey 21),
      ((albumKey 10, quarantineDirectory), albumKey 11),
      ((albumKey 11, operationsDirectory), albumKey 12),
      ((albumKey 12, albumOperation.map ascii), albumKey 13),
      ((albumKey 13, filesDirectory), albumKey 14)].lookup (parent, name)

def albumMember (ordinal : Int) (path : String) : QuarantineMemberEvidence :=
  ⟨ordinal, asciiBytes path, 1, (Bytes32.filled 0).bytes, none, ⟨0, 0⟩⟩

def albumCall : MoveCall where
  root := ⟨asciiBytes "/r", albumKey 10, ⟨albumKey 10, 0o700⟩⟩
  keeper := albumMember 0 "keeper.jpg"
  member := albumMember 1 "copy.jpg"
  filesDirectory := albumKey 14
  operationId := albumOperation
  quarantineName := asciiBytes "member-000001.bin"
  expectedDigest := Bytes32.filled 0

/-- The member is renamed away from its name in quarantine, and a new file gets that name. -/
def albumChanges : List OutsideChange :=
  [.rename (albumKey 14, asciiBytes "member-000001.bin") (albumKey 14, asciiBytes "away") ⟨1, 0⟩,
    .create (albumKey 14) (asciiBytes "member-000001.bin") (albumKey 30)
      (albumObject .regular [9])]

/-- The new file is moved to the member's original name. -/
theorem album_not_moveSafe :
    ¬ MoveSafe (fun _ => Bytes32.filled 0) ⟨501, fun _ => true, fun _ _ => true⟩ albumCall ⟨1, 0⟩
      ⟨2, 0⟩ albumChanges albumTree := by
  have ran : commit (fun _ => Bytes32.filled 0) ⟨501, fun _ => true, fun _ _ => true⟩ albumCall
      ⟨1, 0⟩ albumTree =
        .ok (⟨⟨albumKey 14, 0o700⟩, albumKey 10, asciiBytes "copy.jpg", ⟨albumKey 10, 0o700⟩,
            (albumObject .regular [7]).identity (albumKey 20),
            (albumObject .regular [7]).identity (albumKey 21)⟩,
          albumTree.move (albumKey 10, asciiBytes "copy.jpg")
            (albumKey 14, asciiBytes "member-000001.bin") (albumKey 21) ⟨1, 0⟩) := rfl
  rw [moveSafe_of_commit ran, not_not]
  refine ⟨by decide, by decide, albumKey 30, albumObject .regular [9], rfl, by decide, nofun⟩

end Guiying.Quarantine
