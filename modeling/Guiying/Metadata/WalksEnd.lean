import Guiying.Metadata.BmffWalk

/-!
# Walks without limits

A reader of some bytes that counts what is used and limits nothing. Its walks end all the same: a
walk over boxes visits so many for each byte, and a walk over directories enters none twice.
-/

namespace Guiying.Metadata

open Guiying.Foundation Guiying.Foundation.ByteString Guiying.Foundation.MachineInt Parse Program

/-! ## The reader -/

/-- Limits no count of a file can reach. -/
def noLimits : ExtractionLimits where
  maxTotalBytesRead := u64Bound
  maxReadOperations := u64Bound
  maxRetainedFieldBytes := u64Bound
  maxFieldBytes := u64Bound
  maxFields := u64Bound
  maxJpegSegments := u64Bound
  maxIfdEntries := u64Bound
  maxIfdDepth := u64Bound
  maxBmffBoxes := u64Bound
  maxBmffDepth := u64Bound

def readUnlimited (contents : List UInt8) (offset length : Nat) (context : String) :
    Parse (List UInt8) := do
  let stop ← checkedAdd offset length (some offset) "read range overflow"
  ensure (stop ≤ contents.length) (.outOfBounds offset context)
  setUsage fun usage =>
    { usage with
      bytesRead := usage.bytesRead + length
      readOperations := usage.readOperations + 1 }
  pure (slice contents offset length)

def readFieldUnlimited (contents : List UInt8) (offset length : Nat) : Parse (List UInt8) := do
  let bytes ← readUnlimited contents offset length "read metadata field"
  setUsage fun usage =>
    { usage with
      fieldsEmitted := usage.fieldsEmitted + 1
      retainedFieldBytes := usage.retainedFieldBytes + length }
  pure bytes

/-- The reader of some bytes with every check against a limit removed. -/
def unlimited (contents : List UInt8) : MetadataReader where
  sourceLen := contents.length
  limits := noLimits
  readVec := readUnlimited contents
  readFieldBytes := readFieldUnlimited contents
  visitIfdEntries _ count :=
    setUsage fun usage => { usage with ifdEntriesVisited := usage.ifdEntriesVisited + count }
  visitBmffBox _ :=
    setUsage fun usage => { usage with bmffBoxesVisited := usage.bmffBoxesVisited + 1 }
  observeDepth depth _ _ _ :=
    setUsage fun usage => { usage with maxDepthObserved := max usage.maxDepthObserved depth }

/-- Its counts do not matter to a view that does not look at them. -/
theorem unlimited_keeps (contents : List UInt8) {γ : Type} {view : Extraction → γ}
    (bytes : ∀ length, Keeps view (setUsage fun usage =>
      { usage with
        bytesRead := usage.bytesRead + length
        readOperations := usage.readOperations + 1 }))
    (fields : ∀ length, Keeps view (setUsage fun usage =>
      { usage with
        fieldsEmitted := usage.fieldsEmitted + 1
        retainedFieldBytes := usage.retainedFieldBytes + length }))
    (entries : ∀ count, Keeps view (setUsage fun usage =>
      { usage with ifdEntriesVisited := usage.ifdEntriesVisited + count }))
    (depths : ∀ depth, Keeps view (setUsage fun usage =>
      { usage with maxDepthObserved := max usage.maxDepthObserved depth }))
    (issues : ∀ error, Keeps view (pushIssue error))
    (found : ∀ field, Keeps view (pushField field)) :
    (unlimited contents).Keeps view := by
  have read : ∀ offset length context,
      Keeps view (readUnlimited contents offset length context) := fun _ length _ =>
    keeps_bind (leaves_checkedAdd _ _ _ _) fun _ => keeps_bind (leaves_ensure _ _) fun _ =>
      keeps_bind (bytes length) fun _ => leaves_pure _
  exact {
    readVec := read
    readFieldBytes := fun _ length => keeps_bind (read _ _ _) fun _ =>
      keeps_bind (fields length) fun _ => leaves_pure _
    visitIfdEntries := fun _ count => entries count
    observeDepth := fun depth _ _ _ => depths depth
    pushIssue := issues
    pushField := found }

theorem unlimited_keepsLocals (contents : List UInt8) :
    (unlimited contents).Keeps Extraction.locals :=
  unlimited_keeps contents (fun _ _ => rfl) (fun _ _ => rfl) (fun _ _ => rfl) (fun _ _ => rfl)
    (fun _ _ => rfl) (fun _ _ => rfl)

theorem unlimited_countsBoxes (contents : List UInt8) : (unlimited contents).CountsBoxes where
  keeps := unlimited_keeps contents (fun _ _ => rfl) (fun _ _ => rfl) (fun _ _ => rfl)
    (fun _ _ => rfl) (fun _ _ => rfl) (fun _ _ => rfl)
  visitBmffBox _ _ := Nat.le_refl _

/-! ## Boxes -/

namespace Bmff

/-- Boxes one behind the other from an offset to the end of their range. -/
inductive Siblings (stop : Nat) : Nat → List BoxHeader → Prop where
  | ended (offset : Nat) (past : stop ≤ offset) : Siblings stop offset []
  | next {offset : Nat} {header : BoxHeader} {others : List BoxHeader}
      (starts : header.offset = offset)
      (header_le : offset + boxHeaderBytes ≤ header.payloadOffset)
      (payload_le : header.payloadOffset ≤ header.endOffset) (inside : header.endOffset ≤ stop)
      (more : Siblings stop header.endOffset others) : Siblings stop offset (header :: others)

/-- The children a range is found to have stand one behind the other, from its start to its end. -/
theorem readChildren_siblings {reader : MetadataReader} :
    ∀ (size cursor stop : Nat) (before children : List BoxHeader) (state after : Extraction),
      stop - cursor ≤ size →
      forBoxes reader (fun child children => pure (children ++ [child])) cursor stop before state =
        (.ok children, after) →
      ∃ found, children = before ++ found ∧ Siblings stop cursor found := by
  intro size
  induction size with
  | zero =>
      intro cursor stop before children state after none ran
      rw [forBoxes, dif_neg (by omega)] at ran
      obtain ⟨rfl, _⟩ := pure_eq_ok.mp ran
      exact ⟨[], (List.append_nil _).symm, .ended cursor (by omega)⟩
  | succ size ih =>
      intro cursor stop before children state after bounded ran
      rw [forBoxes] at ran
      split at ran
      · rename_i inFront
        obtain ⟨box, _, _, ran⟩ := bind_eq_ok.mp ran
        obtain ⟨next, _, visited, ran⟩ := bind_eq_ok.mp ran
        obtain ⟨rfl, _⟩ := pure_eq_ok.mp visited
        have header := box.header_le
        have payload := box.payload_le
        have small : stop - box.header.endOffset ≤ size := by
          simp only [boxHeaderBytes] at header
          omega
        obtain ⟨found, rfl, siblings⟩ := ih _ stop _ children _ _ small ran
        exact ⟨box.header :: found, by simp,
          .next box.starts header payload box.inside siblings⟩
      · obtain ⟨rfl, _⟩ := pure_eq_ok.mp ran
        exact ⟨[], (List.append_nil _).symm, .ended cursor (by omega)⟩

/-- What the walks over boxes do with a reader, whatever the bytes are. -/
structure WalksEnd (reader : MetadataReader) : Prop where
  /-- A header that is returned is that of a box inside its parent, longer than its payload. -/
  header : ∀ {offset parentEnd : Nat} {state after : Extraction} {box : BoxIn offset parentEnd},
    readBoxHeader reader offset parentEnd state = (.ok box, after) →
    box.header.offset = offset ∧ offset + boxHeaderBytes ≤ box.header.payloadOffset ∧
      box.header.payloadOffset ≤ box.header.endOffset ∧ box.header.endOffset ≤ parentEnd ∧
      box.header.endOffset - box.header.payloadOffset < box.header.endOffset - box.header.offset
  siblings : ∀ {cursor stop : Nat} {state after : Extraction} {children : List BoxHeader},
    readChildren reader cursor stop state = (.ok children, after) →
    Siblings stop cursor children
  metaChildren : ∀ {header : BoxHeader} {state after : Extraction} {start : Nat},
    metaChildrenStart reader header state = (.ok start, after) → header.payloadOffset ≤ start
  walkRange : ∀ start stop depth context path,
    Adds boxes (3 * (stop - start)) (walkRange reader start stop depth context path)
  parseMeta : ∀ header depth path, Adds boxes (3 * header.room) (parseMeta reader header depth path)
  parseRootMeta : ∀ header depth,
    Adds boxes (3 * header.room) (parseRootMeta reader header depth)
  findExifItem : ∀ header, Adds boxes header.room (findExifItem reader header)
  parseIlst : ∀ header depth recognizedKeys path,
    Adds boxes header.room (parseIlst reader header depth recognizedKeys path)
  parseMetadataItem : ∀ item depth path,
    Adds boxes item.room (parseMetadataItem reader item depth path)

theorem walksEnd {reader : MetadataReader} (counts : reader.CountsBoxes) : WalksEnd reader where
  header {offset parentEnd state after box} _ := by
    have header := box.header_le
    have payload := box.payload_le
    have begun := box.starts
    refine ⟨begun, header, payload, box.inside, ?_⟩
    simp only [boxHeaderBytes] at header
    omega
  siblings ran := by
    obtain ⟨found, rfl, siblings⟩ := readChildren_siblings _ _ _ [] _ _ _ (Nat.le_refl _) ran
    exact siblings
  metaChildren := metaChildrenStart_returns
  walkRange := adds_walkRange counts
  parseMeta := adds_parseMeta counts
  parseRootMeta := adds_parseRootMeta counts
  findExifItem := adds_findExifItem counts
  parseIlst := adds_parseIlst counts
  parseMetadataItem := adds_parseMetadataItem counts

end Bmff

/-! ## Directories -/

namespace Tiff

/-- The state in which the loop of a walk starts. -/
def loopStart (state : Extraction) (firstIfd : Nat) : Extraction :=
  { state with visited := [], pending := [⟨firstIfd, .primary, 1⟩] }

/-- What the walk of a container does with a reader, wherever its directories point to. -/
structure WalkEnds (reader : MetadataReader) (walk : TiffWalk) (firstIfd : Nat)
    (start : Extraction) : Prop where
  ends : LoopEnds reader walk start (walkPending reader walk (walkRounds walk) start)
  rounds : ∀ {tasks : List IfdTask} {after : Extraction}, Rounds reader walk start tasks after →
    tasks.length ≤ walkRounds walk
  /-- The directories entered are some of the tasks, at offsets that all differ. -/
  once : ∀ {tasks : List IfdTask} {after : Extraction}, Rounds reader walk start tasks after →
    ∃ entered : List IfdTask, entered.Sublist tasks ∧ (entered.map (taskOffset walk)).Nodup ∧
      after.visited = (entered.map (taskOffset walk)).reverse
  /-- A directory is read only when it is entered. -/
  entered : ∀ {task : IfdTask} {before after : Extraction},
    processIfd reader walk task before = (.ok (), after) →
      taskOffset walk task ∉ before.visited ∧
        after.visited = taskOffset walk task :: before.visited
  /-- The Exif directory that the primary directory points to is the next task. -/
  exifNext : ∀ {middle : Extraction},
    processIfd reader walk ⟨firstIfd, .primary, 1⟩ { start with pending := [] } =
      (.ok (), middle) →
    ∃ begun ended count tableOffset table,
      readTable reader walk (walk.headerOffset + firstIfd) begun =
        (.ok (count, tableOffset, table), ended) ∧
      ∀ offset, exifIfdOf walk tableOffset table count = some offset →
        middle.visited = [walk.headerOffset + firstIfd] ∧
          ∃ rest, middle.pending = ⟨offset, .exif, 2⟩ :: rest
  /-- A task of the Exif role comes when the primary directory alone was entered, and is entered
  unless it is that directory. A pointer into the header names no directory. -/
  exif : ∀ {tasks rest : List IfdTask} {task : IfdTask} {after : Extraction},
    Rounds reader walk start tasks after → after.pending = task :: rest → task.role = .exif →
    tasks = [⟨firstIfd, .primary, 1⟩] ∧
      ((processIfd reader walk task { after with pending := rest }).2.visited =
          [walk.headerOffset + task.relativeOffset, walk.headerOffset + firstIfd] ∨
        task.relativeOffset = firstIfd ∨ task.relativeOffset < headerBytes ∨
        u64Bound ≤ walk.headerOffset + task.relativeOffset)

theorem walkEnds {reader : MetadataReader} (keeps : reader.Keeps Extraction.locals)
    (walk : TiffWalk) (firstIfd : Nat) (state : Extraction) :
    WalkEnds reader walk firstIfd (loopStart state firstIfd) where
  ends := walkRounds_enough walk keeps rfl
  rounds {tasks after} rounds := by
    have bound := rounds.length_le keeps
    have full : weight walk (loopStart state firstIfd).locals = walkRounds walk := weight_start rfl
    omega
  once rounds := by
    obtain ⟨distinct, entered, sublist, visited⟩ := rounds.entered keeps List.nodup_nil
    rw [show (loopStart state firstIfd).visited = [] from rfl, List.append_nil] at visited
    exact ⟨entered, sublist, List.nodup_reverse.mp (visited ▸ distinct), visited⟩
  entered {task before after} ran := by
    have result := processIfd_case walk task before keeps
    rw [ran] at result
    cases result with
    | walked _ count tableOffset nextRelative table exifIfd new inside read pointer entered =>
        exact ⟨new, congrArg Prod.fst entered⟩
  exifNext ran := Rounds.exif_next keeps rfl ran
  exif {tasks rest task after} rounds popped role := by
    obtain ⟨first, visited⟩ := rounds.exif keeps rfl popped role
    refine ⟨first, ?_⟩
    have result := processIfd_case walk task { after with pending := rest } keeps
    generalize processIfd reader walk task { after with pending := rest } = ended at result ⊢
    have grown : ∀ {state : Extraction} {pending : List IfdTask},
        state.locals = (taskOffset walk task :: after.visited, pending) →
        state.visited =
          [walk.headerOffset + task.relativeOffset, walk.headerOffset + firstIfd] := by
      intro state pending entered
      rw [show state.visited = _ from congrArg Prod.fst entered, visited]
      rfl
    cases result with
    | refused error state reason same =>
        rcases reason with wide | header | old
        · exact .inr (.inr (.inr wide))
        · exact .inr (.inr (.inl header))
        · have same : walk.headerOffset + task.relativeOffset = walk.headerOffset + firstIfd :=
            List.mem_singleton.mp (visited ▸ old)
          exact .inr (.inl (by omega))
    | failed error state new entered => exact .inl (grown entered)
    | walked _ count tableOffset nextRelative table exifIfd new inside read pointer entered =>
        exact .inl (grown entered)

/-- The loop of a container leaves no task behind. -/
theorem walkContainer_ends {reader : MetadataReader} (keeps : reader.Keeps Extraction.locals)
    {headerOffset containerEnd : Nat} {origin : TiffOrigin} {state after : Extraction}
    (fresh : state.locals = ([], []))
    (ran : walkContainer reader headerOffset containerEnd origin state = (.ok (), after)) :
    after.pending = [] := by
  suffices meets : Meets (fun start => start.locals = ([], []))
      (walkContainer reader headerOffset containerEnd origin)
      (fun _ ended => ended.pending = []) (fun _ _ => True) from meets.of_ok fresh ran
  unfold walkContainer
  have quiet : ∀ {α : Type} {program : Parse α}, Keeps Extraction.locals program →
      Meets (fun start => start.locals = ([], [])) program (fun _ ended => ended.locals = ([], []))
        (fun _ _ => True) := fun kept =>
    (kept.meets _).consequence (fun _ holds => holds) (fun _ _ holds => holds) fun _ _ _ => trivial
  refine meets_bind (quiet (leaves_ensure _ _)) fun _ => ?_
  refine meets_bind (quiet (leaves_ensureInContainer _ _ _ _)) fun _ => ?_
  refine meets_bind (quiet (keeps.readVec _ _ _)) fun header => ?_
  refine meets_bind (quiet reads_orFail.keeps) fun byteOrder => ?_
  refine meets_bind (quiet (leaves_ensure _ _)) fun _ => ?_
  dsimp only
  split
  · exact meets_pure fun _ holds => congrArg Prod.snd holds
  · generalize readU32 byteOrder (header.drop 4) = firstIfd
    refine meets_via (fun _ begun => begun.locals = ([], [⟨firstIfd, .primary, 1⟩]))
      (meets_update fun start holds => ?_) fun _ begun holds => ?_
    · rw [Extraction.locals]
      dsimp only
      rw [show start.visited = [] from congrArg Prod.fst holds,
        show start.pending = [] from congrArg Prod.snd holds]
    · have ends := walkRounds_enough ⟨headerOffset, containerEnd, byteOrder, origin⟩ keeps holds
      generalize walkPending reader _ _ _ = ended at ends ⊢
      cases ends with
      | finished rounds empty => exact empty
      | failed rounds popped last => trivial

/-- What the walks over directories do with a reader. -/
structure WalksEnd (reader : MetadataReader) : Prop where
  loop : ∀ walk firstIfd state, WalkEnds reader walk firstIfd (loopStart state firstIfd)
  container : ∀ {headerOffset containerEnd : Nat} {origin : TiffOrigin} {state after : Extraction},
    state.locals = ([], []) →
    walkContainer reader headerOffset containerEnd origin state = (.ok (), after) →
    after.pending = []

end Tiff

/-! ## Without limits -/

/-- For every byte string and without any limit, the walks over boxes and over directories end. -/
theorem unlimited_walks_end (contents : List UInt8) :
    Bmff.WalksEnd (unlimited contents) ∧ Tiff.WalksEnd (unlimited contents) where
  left := Bmff.walksEnd (unlimited_countsBoxes contents)
  right := {
    loop := Tiff.walkEnds (unlimited_keepsLocals contents)
    container := Tiff.walkContainer_ends (unlimited_keepsLocals contents) }

end Guiying.Metadata
