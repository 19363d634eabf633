import Guiying.Metadata.Jpeg
import Guiying.Metadata.TiffRounds
import Guiying.Time.Policy.CleanRuns

/-!
# Clean walks of directories

A field that the walk of a TIFF container emits is one of a kind that the role of its directory and
its tag decide, in a directory behind the header, as deep as that kind asks.
-/

namespace Guiying.Time.Policy

open Guiying.Foundation Guiying.Foundation.MachineInt Guiying.Metadata Parse Program

section Steps

variable {reader : BudgetedReader} {format : DetectedFormat} {floor : ExtractionUsage}
  {held : List Nat}

theorem cleanly_checkedAdd {left right : Nat} {offset : Option Nat} {context : String} :
    Cleanly reader format floor held (Parse.checkedAdd left right offset context)
      fun sum => sum = left + right ∧ sum < u64Bound :=
  along_orFail.imp fun sum is => by
    obtain ⟨fits, rfl⟩ := checkedAdd_eq_some.mp is
    exact ⟨rfl, fits⟩

theorem cleanly_checkedMul {left right : Nat} {offset : Option Nat} {context : String} :
    Cleanly reader format floor held (Parse.checkedMul left right offset context)
      fun product => product = left * right :=
  along_orFail.imp fun _ is => (checkedMul_eq_some.mp is).2

theorem cleanly_checkedSub {left right : Nat} {offset : Option Nat} {context : String} :
    Cleanly reader format floor held (Parse.checkedSub left right offset context)
      fun difference => right ≤ left ∧ difference = left - right :=
  along_orFail.imp fun _ is => checkedSub_eq_some.mp is

end Steps

namespace Tiff

open Guiying.Metadata.Tiff

/-- How deep a directory in a role is at least. -/
def roleDepth : IfdRole → Nat
  | .primary => 1
  | .exif => 2
  | .other => 0

/-- The kinds of a role have their own tags and ask for its depth. -/
theorem fieldKind_eq_some {role : IfdRole} {tag : Nat} {kind : MetadataFieldKind}
    (found : fieldKind role tag = some kind) :
    isExifKind kind = true ∧ tag = exifTag kind ∧
      (if kind = .exifModifyDate then 1 else 2) ≤ roleDepth role := by
  cases role with
  | primary =>
      unfold fieldKind at found
      dsimp only at found
      split at found
      · rename_i same
        cases found
        exact ⟨rfl, same, by decide⟩
      · cases found
  | exif =>
      unfold fieldKind at found
      dsimp only at found
      split at found
      · rename_i same
        cases found
        exact ⟨rfl, same, by decide⟩
      · split at found
        · rename_i same
          cases found
          exact ⟨rfl, same, by decide⟩
        · split at found
          · rename_i same
            cases found
            exact ⟨rfl, same, by decide⟩
          · split at found
            · rename_i same
              cases found
              exact ⟨rfl, same, by decide⟩
            · cases found
  | other => cases found

/-- The container of a walk is where its format places the fields of directories. -/
def Fits (format : DetectedFormat) (walk : TiffWalk) : Prop :=
  ∀ kind ifdOffset absoluteOffset byteLen, isExifKind kind = true →
    walk.headerOffset + 8 ≤ ifdOffset → ifdOffset < u64Bound →
    Placed format kind absoluteOffset byteLen (walk.container ifdOffset (exifTag kind))

section Walk

variable {reader : BudgetedReader} {format : DetectedFormat} {floor : ExtractionUsage}
  {held : List Nat} {walk : TiffWalk}

theorem cleanly_ensureInContainer {offset length containerEnd : Nat} {context : String} :
    Cleanly reader format floor held (ensureInContainer offset length containerEnd context)
      fun _ => True :=
  cleanly_checkedAdd.next fun _ => along_ensure.imp fun _ _ => trivial

theorem cleanly_valueOffset {entry : IfdEntry} :
    Cleanly reader format floor held (valueOffset walk entry) fun _ => True := by
  unfold valueOffset
  split
  · exact cleanly_checkedAdd.imp fun _ _ => trivial
  · exact cleanly_checkedAdd.imp fun _ _ => trivial

/-- The field of an entry, with its bytes held. -/
theorem cleanly_extractTimestampField (fits : Fits format walk) {ifdOffset : Nat}
    (behind : walk.headerOffset + 8 ≤ ifdOffset) (addressable : ifdOffset < u64Bound)
    {entry : IfdEntry} {kind : MetadataFieldKind} (exif : isExifKind kind = true)
    (tag : entry.tag = exifTag kind) :
    Meets (CleanSoFar reader format floor [])
      (extractTimestampField reader walk ifdOffset entry kind)
      (fun field state => (Checked reader.limits format field ∧ field.kind = kind ∧
          field.locator.container = walk.container ifdOffset entry.tag) ∧
        CleanSoFar reader format floor [field.locator.byteLen] state) fun _ _ => True := by
  unfold extractTimestampField
  refine along_raise (along_ensure : Along _ (ensure (entry.fieldType = typeAscii ∧
    entry.valueCount ≠ 0) _) _) fun _ ascii => ?_
  refine along_raise cleanly_valueOffset fun offset _ => ?_
  refine along_raise cleanly_ensureInContainer fun _ _ => ?_
  refine meets_via _ (cleanly_readFieldBytes offset entry.valueCount) fun rawBytes => ?_
  refine meets_pure fun state read => ?_
  obtain ⟨⟨whole, fitting, small⟩, soFar⟩ := read
  refine ⟨⟨?_, rfl, rfl⟩, soFar⟩
  exact {
    parser := rfl
    encoding := by
      cases kind with
      | quickTimeMovieHeaderCreationTime => cases exif
      | quickTimeMetadataCreationDate => cases exif
      | _ => rfl
    nonempty := Nat.pos_of_ne_zero ascii.2
    length := whole
    small := small
    addressable := fitting
    placed := by
      dsimp only
      rw [tag]
      exact fits kind ifdOffset offset entry.valueCount exif behind addressable }

theorem requiredDepth_container {field : MetadataField} {ifdOffset tag : Nat}
    (container : field.locator.container = walk.container ifdOffset tag) :
    requiredDepth field = some (if field.kind = .exifModifyDate then 1 else 2) := by
  unfold requiredDepth
  rw [container]
  unfold TiffWalk.container
  cases walk.origin with
  | direct => rfl
  | jpeg app1Offset => rfl

theorem cleanly_exifPointer (entry : IfdEntry) (exifIfd : Option Nat) :
    Cleanly reader format floor held (exifPointer entry exifIfd) fun _ => True := by
  unfold exifPointer
  split
  · exact cleanly_pushIssue.next fun _ => along_pure trivial
  · split
    · exact along_pure trivial
    · split
      · exact cleanly_pushIssue.next fun _ => along_pure trivial
      · exact along_pure trivial

/-- Fields are only met in a directory that has entries and is as deep as its role asks. -/
theorem cleanly_processEntry (fits : Fits format walk) {ifdOffset : Nat}
    (behind : walk.headerOffset + 8 ≤ ifdOffset) (addressable : ifdOffset < u64Bound)
    {role : IfdRole} (deep : roleDepth role ≤ floor.maxDepthObserved)
    (entries : 0 < floor.ifdEntriesVisited)
    (segments : format = .jpeg → 0 < floor.jpegSegmentsVisited) (entry : IfdEntry)
    (exifIfd : Option Nat) :
    Cleanly reader format floor [] (processEntry reader walk role ifdOffset entry exifIfd)
      fun _ => True := by
  unfold processEntry
  split
  · exact cleanly_exifPointer entry exifIfd
  · cases found : fieldKind role entry.tag with
    | none => exact along_pure trivial
    | some kind =>
        obtain ⟨exif, tag, shallow⟩ := fieldKind_eq_some found
        refine (cleanly_isolated ?_).next fun _ => along_pure trivial
        refine meets_via _ (cleanly_extractTimestampField fits behind addressable exif tag)
          fun field state result => ?_
        obtain ⟨⟨checked, same, container⟩, soFar⟩ := result
        refine cleanly_pushField checked ?_ state soFar
        exact {
          depth := ⟨_, requiredDepth_container container, by rw [same]; exact shallow.trans deep⟩
          entries := fun _ => entries
          boxes := fun box => absurd (box.symm.trans (same ▸ exif)) Bool.false_ne_true
          segments := segments }

theorem cleanly_processEntries (fits : Fits format walk) {ifdOffset : Nat}
    (behind : walk.headerOffset + 8 ≤ ifdOffset) (addressable : ifdOffset < u64Bound)
    {role : IfdRole} (deep : roleDepth role ≤ floor.maxDepthObserved)
    (segments : format = .jpeg → 0 < floor.jpegSegmentsVisited) (tableOffset : Nat)
    (table : List UInt8) :
    ∀ remaining index exifIfd, (0 < remaining → 0 < floor.ifdEntriesVisited) →
      Cleanly reader format floor []
        (processEntries reader walk role ifdOffset tableOffset table remaining index exifIfd)
        fun _ => True := by
  intro remaining
  induction remaining with
  | zero => exact fun _ _ _ => along_pure trivial
  | succ remaining ih =>
      intro index exifIfd entries
      have some_ := entries (Nat.succ_pos remaining)
      exact cleanly_checkedMul.next fun _ => cleanly_checkedAdd.next fun _ =>
        (cleanly_processEntry fits behind addressable deep some_ segments _ exifIfd).next
          fun found => ih (index + 1) found fun _ => some_

/-- The entries of a directory are counted before any of them is looked at. -/
theorem cleanly_readTable (ifdOffset : Nat) :
    Meets (CleanSoFar reader format floor []) (readTable reader walk ifdOffset)
      (fun table state => True ∧ CleanSoFar reader format
        { floor with ifdEntriesVisited := floor.ifdEntriesVisited + table.1 } [] state)
      fun _ _ => True := by
  unfold readTable
  refine along_raise cleanly_ensureInContainer fun _ _ => ?_
  refine along_raise (cleanly_readVec _ _ _) fun countBytes _ => ?_
  refine along_raise (cleanly_visitIfdEntries _ _) fun _ _ => ?_
  refine along_raise cleanly_checkedMul fun _ _ => along_raise cleanly_checkedAdd fun _ _ =>
    along_raise cleanly_checkedAdd fun _ _ => along_raise cleanly_ensureInContainer fun _ _ =>
    along_raise (cleanly_readVec _ _ _) fun table _ => ?_
  exact meets_pure fun _ soFar => ⟨trivial, soFar⟩

theorem cleanly_insertVisited (ifdOffset : Nat) :
    Cleanly reader format floor [] (insertVisited ifdOffset) fun _ => True := by
  refine along_of_returns fun before _ after soFar ran => ⟨trivial, ?_⟩
  unfold insertVisited at ran
  simp only [bind_eq_ok, current_eq_ok, ensure_eq_ok, update_eq_ok] at ran
  obtain ⟨_, _, ⟨rfl, rfl⟩, _, _, ⟨_, rfl⟩, rfl⟩ := ran
  exact fun none => (soFar none).withLocals _ _

theorem cleanly_pushTask (task : IfdTask) :
    Cleanly reader format floor [] (pushTask task) fun _ => True :=
  along_update fun _ soFar none => (soFar none).withLocals _ _

theorem cleanly_pushFollowing (task : IfdTask) (ifdOffset nextRelative : Nat)
    (exifIfd : Option Nat) :
    Cleanly reader format floor [] (pushFollowing task ifdOffset nextRelative exifIfd)
      fun _ => True := by
  refine along_orFail.next fun depth => Along.skip ?_ fun _ => ?_
  · unfold pushNext
    split
    · exact along_pure trivial
    · exact cleanly_pushTask _
  · cases exifIfd with
    | none => exact along_pure trivial
    | some _ => exact cleanly_pushTask _

theorem cleanly_processIfd (fits : Fits format walk) {task : IfdTask}
    (deep : roleDepth task.role ≤ task.depth)
    (segments : format = .jpeg → 0 < floor.jpegSegmentsVisited) :
    Cleanly reader format floor [] (processIfd reader walk task) fun _ => True := by
  unfold processIfd
  refine cleanly_checkedAdd.bind fun ifdOffset at_ => ?_
  refine along_raise (along_ensure : Along _ (ensure (headerBytes ≤ task.relativeOffset) _) _)
    fun _ behindHeader => ?_
  have behind : walk.headerOffset + 8 ≤ ifdOffset := by
    simp only [headerBytes] at behindHeader
    omega
  refine along_raise (cleanly_insertVisited _) fun _ _ => ?_
  refine along_raise (cleanly_observeDepth _ _ _ fun _ => Nat.le_refl _) fun _ _ => ?_
  refine meets_via _ (cleanly_readTable ifdOffset) fun table => ?_
  obtain ⟨count, tableOffset, table⟩ := table
  refine Meets.consequence ((cleanly_processEntries fits behind at_.2 ?_ ?_ _ _ _ _ _ ?_).next
    fun exifIfd => cleanly_pushFollowing task ifdOffset _ exifIfd) (fun _ soFar => soFar.2)
    (fun _ _ result => ⟨trivial, result.2.lower ?_⟩) fun _ _ _ => trivial
  · exact deep.trans (Nat.le_max_right _ _)
  · exact segments
  · exact fun some_ => Nat.add_pos_right _ some_
  · exact ⟨Nat.le_refl _, Nat.le_add_right _ _, Nat.le_refl _, Nat.le_max_left _ _⟩

/-- Every directory that is pending is as deep as its role asks. -/
def Deep (state : Extraction) : Prop := ∀ task ∈ state.pending, roleDepth task.role ≤ task.depth

theorem deep_round {task : IfdTask} {before after : Extraction}
    (round : RoundCase reader.operations walk task before after)
    (deep : roleDepth task.role ≤ task.depth) (pending : Deep before) : Deep after := by
  cases round with
  | refused _ same =>
      have tasks : after.pending = before.pending := congrArg Prod.snd same
      exact fun other inside => pending other (tasks ▸ inside)
  | failed _ entered =>
      have tasks : after.pending = before.pending := congrArg Prod.snd entered
      exact fun other inside => pending other (tasks ▸ inside)
  | walked count tableOffset nextRelative table exifIfd _ _ _ pointer entered =>
      intro other inside
      have tasks : after.pending =
        followingTasks (task.depth + 1) nextRelative exifIfd ++ before.pending :=
        congrArg Prod.snd entered
      rw [tasks, followingTasks, List.mem_append, List.mem_append, List.mem_map] at inside
      rcases inside with (⟨relativeOffset, found, rfl⟩ | next) | older
      · -- Only the first directory leads to an Exif directory.
        have primary : task.role = .primary := by
          by_contra other
          rw [if_neg other] at pointer
          rw [pointer] at found
          cases found
        rw [primary] at deep
        exact Nat.succ_le_succ deep
      · split at next
        · cases next
        · rw [List.mem_singleton.mp next]
          exact Nat.zero_le _
      · exact pending other older

theorem cleanly_walkPending (fits : Fits format walk)
    (segments : format = .jpeg → 0 < floor.jpegSegmentsVisited) :
    ∀ rounds, Meets (fun state => CleanSoFar reader format floor [] state ∧ Deep state)
      (walkPending reader walk rounds)
      (fun _ state => True ∧ CleanSoFar reader format floor [] state) fun _ _ => True := by
  intro rounds
  induction rounds with
  | zero => exact meets_pure fun _ holds => ⟨trivial, holds.1⟩
  | succ rounds ih =>
      rintro state ⟨soFar, deep⟩
      unfold walkPending
      rw [bind_run]
      unfold popTask
      cases tasks : state.pending with
      | nil => exact ⟨trivial, soFar⟩
      | cons task rest =>
          have first : roleDepth task.role ≤ task.depth :=
            deep task (tasks ▸ List.mem_cons_self)
          have others : Deep { state with pending := rest } := fun other inside =>
            deep other (tasks ▸ List.mem_cons_of_mem task inside)
          have walked := cleanly_isolated (cleanly_processIfd fits first segments)
            { state with pending := rest } fun none => (soFar none).withLocals _ _
          dsimp only
          rw [bind_run]
          cases ran : isolated (processIfd reader walk task) { state with pending := rest } with
          | mk outcome after =>
              rw [ran] at walked
              cases outcome with
              | error _ => exact trivial
              | ok _ =>
                  exact ih after ⟨walked.2, deep_round (round_case reader.keepsLocals ran) first others⟩

end Walk

section Container

variable {reader : BudgetedReader} {format : DetectedFormat} {floor : ExtractionUsage}
  {headerOffset containerEnd : Nat} {origin : TiffOrigin}

theorem cleanly_walkContainer (reader : BudgetedReader)
    (fits : ∀ byteOrder, Fits format ⟨headerOffset, containerEnd, byteOrder, origin⟩)
    (segments : format = .jpeg → 0 < floor.jpegSegmentsVisited) :
    Meets (fun state => CleanSoFar reader format floor [] state ∧ state.locals = ([], []))
      (walkContainer reader headerOffset containerEnd origin)
      (fun _ state => True ∧ CleanSoFar reader format floor [] state) fun _ _ => True := by
  unfold walkContainer
  refine along_raise (along_ensure : Along _ (ensure (containerEnd ≤ reader.sourceLen ∧
    headerOffset ≤ containerEnd) _) _) fun _ _ => ?_
  refine along_raise (cleanly_ensureInContainer.keeping (leaves_ensureInContainer _ _ _ _) _)
    fun _ _ => ?_
  refine along_raise ((cleanly_readVec _ _ _).keeping (reader.leaves_readVec _ _ _) _)
    fun header _ => ?_
  refine along_raise along_orFail fun byteOrder _ => ?_
  refine along_raise (along_ensure : Along _ (ensure (readU16 byteOrder (header.drop 2) = 42) _) _)
    fun _ _ => ?_
  dsimp only
  split
  · exact meets_pure fun _ holds => ⟨trivial, holds.1⟩
  · refine meets_via (fun _ state => CleanSoFar reader format floor [] state ∧ Deep state)
      (meets_update fun state holds => ⟨fun none => (holds.1 none).withLocals _ _, ?_⟩)
      fun _ => cleanly_walkPending (fits byteOrder) segments _
    intro task inside
    have pending : state.pending = [] := congrArg Prod.snd holds.2
    rw [pending] at inside
    rw [List.mem_singleton.mp inside]
    exact Nat.le_refl 1

theorem cleanly_parseInRange
    (fits : ∀ byteOrder, Fits format ⟨headerOffset, containerEnd, byteOrder, origin⟩)
    (segments : format = .jpeg → 0 < floor.jpegSegmentsVisited) :
    Cleanly reader format floor [] (parseInRange reader headerOffset containerEnd origin)
      fun _ => True := by
  intro state soFar
  have walked := cleanly_walkContainer reader fits segments
    { state with visited := [], pending := [] } ⟨fun none => (soFar none).withLocals _ _, rfl⟩
  unfold parseInRange withLocals
  revert walked
  rcases walkContainer reader headerOffset containerEnd origin
    { state with visited := [], pending := [] } with ⟨_ | _, after⟩
  · exact fun _ => trivial
  · exact fun walked => ⟨trivial, fun none => (walked.2 none).withLocals _ _⟩

theorem cleanly_parseDirect :
    Cleanly reader .tiff floor [] (parseDirect reader) fun _ => True :=
  cleanly_isolated (cleanly_parseInRange (fun _ _ _ _ _ exif behind addressable =>
    ⟨exif, rfl, behind, addressable, rfl⟩) nofun)

end Container

end Tiff

namespace Jpeg

open Guiying.Metadata.Jpeg

variable {reader : BudgetedReader} {floor : ExtractionUsage}

/-- A code is behind the prefix of its marker, however many bytes fill the gap. -/
theorem cleanly_readCode : ∀ rounds cursor, Cleanly reader .jpeg floor []
    (readCode reader rounds cursor) fun found => cursor + 1 ≤ found.2 := by
  intro rounds
  induction rounds with
  | zero => exact fun _ => cleanly_checkedAdd.next fun _ => along_fail
  | succ rounds ih =>
      intro cursor
      unfold readCode
      refine cleanly_checkedAdd.bind fun next is => along_ensure.next fun _ =>
        (cleanly_readVec _ _ _).next fun bytes => ?_
      dsimp only
      split
      · exact (ih next).imp fun found behind => by omega
      · exact along_ensure.next fun _ => along_pure (by dsimp only; omega)

theorem cleanly_readMarker (cursor : Nat) :
    Meets (CleanSoFar reader .jpeg floor []) (readMarker reader cursor)
      (fun marker state => cursor + 2 ≤ marker.2.2 ∧ CleanSoFar reader .jpeg
        { floor with jpegSegmentsVisited := floor.jpegSegmentsVisited + 1 } [] state)
      fun _ _ => True := by
  unfold readMarker
  refine along_raise (along_ensure : Along _ (ensure (cursor < reader.sourceLen) _) _)
    fun _ _ => ?_
  refine along_raise (cleanly_readVec _ _ _) fun bytes _ => ?_
  refine along_raise (along_ensure : Along _ (ensure (bytes.headD 0 = markerPrefix) _) _)
    fun _ _ => ?_
  refine along_raise (cleanly_readCode _ _) fun code behind => ?_
  refine along_raise cleanly_checkedAdd fun next is => ?_
  refine along_raise (cleanly_visitJpegSegment _) fun _ _ => ?_
  exact meets_pure fun _ soFar => ⟨by dsimp only; omega, soFar⟩

theorem fits_segment {markerOffset headerOffset containerEnd : Nat}
    (behind : markerOffset + 10 ≤ headerOffset) (byteOrder : TiffByteOrder) :
    Tiff.Fits .jpeg ⟨headerOffset, containerEnd, byteOrder, .jpeg markerOffset⟩ :=
  fun _ _ _ _ exif directory addressable => ⟨exif, rfl, directory, addressable, behind⟩

theorem cleanly_readExif (counted : 0 < floor.jpegSegmentsVisited) {markerOffset payloadOffset : Nat}
    (behind : markerOffset + 4 ≤ payloadOffset) (code : UInt8) (payloadLength segmentEnd : Nat) :
    Cleanly reader .jpeg floor []
      (readExif reader markerOffset code payloadOffset payloadLength segmentEnd)
      fun _ => True := by
  unfold readExif
  split
  · refine (cleanly_readVec _ _ _).next fun signature => ?_
    split
    · refine cleanly_checkedAdd.bind fun headerOffset is => ?_
      have header : markerOffset + 10 ≤ headerOffset := by omega
      exact cleanly_isolated (Tiff.cleanly_parseInRange (fits_segment header) fun _ => counted)
    · exact along_pure trivial
  · exact along_pure trivial

theorem cleanly_segmentBounds (cursor : Nat) :
    Cleanly reader .jpeg floor [] (segmentBounds reader cursor)
      fun bounds => cursor + 2 ≤ bounds.1 := by
  unfold segmentBounds
  refine (cleanly_readVec _ _ _).next fun _ => along_ensure.next fun _ =>
    cleanly_checkedAdd.bind fun payloadOffset is => cleanly_checkedSub.next fun _ =>
    cleanly_checkedAdd.next fun _ => along_ensure.next fun _ => along_pure ?_
  exact Nat.le_of_eq is.1.symm

theorem cleanly_scanMarkers : ∀ rounds floor cursor,
    Cleanly reader .jpeg floor [] (scanMarkers reader rounds cursor) fun _ => True := by
  intro rounds
  induction rounds with
  | zero => exact fun _ _ => along_fail
  | succ rounds ih =>
      intro floor cursor
      unfold scanMarkers
      refine along_raise (cleanly_readMarker cursor) fun marker behind => ?_
      have lower : ∀ state, CleanSoFar reader .jpeg
          { floor with jpegSegmentsVisited := floor.jpegSegmentsVisited + 1 } [] state →
          CleanSoFar reader .jpeg floor [] state := fun _ soFar =>
        soFar.lower ⟨Nat.le_add_right _ _, Nat.le_refl _, Nat.le_refl _, Nat.le_refl _⟩
      refine Along.lower ?_ lower
      obtain ⟨code, codeOffset, next⟩ := marker
      dsimp only at behind ⊢
      split
      · exact along_pure trivial
      · split
        · exact ih _ _
        · split
          · exact along_fail
          · refine (cleanly_segmentBounds next).bind fun bounds inside => ?_
            have payload : cursor + 4 ≤ bounds.1 := by omega
            exact (cleanly_readExif (Nat.succ_pos _) payload _ _ _).next fun _ => ih _ _

theorem cleanly_parse : Cleanly reader .jpeg floor [] (Jpeg.parse reader) fun _ => True := by
  unfold Jpeg.parse scanSegments
  exact cleanly_isolated ((cleanly_readVec _ _ _).next fun _ => along_ensure.next fun _ =>
    cleanly_scanMarkers _ _ _)

end Jpeg

end Guiying.Time.Policy
