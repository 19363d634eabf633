import Guiying.Metadata.AgreeingWalks
import Guiying.Metadata.FaithfulLocators
import Guiying.Metadata.TiffAlone

/-!
# Reports that are the same

Two extractions of one source give the same report when their limits differ by slack only, and two
sources over the same bytes do whatever their reads return at a time: a budget that no run spends
has no other effect.
-/

namespace Guiying.Metadata

open Guiying.Foundation Guiying.Foundation.ByteString Guiying.Foundation.MachineInt Parse Program

/-! ## Counters -/

section Counters

variable {related : ExtractionUsage → ExtractionUsage → Prop}

/-- Usage that is related is what both runs see. -/
theorem follows_related :
    (sameFindings related).Follows related usage usage :=
  fun _ _ states => ⟨states.1, states⟩

theorem agrees_setUsage {change change' : ExtractionUsage → ExtractionUsage}
    (keeps : ∀ used used', related used used' → related (change used) (change' used')) :
    Agrees related (setUsage change) (setUsage change') :=
  fun _ _ states => ⟨rfl, keeps _ _ states.1, states.2⟩

theorem follows_checkedAdd {left right : Nat} {offset : Option Nat} {context : String} :
    (sameFindings related).Follows (fun sum sum' => sum = left + right ∧ sum' = left + right)
      (Parse.checkedAdd left right offset context)
      (Parse.checkedAdd left right offset context) := by
  unfold Parse.checkedAdd MachineInt.checkedAdd
  split
  · exact Lockstep.follows_pure ⟨rfl, rfl⟩
  · exact Lockstep.follows_fail rfl

/-- What both runs go on with has been checked. -/
theorem follows_ensured {condition : Prop} [Decidable condition] {error : ParseError} :
    (sameFindings related).Follows (fun _ _ => condition) (ensure condition error)
      (ensure condition error) :=
  Lockstep.follows_ensure Iff.rfl rfl

/-- What would follow an error that stops both runs does not matter. -/
theorem agrees_stop {α β : Type} {rest rest' : α → Parse β} (error : ParseError) :
    Agrees related (fail error >>= rest) (fail error >>= rest') :=
  fun _ _ states => .inr ⟨rfl, states⟩

/-- A counter that both runs count alike, against limits that the first one has wider. -/
theorem agrees_counted {counter : ExtractionUsage → Nat}
    {put : Nat → ExtractionUsage → ExtractionUsage} {bound count wide narrow : Nat}
    {overflow error : ParseError}
    (same : ∀ used used', related used used' → counter used = counter used')
    (keeps : ∀ next used used', next ≤ narrow → related used used' →
      related (put next used) (put next used'))
    (slack : narrow ≤ wide) (cut : error.code = .limitExceeded) :
    Agrees related
      (do
        let used ← usage
        let next ← orFail overflow (MachineInt.checkedAdd bound (counter used) count)
        setUsage (put next)
        ensure (next ≤ wide) error)
      (do
        let used ← usage
        let next ← orFail overflow (MachineInt.checkedAdd bound (counter used) count)
        setUsage (put next)
        ensure (next ≤ narrow) error) := by
  refine Lockstep.Follows.bind follows_related fun used used' relation => ?_
  rw [same used used' relation]
  refine (agrees_orFail _ _).next fun next => ?_
  intro s t states
  rw [Program.bind_run, Program.bind_run]
  dsimp only [setUsage, update]
  by_cases allowed : next ≤ narrow
  · rw [decide_eq_true allowed, decide_eq_true (allowed.trans slack)]
    exact ⟨rfl, keeps next _ _ allowed states.1, states.2⟩
  · rw [decide_eq_false allowed]
    exact Lockstep.ends_cut cut

end Counters

/-! ## Marker segments -/

/-- Two readers whose operations agree, the count of marker segments too. -/
structure BudgetedReader.Agree (related : ExtractionUsage → ExtractionUsage → Prop)
    (left right : BudgetedReader) : Prop where
  operations : left.operations.Agree related right.operations
  visitJpegSegment : ∀ offset,
    Agrees related (left.visitJpegSegment offset) (right.visitJpegSegment offset)

namespace Jpeg

section Segments

variable {related : ExtractionUsage → ExtractionUsage → Prop} {left right : BudgetedReader}
  (agree : left.Agree related right)

include agree

theorem agrees_readCode : ∀ rounds cursor,
    Agrees related (readCode left rounds cursor) (readCode right rounds cursor)
  | 0, _ => (agrees_checkedAdd _ _ _ _).next fun _ => agrees_fail _
  | rounds + 1, cursor => by
      unfold readCode
      rw [show left.sourceLen = right.sourceLen from agree.operations.sourceLen]
      refine (agrees_checkedAdd _ _ _ _).next fun cursor => (agrees_ensure _ _).next fun _ =>
        (agree.operations.readVec _ _ _).next fun bytes => ?_
      dsimp only
      split
      · exact agrees_readCode rounds cursor
      · exact (agrees_ensure _ _).next fun _ => agrees_pure _

theorem agrees_readExif (markerOffset : Nat) (code : UInt8)
    (payloadOffset payloadLength segmentEnd : Nat) :
    Agrees related (readExif left markerOffset code payloadOffset payloadLength segmentEnd)
      (readExif right markerOffset code payloadOffset payloadLength segmentEnd) := by
  unfold readExif
  split
  · refine (agree.operations.readVec _ _ _).next fun signature => ?_
    split
    · exact (agrees_checkedAdd _ _ _ _).next fun _ =>
        agrees_isolated (Tiff.agrees_parseInRange agree.operations _ _ _)
    · exact agrees_pure _
  · exact agrees_pure _

theorem agrees_segmentBounds (cursor : Nat) :
    Agrees related (segmentBounds left cursor) (segmentBounds right cursor) := by
  unfold segmentBounds
  rw [show left.sourceLen = right.sourceLen from agree.operations.sourceLen]
  exact (agree.operations.readVec _ _ _).next fun _ => (agrees_ensure _ _).next fun _ =>
    (agrees_checkedAdd _ _ _ _).next fun _ => (agrees_checkedSub _ _ _ _).next fun _ =>
    (agrees_checkedAdd _ _ _ _).next fun _ => (agrees_ensure _ _).next fun _ => agrees_pure _

theorem agrees_readMarker (cursor : Nat) :
    Agrees related (readMarker left cursor) (readMarker right cursor) := by
  unfold readMarker
  rw [show left.sourceLen = right.sourceLen from agree.operations.sourceLen]
  exact (agrees_ensure _ _).next fun _ => (agree.operations.readVec _ _ _).next fun _ =>
    (agrees_ensure _ _).next fun _ => (agrees_readCode agree _ _).next fun _ =>
    (agrees_checkedAdd _ _ _ _).next fun _ => (agree.visitJpegSegment _).next fun _ =>
    agrees_pure _

theorem agrees_scanMarkers : ∀ rounds cursor,
    Agrees related (scanMarkers left rounds cursor) (scanMarkers right rounds cursor)
  | 0, _ => agrees_fail _
  | rounds + 1, cursor => by
      unfold scanMarkers
      refine (agrees_readMarker agree cursor).next fun marker => ?_
      dsimp only
      split
      · exact agrees_pure _
      · split
        · exact agrees_scanMarkers rounds _
        · split
          · exact agrees_fail _
          · exact (agrees_segmentBounds agree _).next fun _ =>
              (agrees_readExif agree _ _ _ _ _).next fun _ => agrees_scanMarkers rounds _

theorem agrees_parse : Agrees related (Jpeg.parse left) (Jpeg.parse right) := by
  unfold Jpeg.parse scanSegments
  rw [show left.sourceLen = right.sourceLen from agree.operations.sourceLen]
  exact agrees_isolated ((agree.operations.readVec _ _ _).next fun _ =>
    (agrees_ensure _ _).next fun _ => agrees_scanMarkers agree _ _)

end Segments

end Jpeg

/-! ## Reports -/

section Reports

variable {related : ExtractionUsage → ExtractionUsage → Prop} {left right : BudgetedReader}

theorem agrees_detectFormat (agree : left.Agree related right) :
    Agrees related (detectFormat left) (detectFormat right) := by
  unfold detectFormat
  rw [show left.sourceLen = right.sourceLen from agree.operations.sourceLen]
  dsimp only
  split
  · exact agrees_pure _
  · exact (agree.operations.readVec _ _ _).next fun _ => agrees_pure _

theorem agrees_parseFormat (agree : left.Agree related right) (format : DetectedFormat) :
    Agrees related (parseFormat (fun reader => Bmff.parse reader) left format)
      (parseFormat (fun reader => Bmff.parse reader) right format) := by
  cases format with
  | jpeg => exact Jpeg.agrees_parse agree
  | tiff => exact Tiff.agrees_parseDirect agree.operations
  | isoBmff => exact Bmff.agrees_parse agree.operations

/-- The report of a reader that knows how long its source is. -/
def BudgetedReader.report (reader : BudgetedReader) : ExtractionReport :=
  match detectFormat reader {} with
  | (.error error, state) => reader.finish state.usage none [] [error]
  | (.ok none, state) => reader.finish state.usage none [] []
  | (.ok (some format), state) =>
      reportParsed reader format (parseFormat (fun reader => Bmff.parse reader) reader format state)

/-- No issue of the report says that a budget was spent. -/
def ExtractionReport.Uncut (report : ExtractionReport) : Prop :=
  ∀ issue ∈ report.issues, issue.code ≠ .limitExceeded

theorem not_uncut_failed {reader : BudgetedReader} {used : ExtractionUsage}
    {format : Option DetectedFormat} {error : ParseError} (cut : error.code = .limitExceeded) :
    ¬ (reader.finish used format [] [error]).Uncut :=
  fun uncut => uncut error.intoIssue (List.mem_singleton.mpr rfl) cut

/-- Readers that agree report the same, where the second one spends no budget. -/
theorem report_agree (same : ExtractionReport → ExtractionReport → Prop)
    (agree : left.Agree related right) (start : related {} {})
    (finish : ∀ used used' format fields errors, related used used' →
      same (left.finish used format fields errors) (right.finish used' format fields errors))
    (uncut : right.report.Uncut) : same left.report right.report := by
  have detected := agrees_detectFormat agree {} {} ⟨start, rfl, rfl, rfl, rfl⟩
  unfold BudgetedReader.report at uncut ⊢
  generalize detectFormat left {} = ended at detected ⊢
  generalize detectFormat right {} = ended' at detected uncut ⊢
  obtain ⟨outcome, s⟩ := ended
  obtain ⟨outcome', t⟩ := ended'
  cases outcome' with
  | error error' =>
      cases outcome with
      | ok value => exact absurd uncut (not_uncut_failed detected)
      | error error =>
          rcases detected with cut | ⟨rfl, states⟩
          · exact absurd uncut (not_uncut_failed cut)
          · exact finish _ _ _ _ _ states.1
  | ok format' =>
      cases outcome with
      | error error => exact detected.elim
      | ok format =>
          obtain ⟨rfl, states⟩ := detected
          cases format with
          | none => exact finish _ _ _ _ _ states.1
          | some format =>
              have parsed := agrees_parseFormat agree format s t states
              dsimp only at uncut ⊢
              generalize parseFormat _ left format s = ended at parsed ⊢
              generalize parseFormat _ right format t = ended' at parsed uncut ⊢
              obtain ⟨outcome, s⟩ := ended
              obtain ⟨outcome', t⟩ := ended'
              cases outcome' with
              | error error' =>
                  cases outcome with
                  | ok value => exact absurd uncut (not_uncut_failed parsed)
                  | error error =>
                      rcases parsed with cut | ⟨rfl, states⟩
                      · exact absurd uncut (not_uncut_failed cut)
                      · exact finish _ _ _ _ _ states.1
              | ok value' =>
                  cases outcome with
                  | error error => exact parsed.elim
                  | ok value =>
                      obtain ⟨_, usage, fields, issues, _, _⟩ := parsed
                      dsimp only [reportParsed]
                      rw [fields, issues]
                      exact finish _ _ _ _ _ usage

end Reports

/-! ## Slack in the limits -/

/-- Every limit is at most the other one. -/
structure ExtractionLimits.AtMost (narrow wide : ExtractionLimits) : Prop where
  maxTotalBytesRead : narrow.maxTotalBytesRead ≤ wide.maxTotalBytesRead
  maxReadOperations : narrow.maxReadOperations ≤ wide.maxReadOperations
  maxRetainedFieldBytes : narrow.maxRetainedFieldBytes ≤ wide.maxRetainedFieldBytes
  maxFieldBytes : narrow.maxFieldBytes ≤ wide.maxFieldBytes
  maxFields : narrow.maxFields ≤ wide.maxFields
  maxJpegSegments : narrow.maxJpegSegments ≤ wide.maxJpegSegments
  maxIfdEntries : narrow.maxIfdEntries ≤ wide.maxIfdEntries
  maxIfdDepth : narrow.maxIfdDepth ≤ wide.maxIfdDepth
  maxBmffBoxes : narrow.maxBmffBoxes ≤ wide.maxBmffBoxes
  maxBmffDepth : narrow.maxBmffDepth ≤ wide.maxBmffDepth

/-- The parser-owned ceilings. -/
def ExtractionLimits.ceilings : ExtractionLimits where
  maxTotalBytesRead := 64 * 1024 * 1024
  maxReadOperations := 262144
  maxRetainedFieldBytes := 16 * 1024 * 1024
  maxFieldBytes := 1024 * 1024
  maxFields := 4096
  maxJpegSegments := 65536
  maxIfdEntries := 65536
  maxIfdDepth := 64
  maxBmffBoxes := 65536
  maxBmffDepth := 64

section Slack

/-- Runs whose usage is the same are in the same state. -/
theorem agrees_usage {α : Type} {rest rest' : ExtractionUsage → Parse α}
    (later : ∀ used, Agrees Eq (rest used) (rest' used)) :
    Agrees Eq (usage >>= rest) (usage >>= rest') :=
  Lockstep.Follows.bind follows_related fun used used' same => by
    subst same
    exact later used

theorem agrees_sameUsage (change : ExtractionUsage → ExtractionUsage) :
    Agrees Eq (setUsage change) (setUsage change) :=
  agrees_setUsage fun _ _ same => congrArg change same

variable {left right : BudgetedReader} (source : left.source = right.source)
  (slack : right.limits.AtMost left.limits)

section Reads

include slack

theorem slack_countOperation (offset : Nat) :
    Agrees Eq (left.countOperation offset) (right.countOperation offset) :=
  agrees_usage fun _ => (agrees_checkedAdd _ _ _ _).next fun _ =>
    (agrees_sameUsage _).next fun _ => (agrees_limit (fun within => decide_eq_true
      ((of_decide_eq_true within).trans slack.maxReadOperations)) rfl).next fun _ => agrees_pure _

theorem slack_countBytes (readOffset count : Nat) :
    Agrees Eq (left.countBytes readOffset count) (right.countBytes readOffset count) :=
  agrees_usage fun _ => (agrees_checkedAdd _ _ _ _).next fun _ =>
    (agrees_sameUsage _).next fun _ => agrees_limit (fun within => decide_eq_true
      ((of_decide_eq_true within).trans slack.maxTotalBytesRead)) rfl

include source

theorem slack_readLoop (offset length : Nat) (context : String) :
    ∀ rounds completed, Agrees Eq (left.readLoop offset length context rounds completed)
      (right.readLoop offset length context rounds completed)
  | 0, _ => agrees_pure _
  | rounds + 1, completed => by
      unfold BudgetedReader.readLoop
      rw [source]
      split
      · exact (slack_countOperation slack offset).next fun _ =>
          (agrees_checkedAdd _ _ _ _).next fun _ => (agrees_orFail _ _).next fun _ =>
          (agrees_ensure _ _).next fun _ => (agrees_ensure _ _).next fun _ =>
          (slack_countBytes slack _ _).next fun _ => slack_readLoop offset length context rounds _
      · exact agrees_pure _

variable (sourceLen : left.sourceLen = right.sourceLen)

include sourceLen

theorem slack_readVec (offset length : Nat) (context : String) :
    Agrees Eq (left.readVec offset length context) (right.readVec offset length context) := by
  unfold BudgetedReader.readVec
  rw [sourceLen]
  exact (agrees_checkedAdd _ _ _ _).next fun _ => (agrees_ensure _ _).next fun _ =>
    (agrees_ensure _ _).next fun _ => agrees_usage fun _ => (agrees_checkedAdd _ _ _ _).next fun _ =>
    (agrees_limit (fun within => decide_eq_true
      ((of_decide_eq_true within).trans slack.maxTotalBytesRead)) rfl).next fun _ =>
    slack_readLoop source slack offset length context _ _

theorem slack_readFieldBytes (offset length : Nat) :
    Agrees Eq (left.readFieldBytes offset length) (right.readFieldBytes offset length) :=
  (agrees_limit (fun within => decide_eq_true
    ((of_decide_eq_true within).trans slack.maxFieldBytes)) rfl).next fun _ =>
  agrees_usage fun _ => (agrees_orFail _ _).next fun _ =>
  (agrees_limit (fun within => decide_eq_true
    ((of_decide_eq_true within).trans slack.maxFields)) rfl).next fun _ =>
  (agrees_checkedAdd _ _ _ _).next fun _ =>
  (agrees_limit (fun within => decide_eq_true
    ((of_decide_eq_true within).trans slack.maxRetainedFieldBytes)) rfl).next fun _ =>
  (slack_readVec source slack sourceLen _ _ _).next fun _ =>
  (agrees_sameUsage _).next fun _ => agrees_pure _

end Reads

variable (sourceLen : left.sourceLen = right.sourceLen)

include source slack sourceLen

theorem slack_agree : left.Agree Eq right where
  operations := {
    sourceLen
    maxIfdDepth := slack.maxIfdDepth
    maxBmffDepth := slack.maxBmffDepth
    maxBmffBoxes := slack.maxBmffBoxes
    readVec := slack_readVec source slack sourceLen
    readFieldBytes := slack_readFieldBytes source slack sourceLen
    visitIfdEntries := fun _ _ =>
      (agrees_limit (fun within => decide_eq_true
        ((of_decide_eq_true within).trans slack.maxIfdEntries)) rfl).next fun _ =>
      agrees_counted (fun _ _ same => congrArg _ same) (fun _ _ _ _ same => same ▸ rfl)
        slack.maxIfdEntries rfl
    visitBmffBox := fun _ => agrees_counted (fun _ _ same => congrArg _ same)
      (fun _ _ _ _ same => same ▸ rfl) slack.maxBmffBoxes rfl
    observeDepth := fun _ _ _ _ _ less =>
      (agrees_limit (fun within => decide_eq_true ((of_decide_eq_true within).trans less)) rfl).next
        fun _ => agrees_sameUsage _ }
  visitJpegSegment := fun _ => agrees_counted (fun _ _ same => congrArg _ same)
    (fun _ _ _ _ same => same ▸ rfl) slack.maxJpegSegments rfl

end Slack

/-- The report of a source that has a length is the report of its reader. -/
theorem extractTimestampEvidence_eq (source : ReadAtSource) (limits : ExtractionLimits) :
    extractTimestampEvidence (fun reader => Bmff.parse reader) source limits =
      match source.sourceLen with
      | none => failedReport limits.effective (.io none "read source length")
      | some sourceLen => (BudgetedReader.new source sourceLen limits.effective).report := rfl

/-- A budget with slack changes nothing but the limits the report names. -/
theorem report_slack {source : ReadAtSource} {narrow wide : ExtractionLimits}
    (slack : narrow.effective.AtMost wide.effective)
    (uncut : (extractTimestampEvidence (fun reader => Bmff.parse reader) source narrow).Uncut) :
    extractTimestampEvidence (fun reader => Bmff.parse reader) source wide =
      { extractTimestampEvidence (fun reader => Bmff.parse reader) source narrow with
        limits := wide.effective } := by
  rw [extractTimestampEvidence_eq] at uncut ⊢
  rw [extractTimestampEvidence_eq]
  cases length : source.sourceLen with
  | none => rfl
  | some sourceLen =>
      rw [length] at uncut
      dsimp only at uncut ⊢
      have agree : (BudgetedReader.new source sourceLen wide.effective).Agree Eq
          (BudgetedReader.new source sourceLen narrow.effective) := by
        refine slack_agree rfl ?_ rfl
        unfold BudgetedReader.new
        dsimp only
        rw [ExtractionLimits.effective_effective, ExtractionLimits.effective_effective]
        exact slack
      refine report_agree (fun left right => left = { right with limits := wide.effective })
        agree rfl (fun used used' format fields errors same => ?_) uncut
      subst same
      unfold BudgetedReader.finish BudgetedReader.new
      dsimp only
      rw [ExtractionLimits.effective_effective]

theorem uncut_datedFile :
    (extractTimestampEvidence (fun reader => Bmff.parse reader) (sliceSource datedFile)
      .default).Uncut := by
  unfold ExtractionReport.Uncut
  decide +kernel

/-- The limits no caller can raise, against the defaults. -/
theorem report_slack_datedFile :
    ExtractionLimits.default.maxTotalBytesRead < ExtractionLimits.ceilings.maxTotalBytesRead ∧
      extractTimestampEvidence (fun reader => Bmff.parse reader) (sliceSource datedFile) .ceilings =
        { extractTimestampEvidence (fun reader => Bmff.parse reader) (sliceSource datedFile)
            .default with limits := ExtractionLimits.ceilings.effective } :=
  ⟨by decide, report_slack (by constructor <;> decide) uncut_datedFile⟩

/-! ## Reads that are short -/

/-- The usage of two runs that differ in nothing but their calls, the second one within its
budget. -/
structure FewerCalls (reader : BudgetedReader) (fewer more : ExtractionUsage) : Prop where
  within : WithinBudget reader { usage := more }
  calls : fewer.readOperations ≤ more.readOperations
  same : fewer = { more with readOperations := fewer.readOperations }

section Short

variable {reader : BudgetedReader} {contents : List UInt8}

theorem fewerCalls_counted (put : ExtractionUsage → ExtractionUsage)
    {fewer more : ExtractionUsage} (less : FewerCalls reader fewer more)
    (calls : ∀ used, (put used).readOperations = used.readOperations)
    (commutes : ∀ used operations, put { used with readOperations := operations } =
      { put used with readOperations := operations })
    (within : WithinBudget reader { usage := put more }) :
    FewerCalls reader (put fewer) (put more) where
  within := within
  calls := by
    rw [calls, calls]
    exact less.calls
  same := by
    rw [calls]
    calc put fewer = put { more with readOperations := fewer.readOperations } :=
          congrArg put less.same
      _ = { put more with readOperations := fewer.readOperations } := commutes _ _

/-- What a counter other than that of the calls holds is the same in both runs. -/
theorem fewerCalls_counter (counter : ExtractionUsage → Nat) {fewer more : ExtractionUsage}
    (less : FewerCalls reader fewer more)
    (apart : ∀ used operations, counter { used with readOperations := operations } = counter used) :
    counter fewer = counter more := by
  rw [less.same]
  exact apart _ _

theorem short_readVec (honest : Honest reader contents) (offset length : Nat) (context : String) :
    Agrees (FewerCalls reader) ((reader.alone contents).readVec offset length context)
      (reader.readVec offset length context) := by
  have sourceLen : (reader.alone contents).sourceLen = reader.sourceLen := honest.sourceLen.symm
  by_cases inside : offset + length ≤ contents.length
  · intro s t states
    have less := states.1
    have reads := meets_readVec honest inside context t t
      ⟨rfl, { less.within with bytesRead := less.within.bytesRead }⟩
    generalize reader.readVec offset length context t = ended at reads ⊢
    obtain ⟨outcome, after⟩ := ended
    cases outcome with
    | error error => exact Lockstep.ends_cut reads
    | ok result =>
        obtain ⟨rfl, single, used⟩ := reads
        have bytesAfter := used.bytesRead
        have callsAfter := used.readOperations
        have bytesLimit := used.within.bytesRead
        have callsLimit := used.within.readOperations
        have bytes : s.usage.bytesRead = t.usage.bytesRead :=
          fewerCalls_counter ExtractionUsage.bytesRead less fun _ _ => rfl
        have calls := less.calls
        have fits := honest.fits
        rw [alone_readVec inside (by omega) single context (by omega) (by omega)]
        have frame := used.frame
        obtain ⟨_, fields, issues, visited, pending⟩ := states
        generalize after.usage.bytesRead = bytesRead at *
        generalize after.usage.readOperations = readOperations at *
        subst frame
        refine ⟨rfl, ⟨{ used.within with bytesRead := bytesLimit }, by dsimp only; omega, ?_⟩,
          fields, issues, visited, pending⟩
        dsimp only
        rw [bytesAfter, ← bytes]
        exact congrArg (fun used : ExtractionUsage => { used with
          bytesRead := s.usage.bytesRead + length
          readOperations := s.usage.readOperations + min 1 length }) less.same
  · unfold BudgetedReader.readVec
    rw [sourceLen]
    refine Lockstep.Follows.bind follows_checkedAdd fun stop stop' sums => ?_
    obtain ⟨rfl, rfl⟩ := sums
    have outside : ¬ offset + length ≤ reader.sourceLen := by
      rw [honest.sourceLen]
      exact inside
    rw [decide_eq_false outside]
    exact agrees_stop _

theorem short_readFieldBytes (honest : Honest reader contents) (offset length : Nat) :
    Agrees (FewerCalls reader) ((reader.alone contents).readFieldBytes offset length)
      (reader.readFieldBytes offset length) := by
  unfold BudgetedReader.readFieldBytes
  rw [BudgetedReader.alone_limits]
  refine (agrees_ensure _ _).next fun _ => Lockstep.Follows.bind follows_related
    fun used used' less => ?_
  rw [fewerCalls_counter ExtractionUsage.fieldsEmitted less fun _ _ => rfl,
    fewerCalls_counter ExtractionUsage.retainedFieldBytes less fun _ _ => rfl]
  refine (agrees_orFail _ _).next fun fields => follows_ensured.bind fun _ _ few =>
    (agrees_checkedAdd _ _ _ _).next fun retained => follows_ensured.bind fun _ _ small =>
    (short_readVec honest _ _ _).next fun bytes => Agrees.next ?_ fun _ => agrees_pure bytes
  refine agrees_setUsage fun _ _ less => fewerCalls_counted (fun used => { used with
    fieldsEmitted := fields, retainedFieldBytes := retained }) less (fun _ => rfl)
    (fun _ _ => rfl) ?_
  exact { less.within with fieldsEmitted := few, retainedFieldBytes := small }

/-- A counter that has nothing to do with the calls. -/
theorem short_counted (counter : ExtractionUsage → Nat)
    (put : Nat → ExtractionUsage → ExtractionUsage) {bound count limit : Nat}
    {overflow error : ParseError} (cut : error.code = .limitExceeded)
    (apart : ∀ used operations, counter { used with readOperations := operations } = counter used)
    (calls : ∀ next used, (put next used).readOperations = used.readOperations)
    (commutes : ∀ next used operations, put next { used with readOperations := operations } =
      { put next used with readOperations := operations })
    (within : ∀ next used, next ≤ limit → WithinBudget reader { usage := used } →
      WithinBudget reader { usage := put next used }) :
    Agrees (FewerCalls reader)
      (do
        let used ← usage
        let next ← orFail overflow (MachineInt.checkedAdd bound (counter used) count)
        setUsage (put next)
        ensure (next ≤ limit) error)
      (do
        let used ← usage
        let next ← orFail overflow (MachineInt.checkedAdd bound (counter used) count)
        setUsage (put next)
        ensure (next ≤ limit) error) :=
  agrees_counted (fun _ _ less => fewerCalls_counter counter less apart)
    (fun next _ _ allowed less => fewerCalls_counted (put next) less (calls next) (commutes next)
      (within next _ allowed less.within)) (Nat.le_refl _) cut

theorem short_agree (honest : Honest reader contents) :
    (reader.alone contents).Agree (FewerCalls reader) reader := by
  have limits := reader.alone_limits contents
  constructor
  · constructor
    · exact honest.sourceLen.symm
    · exact Nat.le_of_eq (congrArg ExtractionLimits.maxIfdDepth limits).symm
    · exact Nat.le_of_eq (congrArg ExtractionLimits.maxBmffDepth limits).symm
    · exact Nat.le_of_eq (congrArg ExtractionLimits.maxBmffBoxes limits).symm
    · exact short_readVec honest
    · exact short_readFieldBytes honest
    · intro offset count
      unfold BudgetedReader.operations BudgetedReader.visitIfdEntries
      dsimp only
      rw [limits]
      exact (agrees_ensure _ _).next fun _ => short_counted ExtractionUsage.ifdEntriesVisited
        (fun next used => { used with ifdEntriesVisited := next }) rfl (fun _ _ => rfl)
        (fun _ _ => rfl) (fun _ _ _ => rfl)
        fun _ _ allowed within => { within with ifdEntriesVisited := allowed }
    · intro offset
      unfold BudgetedReader.operations BudgetedReader.visitBmffBox
      dsimp only
      rw [limits]
      exact short_counted ExtractionUsage.bmffBoxesVisited
        (fun next used => { used with bmffBoxesVisited := next }) rfl (fun _ _ => rfl)
        (fun _ _ => rfl) (fun _ _ _ => rfl)
        fun _ _ allowed within => { within with bmffBoxesVisited := allowed }
    · intro depth wide narrow offset context less
      refine (agrees_limit (fun within => decide_eq_true
        ((of_decide_eq_true within).trans less)) rfl).next fun _ => agrees_setUsage ?_
      exact fun used used' fewer => fewerCalls_counted (fun used => { used with
        maxDepthObserved := max used.maxDepthObserved depth }) fewer (fun _ => rfl)
        (fun _ _ => rfl) { fewer.within with bytesRead := fewer.within.bytesRead }
  · intro offset
    unfold BudgetedReader.visitJpegSegment
    rw [limits]
    exact short_counted ExtractionUsage.jpegSegmentsVisited
      (fun next used => { used with jpegSegmentsVisited := next }) rfl (fun _ _ => rfl)
      (fun _ _ => rfl) (fun _ _ _ => rfl)
      fun _ _ allowed within => { within with jpegSegmentsVisited := allowed }

/-- The report but for the number of calls. -/
def ExtractionReport.withoutCalls (report : ExtractionReport) : ExtractionReport :=
  { report with usage := { report.usage with readOperations := 0 } }

/-- Short reads cost calls and nothing else. -/
theorem report_alone (honest : Honest reader contents) (uncut : reader.report.Uncut) :
    (reader.alone contents).report.withoutCalls = reader.report.withoutCalls := by
  have start : FewerCalls reader {} {} :=
    ⟨⟨Nat.zero_le _, Nat.zero_le _, Nat.zero_le _, Nat.zero_le _, Nat.zero_le _, Nat.zero_le _,
      Nat.zero_le _⟩, Nat.le_refl _, rfl⟩
  refine report_agree (fun left right => left.withoutCalls = right.withoutCalls)
    (short_agree honest) start (fun used used' format fields errors less => ?_) uncut
  unfold BudgetedReader.finish ExtractionReport.withoutCalls
  dsimp only
  rw [BudgetedReader.alone_limits, less.same]

end Short

section Sources

variable {first second : ReadAtSource} {contents : List UInt8} {limits : ExtractionLimits}

/-- The report of a source over some bytes is that of the bytes themselves, but for the calls. -/
theorem extractTimestampEvidence_alone {source : ReadAtSource} (holds : source.Holds contents)
    (length : source.sourceLen = some contents.length)
    (uncut : (extractTimestampEvidence (fun reader => Bmff.parse reader) source limits).Uncut) :
    (extractTimestampEvidence (fun reader => Bmff.parse reader) source limits).withoutCalls =
      (extractTimestampEvidence (fun reader => Bmff.parse reader) (sliceSource contents)
        limits).withoutCalls := by
  have alone : (BudgetedReader.new source contents.length limits.effective).alone contents =
      BudgetedReader.new (sliceSource contents) contents.length limits.effective := by
    unfold BudgetedReader.alone BudgetedReader.new
    simp only [ExtractionLimits.effective_effective]
  rw [extractTimestampEvidence_eq, length] at uncut
  rw [extractTimestampEvidence_eq, length, extractTimestampEvidence_eq]
  have same := report_alone (holds.honest limits.effective) uncut
  rw [alone] at same
  exact same.symm

/-- How the reads of a source are cut up shows in no report but in the number of calls. -/
theorem report_shortReads (sourceLen : first.sourceLen = second.sourceLen)
    (holds : first.Holds contents) (holds' : second.Holds contents)
    (uncut : (extractTimestampEvidence (fun reader => Bmff.parse reader) first limits).Uncut)
    (uncut' : (extractTimestampEvidence (fun reader => Bmff.parse reader) second limits).Uncut) :
    (extractTimestampEvidence (fun reader => Bmff.parse reader) first limits).withoutCalls =
      (extractTimestampEvidence (fun reader => Bmff.parse reader) second limits).withoutCalls := by
  cases length : first.sourceLen with
  | none =>
      rw [extractTimestampEvidence_eq, extractTimestampEvidence_eq, ← sourceLen, length]
  | some stated =>
      have same := holds.sourceLen stated length
      subst same
      rw [extractTimestampEvidence_alone holds length uncut,
        extractTimestampEvidence_alone holds' (sourceLen.symm.trans length) uncut']

end Sources

/-- A source that returns one byte at a time. -/
def bytewiseSource (contents : List UInt8) : ReadAtSource :=
  ⟨some contents.length, fun _ offset room => some (slice contents offset (min room 1))⟩

theorem holds_bytewiseSource {contents : List UInt8} (fits : contents.length < u64Bound) :
    (bytewiseSource contents).Holds contents where
  sourceLen _ same := (Option.some.inj same).symm
  fits := fits
  answers _ offset room inside positive :=
    ⟨1, by omega, positive, by omega, by
      have one : min room 1 = 1 := by omega
      unfold bytewiseSource
      dsimp only
      rw [one]⟩

theorem holds_sliceSource {contents : List UInt8} (fits : contents.length < u64Bound) :
    (sliceSource contents).Holds contents where
  sourceLen _ same := (Option.some.inj same).symm
  fits := fits
  answers := (honest_sliceSource fits .default).answers

theorem report_shortReads_datedFile :
    (extractTimestampEvidence (fun reader => Bmff.parse reader) (sliceSource datedFile)
        .default).usage.readOperations <
      (extractTimestampEvidence (fun reader => Bmff.parse reader) (bytewiseSource datedFile)
        .default).usage.readOperations ∧
      (extractTimestampEvidence (fun reader => Bmff.parse reader) (sliceSource datedFile)
        .default).withoutCalls =
      (extractTimestampEvidence (fun reader => Bmff.parse reader) (bytewiseSource datedFile)
        .default).withoutCalls := by
  have fits : datedFile.length < u64Bound := by decide +kernel
  refine ⟨by decide +kernel, ?_⟩
  refine report_shortReads rfl (holds_sliceSource fits) (holds_bytewiseSource fits)
    uncut_datedFile ?_
  unfold ExtractionReport.Uncut
  decide +kernel

end Guiying.Metadata
