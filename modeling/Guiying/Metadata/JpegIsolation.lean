import Guiying.Metadata.Extract
import Guiying.Metadata.TiffAlone

/-!
# Segments do not affect each other

A well-formed marker stream is a list of markers up to the scan data or the end. Its report is put
together from the reports of its Exif segments, each walked alone: what one payload holds, however
malformed, does not reach the findings of another.
-/

namespace Guiying.Metadata

open Guiying.Foundation Guiying.Foundation.ByteString Guiying.Foundation.MachineInt Jpeg

/-! ## Marker streams -/

/-- A marker in front of the scan data, with fill bytes in front of its code: one that stands alone,
or one of a segment with its payload. -/
structure JpegMarker where
  fill : Nat
  code : UInt8
  payload : Option (List UInt8)
  deriving DecidableEq

namespace JpegMarker

/-- The code is one of its kind, and the length field can hold the length. -/
structure Valid (marker : JpegMarker) : Prop where
  alone : marker.payload = none → standsAlone marker.code = true
  coded : ∀ payload, marker.payload = some payload → standsAlone marker.code = false ∧
    marker.code ∉ [0, markerPrefix, markerSoi, markerEoi, markerSos]
  length : ∀ payload, marker.payload = some payload → payload.length + 2 < u16Bound

def encodePayload : Option (List UInt8) → List UInt8
  | none => []
  | some payload => beBytes 2 (payload.length + 2) ++ payload

/-- The prefix, the fill bytes and the code. -/
def encodeCode (fill : Nat) (code : UInt8) : List UInt8 :=
  markerPrefix :: (List.replicate fill markerPrefix ++ [code])

def encode (marker : JpegMarker) : List UInt8 :=
  encodeCode marker.fill marker.code ++ encodePayload marker.payload

/-- The bytes of an Exif segment behind its signature. -/
def exif (marker : JpegMarker) : Option (List UInt8) :=
  match marker.payload with
  | none => none
  | some payload =>
      if marker.code = markerApp1 ∧ payload.take 6 = exifSignature then some (payload.drop 6)
      else none

/-- Where the container of an Exif segment at an offset starts. -/
def headerOffset (marker : JpegMarker) (offset : Nat) : Nat := offset + marker.fill + 10

/-- What the walk finds in a segment alone, at the offsets of the file. -/
def findings (limits : ExtractionLimits) (offset : Nat) (marker : JpegMarker) : Findings :=
  match marker.exif with
  | none => ∅
  | some tiff => (aloneFindings limits (.jpeg offset) tiff).shift (marker.headerOffset offset)

end JpegMarker

/-- The findings of the markers from an offset on, one behind the other. -/
def streamFindings (limits : ExtractionLimits) : Nat → List JpegMarker → Findings
  | _, [] => ∅
  | offset, marker :: rest =>
      marker.findings limits offset ++
        streamFindings limits (offset + marker.encode.length) rest

/-- The walk of every Exif segment alone, its whole budget to itself, comes to its end. -/
def StreamCompletes (limits : ExtractionLimits) : Nat → List JpegMarker → Prop
  | _, [] => True
  | offset, marker :: rest =>
      (∀ tiff, marker.exif = some tiff → (aloneRun limits (.jpeg offset) tiff).1 = .ok ()) ∧
        StreamCompletes limits (offset + marker.encode.length) rest

/-! ## One marker -/

section Marker

variable {reader : BudgetedReader} {contents : List UInt8} {cursor : Nat}

theorem yields_readByte (honest : Honest reader contents) {byte : UInt8}
    (stands : StandsAt contents cursor [byte]) (context : String) :
    Yields reader (.ok [byte]) (reader.readVec cursor 1 context) := by
  have read := yields_readVec honest (stands.inside (List.cons_ne_nil _ _)) context
  rwa [stands.slice_eq] at read

theorem yields_readCode (honest : Honest reader contents) {code : UInt8}
    (coded : code ≠ 0) (other : code ≠ markerPrefix) :
    ∀ (fill rounds cursor : Nat), fill < rounds →
      StandsAt contents (cursor + 1) (List.replicate fill markerPrefix ++ [code]) →
      Yields reader (.ok (code, cursor + fill + 1)) (readCode reader rounds cursor)
  | fill, 0, _, few, _ => absurd few (Nat.not_lt_zero fill)
  | 0, rounds + 1, cursor, _, stands => by
      have inside := stands.inside (by simp)
      have fits := honest.fits
      have length := honest.sourceLen
      simp only [List.replicate_zero, List.nil_append, List.length_singleton] at inside stands
      unfold readCode
      refine (yields_checkedAdd (by omega) _ _).bind ?_
      refine (yields_ensure (by omega) _).bind ?_
      refine (yields_readByte honest stands _).bind ?_
      rw [if_neg (by exact other)]
      exact (yields_ensure coded _).bind (yields_pure _)
  | fill + 1, rounds + 1, cursor, few, stands => by
      have inside := stands.inside (by simp)
      have fits := honest.fits
      have length := honest.sourceLen
      rw [List.replicate_succ, List.cons_append, ← List.singleton_append] at stands
      simp only [List.length_append, List.length_replicate, List.length_singleton] at inside
      unfold readCode
      refine (yields_checkedAdd (by omega) _ _).bind ?_
      refine (yields_ensure (by omega) _).bind ?_
      refine (yields_readByte honest stands.left _).bind ?_
      rw [if_pos (by rfl)]
      have next := yields_readCode honest coded other fill rounds (cursor + 1) (by omega)
        stands.right
      rwa [show cursor + 1 + fill + 1 = cursor + (fill + 1) + 1 by omega] at next

theorem yields_readMarker (honest : Honest reader contents) {fill : Nat} {code : UInt8}
    (coded : code ≠ 0) (other : code ≠ markerPrefix)
    (stands : StandsAt contents cursor (JpegMarker.encodeCode fill code)) :
    Yields reader (.ok (code, cursor + fill + 1, cursor + fill + 2))
      (readMarker reader cursor) := by
  have inside := stands.inside (List.cons_ne_nil _ _)
  have fits := honest.fits
  have length := honest.sourceLen
  rw [JpegMarker.encodeCode, ← List.singleton_append] at stands
  simp only [JpegMarker.encodeCode, List.length_cons, List.length_append, List.length_replicate,
    List.length_nil] at inside
  unfold readMarker
  refine (yields_ensure (by omega) _).bind ?_
  refine (yields_readByte honest stands.left _).bind ?_
  refine (yields_ensure rfl _).bind ?_
  refine (yields_readCode honest coded other fill _ cursor (by omega) stands.right).bind ?_
  refine (yields_checkedAdd (by omega) _ _).bind ?_
  exact (yields_visitJpegSegment _).bind (yields_pure _)

theorem yields_segmentBounds (honest : Honest reader contents) {payload : List UInt8}
    (short : payload.length + 2 < u16Bound)
    (stands : StandsAt contents cursor (JpegMarker.encodePayload (some payload))) :
    Yields reader (.ok (cursor + 2, payload.length, cursor + 2 + payload.length))
      (segmentBounds reader cursor) := by
  have fits := honest.fits
  have length := honest.sourceLen
  have inside := stands.inside (by
    intro none
    have size := congrArg List.length none
    simp [JpegMarker.encodePayload] at size)
  simp only [JpegMarker.encodePayload, List.length_append, length_beBytes] at inside
  have size := stands.left.slice_eq
  rw [length_beBytes] at size
  unfold segmentBounds
  refine (yields_readVec honest (by omega) _).bind ?_
  rw [size, readBigEndian_beBytes short]
  refine (yields_ensure (by omega) _).bind ?_
  refine (yields_checkedAdd (by omega) _ _).bind ?_
  refine (yields_checkedSub (by omega) _ _).bind ?_
  rw [Nat.add_sub_cancel]
  refine (yields_checkedAdd (by omega) _ _).bind ?_
  exact (yields_ensure (by omega) _).bind (yields_pure _)

/-- The source is no longer than a byte string of the machine can be. -/
def isizeBound : Nat := 2 ^ 63

theorem holding_exif (honest : Honest reader contents) (machine : contents.length < isizeBound)
    {tiff : List UInt8} (stands : StandsAt contents cursor tiff)
    (inside : cursor + tiff.length ≤ contents.length) : Holding reader cursor tiff where
  contents := ⟨contents, honest, stands, inside⟩
  room := by
    simp only [isizeBound, u64Bound] at *
    omega

variable {marker : JpegMarker}

/-- The signature of a segment that has room for one. -/
theorem yields_signature (honest : Honest reader contents) {payload : List UInt8}
    (stands : StandsAt contents cursor payload) (room : 6 ≤ payload.length)
    (inside : cursor + payload.length ≤ contents.length) (context : String) :
    Yields reader (.ok (payload.take 6)) (reader.readVec cursor 6 context) := by
  have read := (List.take_append_drop 6 payload ▸ stands).left.slice_eq
  rw [List.length_take_of_le room] at read
  rw [← read]
  exact yields_readVec honest (by omega) context

/-- A segment that is not Exif is passed. -/
theorem yields_readExif_other (honest : Honest reader contents) {payload : List UInt8}
    (same : marker.payload = some payload) (plain : marker.exif = none)
    (stands : StandsAt contents cursor payload)
    (inside : cursor + payload.length ≤ contents.length) (offset : Nat) :
    Yields reader (.ok ()) (readExif reader offset marker.code cursor payload.length
      (cursor + payload.length)) := by
  unfold readExif
  by_cases candidate : marker.code = markerApp1 ∧ 6 ≤ payload.length
  case neg =>
    rw [if_neg candidate]
    exact yields_pure _
  rw [if_pos candidate]
  have other : payload.take 6 ≠ exifSignature := by
    intro found
    simp [JpegMarker.exif, same, candidate.1, found] at plain
  refine (yields_signature honest stands candidate.2 inside _).bind ?_
  rw [if_neg other]
  exact yields_pure _

/-- The parts of an Exif segment. -/
structure ExifParts (contents : List UInt8) (cursor : Nat) (marker : JpegMarker)
    (payload tiff : List UInt8) : Prop where
  code : marker.code = markerApp1
  signature : payload.take 6 = exifSignature
  length : payload.length = 6 + tiff.length
  stands : StandsAt contents (cursor + 6) tiff

theorem exifParts {payload tiff : List UInt8} (same : marker.payload = some payload)
    (exif : marker.exif = some tiff) (stands : StandsAt contents cursor payload) :
    ExifParts contents cursor marker payload tiff := by
  unfold JpegMarker.exif at exif
  rw [same] at exif
  dsimp only at exif
  split at exif
  case isFalse => exact nomatch exif
  case isTrue found =>
    cases exif
    have taken : (payload.take 6).length = 6 := by
      rw [found.2]
      rfl
    have six : 6 ≤ payload.length := by
      rw [List.length_take] at taken
      omega
    have right := (List.take_append_drop 6 payload ▸ stands).right
    rw [taken] at right
    refine ⟨found.1, found.2, ?_, right⟩
    rw [List.length_drop]
    omega

section Container

variable {payload tiff : List UInt8} {offset : Nat}

/-- What an Exif segment finds is what its container finds. -/
theorem finds_readExif (honest : Honest reader contents) (machine : contents.length < isizeBound)
    (parts : ExifParts contents cursor marker payload tiff)
    (stands : StandsAt contents cursor payload)
    (inside : cursor + payload.length ≤ contents.length) :
    Finds reader (.ok ())
      ((aloneFindings reader.limits (.jpeg offset) tiff).shift (cursor + 6))
      (readExif reader offset marker.code cursor payload.length (cursor + payload.length)) := by
  have fits := honest.fits
  have length := parts.length
  have holding := holding_exif honest machine parts.stands (by omega)
  unfold readExif
  rw [if_pos ⟨parts.code, by omega⟩]
  refine (yields_signature honest stands (by omega) inside _).bind_finds ?_
  rw [if_pos parts.signature, length, ← Nat.add_assoc]
  exact (yields_checkedAdd (by omega) _ _).bind_finds (finds_parseInRange holding)

theorem overspends_readExif (honest : Honest reader contents)
    (machine : contents.length < isizeBound)
    (parts : ExifParts contents cursor marker payload tiff)
    (stands : StandsAt contents cursor payload)
    (inside : cursor + payload.length ≤ contents.length)
    (spent : (aloneRun reader.limits (.jpeg offset) tiff).1 ≠ .ok ()) :
    Overspends reader
      (readExif reader offset marker.code cursor payload.length (cursor + payload.length)) := by
  have fits := honest.fits
  have length := parts.length
  have holding := holding_exif honest machine parts.stands (by omega)
  unfold readExif
  rw [if_pos ⟨parts.code, by omega⟩]
  refine Finds.bind_overspends (yields_signature honest stands (by omega) inside _) ?_
  rw [if_pos parts.signature, length, ← Nat.add_assoc]
  exact Finds.bind_overspends (yields_checkedAdd (by omega) _ _)
    (overspends_parseInRange holding spent)

end Container

end Marker

/-! ## The scan -/

section Scan

variable {reader : BudgetedReader} {contents : List UInt8} {cursor : Nat} {marker : JpegMarker}

theorem JpegMarker.length_encodeCode (fill : Nat) (code : UInt8) :
    (encodeCode fill code).length = fill + 2 := by
  simp [encodeCode]

theorem standsAlone_ne {code other : UInt8} (alone : standsAlone code = true)
    (not : standsAlone other = false) : code ≠ other := by
  rintro rfl
  rw [not] at alone
  exact nomatch alone

theorem JpegMarker.Valid.code_ne (valid : marker.Valid) :
    marker.code ≠ 0 ∧ marker.code ≠ markerPrefix ∧ marker.code ≠ markerSoi ∧
      marker.code ≠ markerEoi ∧ marker.code ≠ markerSos := by
  cases same : marker.payload with
  | none =>
      have alone := valid.alone same
      exact ⟨standsAlone_ne alone rfl, standsAlone_ne alone rfl, standsAlone_ne alone rfl,
        standsAlone_ne alone rfl, standsAlone_ne alone rfl⟩
  | some payload =>
      have coded := (valid.coded payload same).2
      simpa only [List.mem_cons, List.not_mem_nil, or_false, not_or] using coded

/-- A marker that stands alone is passed. -/
theorem yields_readMarker_valid (honest : Honest reader contents) (valid : marker.Valid)
    (stands : StandsAt contents cursor marker.encode) :
    Yields reader (.ok (marker.code, cursor + marker.fill + 1, cursor + marker.fill + 2))
      (readMarker reader cursor) :=
  yields_readMarker honest valid.code_ne.1 valid.code_ne.2.1 stands.left

theorem scanMarkers_alone (honest : Honest reader contents) (valid : marker.Valid)
    (alone : marker.payload = none) (stands : StandsAt contents cursor marker.encode)
    (rounds : Nat) :
    (∀ later, Finds reader (.ok ()) later
        (scanMarkers reader rounds (cursor + marker.encode.length)) →
      Finds reader (.ok ()) later (scanMarkers reader (rounds + 1) cursor)) ∧
    (Overspends reader (scanMarkers reader rounds (cursor + marker.encode.length)) →
      Overspends reader (scanMarkers reader (rounds + 1) cursor)) := by
  have head := yields_readMarker_valid honest valid stands
  have ends : ¬ (marker.code = markerEoi ∨ marker.code = markerSos) :=
    not_or.mpr valid.code_ne.2.2.2
  have next : cursor + marker.encode.length = cursor + marker.fill + 2 := by
    simp [JpegMarker.encode, alone, JpegMarker.encodePayload, JpegMarker.length_encodeCode,
      Nat.add_assoc]
  rw [next]
  constructor
  · intro later rest
    unfold scanMarkers
    refine head.bind_finds ?_
    dsimp only
    rwa [if_neg ends, if_pos (valid.alone alone)]
  · intro rest
    unfold scanMarkers
    refine Finds.bind_overspends head ?_
    dsimp only
    rwa [if_neg ends, if_pos (valid.alone alone)]

/-- A segment is passed once its container is walked. -/
theorem scanMarkers_segment (honest : Honest reader contents) (valid : marker.Valid)
    {payload : List UInt8} (same : marker.payload = some payload)
    (stands : StandsAt contents cursor marker.encode) (rounds : Nat) :
    let start := cursor + marker.fill + 4
    let container := readExif reader cursor marker.code start payload.length
      (start + payload.length)
    (∀ found later, Finds reader (.ok ()) found container →
      Finds reader (.ok ()) later
        (scanMarkers reader rounds (cursor + marker.encode.length)) →
      Finds reader (.ok ()) (found ++ later) (scanMarkers reader (rounds + 1) cursor)) ∧
    (∀ found, Finds reader (.ok ()) found container →
      Overspends reader (scanMarkers reader rounds (cursor + marker.encode.length)) →
      Overspends reader (scanMarkers reader (rounds + 1) cursor)) ∧
    (Overspends reader container → Overspends reader (scanMarkers reader (rounds + 1) cursor)) := by
  intro start container
  have head := yields_readMarker_valid honest valid stands
  have ends : ¬ (marker.code = markerEoi ∨ marker.code = markerSos) :=
    not_or.mpr valid.code_ne.2.2.2
  have long : ¬ standsAlone marker.code = true := by simp [(valid.coded payload same).1]
  have fields := stands.right
  rw [same, JpegMarker.length_encodeCode, ← Nat.add_assoc] at fields
  have bounds := yields_segmentBounds honest (valid.length payload same) fields
  have next : cursor + marker.encode.length = start + payload.length := by
    simp only [JpegMarker.encode, same, JpegMarker.encodePayload, JpegMarker.length_encodeCode,
      List.length_append, length_beBytes, start]
    omega
  rw [next]
  refine ⟨fun found later finds rest => ?_, fun found finds rest => ?_, fun spent => ?_⟩
  · unfold scanMarkers
    refine head.bind_finds ?_
    dsimp only
    rw [if_neg ends, if_neg long, if_neg valid.code_ne.2.2.1]
    exact bounds.bind_finds (finds.bind rest)
  · unfold scanMarkers
    refine Finds.bind_overspends head ?_
    dsimp only
    rw [if_neg ends, if_neg long, if_neg valid.code_ne.2.2.1]
    exact Finds.bind_overspends bounds (finds.bind_overspends rest)
  · unfold scanMarkers
    refine Finds.bind_overspends head ?_
    dsimp only
    rw [if_neg ends, if_neg long, if_neg valid.code_ne.2.2.1]
    exact Finds.bind_overspends bounds spent.bind

/-- The container of a segment finds what it finds alone. -/
theorem finds_container (honest : Honest reader contents) (machine : contents.length < isizeBound)
    {payload : List UInt8} (same : marker.payload = some payload)
    (stands : StandsAt contents cursor marker.encode) :
    let start := cursor + marker.fill + 4
    let container := readExif reader cursor marker.code start payload.length
      (start + payload.length)
    Finds reader (.ok ()) (marker.findings reader.limits cursor) container ∧
      ∀ tiff, marker.exif = some tiff → (aloneRun reader.limits (.jpeg cursor) tiff).1 ≠ .ok () →
        Overspends reader container := by
  intro start container
  have payloadAt := stands.right
  rw [same, JpegMarker.encodePayload, JpegMarker.length_encodeCode] at payloadAt
  replace payloadAt := payloadAt.right
  rw [length_beBytes, ← Nat.add_assoc] at payloadAt
  change StandsAt contents start payload at payloadAt
  have inside := stands.inside (by simp [JpegMarker.encode, JpegMarker.encodeCode])
  simp only [JpegMarker.encode, same, JpegMarker.encodePayload, JpegMarker.length_encodeCode,
    List.length_append, length_beBytes] at inside
  have within : start + payload.length ≤ contents.length := by
    simp only [start]
    omega
  cases exif : marker.exif with
  | none =>
      have nothing : marker.findings reader.limits cursor = ∅ := by
        simp [JpegMarker.findings, exif]
      rw [nothing]
      exact ⟨yields_readExif_other honest same exif payloadAt within cursor, nofun⟩
  | some tiff =>
      have parts := exifParts same exif payloadAt
      have found : marker.findings reader.limits cursor =
          (aloneFindings reader.limits (.jpeg cursor) tiff).shift (start + 6) := by
        simp [JpegMarker.findings, exif, JpegMarker.headerOffset, start]
      rw [found]
      refine ⟨finds_readExif honest machine parts payloadAt within, fun other alone spent => ?_⟩
      cases alone
      exact overspends_readExif honest machine parts payloadAt within spent

/-- The markers, and one that ends them. -/
structure JpegStream where
  markers : List JpegMarker
  valid : ∀ marker ∈ markers, marker.Valid
  fill : Nat
  last : UInt8
  ends : last = markerEoi ∨ last = markerSos

namespace JpegStream

def encode (stream : JpegStream) : List UInt8 :=
  [markerPrefix, markerSoi] ++
    (stream.markers.flatMap JpegMarker.encode ++ JpegMarker.encodeCode stream.fill stream.last)

end JpegStream

theorem yields_lastMarker (honest : Honest reader contents) {fill : Nat} {code : UInt8}
    (ends : code = markerEoi ∨ code = markerSos)
    (stands : StandsAt contents cursor (JpegMarker.encodeCode fill code)) (rounds : Nat) :
    Yields reader (.ok ()) (scanMarkers reader (rounds + 1) cursor) := by
  have coded : code ≠ 0 ∧ code ≠ markerPrefix := by
    rcases ends with rfl | rfl <;> decide
  unfold scanMarkers
  refine (yields_readMarker honest coded.1 coded.2 stands).bind ?_
  dsimp only
  rw [if_pos ends]
  exact yields_pure ()

theorem JpegMarker.encode_ne_nil (marker : JpegMarker) : 0 < marker.encode.length := by
  simp [encode, encodeCode]

/-- The scan of valid markers finds what they find alone. -/
theorem finds_scanMarkers (honest : Honest reader contents)
    (machine : contents.length < isizeBound) {fill : Nat} {last : UInt8}
    (ends : last = markerEoi ∨ last = markerSos) :
    ∀ (markers : List JpegMarker) (rounds cursor : Nat), markers.length < rounds →
      (∀ marker ∈ markers, marker.Valid) →
      StandsAt contents cursor
        (markers.flatMap JpegMarker.encode ++ JpegMarker.encodeCode fill last) →
      Finds reader (.ok ()) (streamFindings reader.limits cursor markers)
          (scanMarkers reader rounds cursor) ∧
        (¬ StreamCompletes reader.limits cursor markers →
          Overspends reader (scanMarkers reader rounds cursor))
  | _, 0, _, few, _, _ => absurd few (Nat.not_lt_zero _)
  | [], rounds + 1, cursor, _, _, stands =>
      ⟨yields_lastMarker honest ends stands rounds, fun incomplete => absurd trivial incomplete⟩
  | marker :: rest, rounds + 1, cursor, few, valid, stands => by
      rw [List.flatMap_cons, List.append_assoc] at stands
      obtain ⟨markerValid, restValid⟩ := List.forall_mem_cons.mp valid
      obtain ⟨finds, overspends⟩ := finds_scanMarkers honest machine ends rest rounds
        (cursor + marker.encode.length) (Nat.lt_of_succ_lt_succ few) restValid stands.right
      cases same : marker.payload with
      | none =>
          have plain : marker.exif = none := by simp [JpegMarker.exif, same]
          obtain ⟨onward, onwardSpent⟩ :=
            scanMarkers_alone honest markerValid same stands.left rounds
          constructor
          · have none : marker.findings reader.limits cursor = ∅ := by
              simp [JpegMarker.findings, plain]
            rw [streamFindings, none]
            exact onward _ finds
          · intro incomplete
            refine onwardSpent (overspends fun complete => incomplete ⟨?_, complete⟩)
            intro tiff exif
            rw [plain] at exif
            exact nomatch exif
      | some payload =>
          obtain ⟨onward, onwardSpent, spentHere⟩ :=
            scanMarkers_segment honest markerValid same stands.left rounds
          obtain ⟨here, spent⟩ := finds_container honest machine same stands.left
          constructor
          · exact onward _ _ here finds
          · intro incomplete
            by_cases complete : StreamCompletes reader.limits (cursor + marker.encode.length) rest
            · have some_spent : ∃ tiff, marker.exif = some tiff ∧
                  (aloneRun reader.limits (.jpeg cursor) tiff).1 ≠ .ok () := by
                by_contra none
                push Not at none
                exact incomplete ⟨none, complete⟩
              obtain ⟨tiff, exif, unfinished⟩ := some_spent
              exact spentHere (spent tiff exif unfinished)
            · exact onwardSpent _ here (overspends complete)

end Scan

/-! ## The report -/

section Report

variable {reader : BudgetedReader} {contents : List UInt8} {found : Findings}

theorem finds_isolated {program : Parse Unit} (finds : Finds reader (.ok ()) found program) :
    Finds reader (.ok ()) found (Parse.isolated program) := by
  intro state within
  have ends := finds state within
  unfold Parse.isolated
  rw [Program.bind_run]
  unfold Program.attempt
  dsimp only
  generalize program state = ended at ends ⊢
  obtain ⟨outcome, after⟩ := ended
  cases outcome with
  | ok _ => exact ends
  | error error =>
      have spent : error.code = .limitExceeded := ends.elim id fun same => nomatch same.1
      simp only [Parse.isolate, ParseError.isStructural, spent]
      exact .inl spent

theorem overspends_isolated {program : Parse Unit} (overspends : Overspends reader program) :
    Overspends reader (Parse.isolated program) := by
  intro state within
  obtain ⟨error, after, ran, spent⟩ := overspends state within
  refine ⟨error, after, ?_, spent⟩
  unfold Parse.isolated
  rw [Program.bind_run]
  unfold Program.attempt
  rw [ran]
  simp only [Parse.isolate, ParseError.isStructural, spent]
  rfl

theorem length_le_encode (markers : List JpegMarker) :
    markers.length ≤ (markers.flatMap JpegMarker.encode).length := by
  induction markers with
  | nil => exact Nat.le_refl 0
  | cons marker rest ih =>
      have positive := marker.encode_ne_nil
      rw [List.flatMap_cons, List.length_append, List.length_cons]
      omega

theorem finds_parse {stream : JpegStream} {after : List UInt8}
    (honest : Honest reader (stream.encode ++ after))
    (machine : (stream.encode ++ after).length < isizeBound) :
    Finds reader (.ok ()) (streamFindings reader.limits 2 stream.markers) (Jpeg.parse reader) ∧
      (¬ StreamCompletes reader.limits 2 stream.markers →
        Overspends reader (Jpeg.parse reader)) := by
  have stands : StandsAt (stream.encode ++ after) 0 stream.encode := List.prefix_append _ _
  have soi : slice (stream.encode ++ after) 0 2 = [markerPrefix, markerSoi] :=
    stands.left.slice_eq
  have inside := stands.inside (List.cons_ne_nil _ _)
  have length := honest.sourceLen
  have few := length_le_encode stream.markers
  have size : stream.encode.length = 2 + (stream.markers.flatMap JpegMarker.encode).length +
      (stream.fill + 2) := by
    simp only [JpegStream.encode, List.length_append, List.length_cons, List.length_nil,
      JpegMarker.length_encodeCode]
    omega
  obtain ⟨finds, overspends⟩ := finds_scanMarkers honest machine stream.ends stream.markers
    reader.sourceLen 2 (by omega) stream.valid stands.right
  have start : Yields reader (.ok [markerPrefix, markerSoi])
      (reader.readVec 0 2 "read JPEG SOI") := by
    rw [← soi]
    exact yields_readVec honest (by omega) _
  constructor
  · exact finds_isolated (start.bind_finds ((yields_ensure rfl _).bind_finds finds))
  · exact fun incomplete => overspends_isolated
      (Finds.bind_overspends start (Finds.bind_overspends (yields_ensure rfl _)
        (overspends incomplete)))

theorem yields_detectFormat {rest : List UInt8}
    (honest : Honest reader (markerPrefix :: markerSoi :: rest)) :
    Yields reader (.ok (some .jpeg)) (detectFormat reader) := by
  have length := honest.sourceLen
  have two : 2 ≤ reader.sourceLen := by
    rw [length]
    simp
  unfold detectFormat
  rw [if_neg (by omega)]
  refine (yields_readVec honest (by omega) _).bind ?_
  obtain ⟨count, least⟩ := Nat.exists_eq_add_of_le (show 2 ≤ min reader.sourceLen 16 by omega)
  have detected : detectPrefix (slice (markerPrefix :: markerSoi :: rest) 0
      (min reader.sourceLen 16)) = some .jpeg := by
    rw [least, Nat.add_comm]
    rfl
  rw [detected]
  exact yields_pure _

end Report

/-- A source that presents these bytes, whatever parts of them it answers a read with. -/
structure Presents (source : ReadAtSource) (limits : ExtractionLimits) (contents : List UInt8) :
    Prop where
  sourceLen : source.sourceLen = some contents.length
  honest : Honest (.new source contents.length limits.effective) contents
  machine : contents.length < isizeBound

/-- No budget was exceeded. -/
def ExtractionReport.Unspent (report : ExtractionReport) : Prop :=
  ∀ issue ∈ report.issues, issue.code ≠ .limitExceeded

section Extraction

variable {parseBmff : BudgetedReader → Parse Unit} {source : ReadAtSource}
  {limits : ExtractionLimits} {stream : JpegStream} {after : List UInt8}

theorem withinBudget_empty (reader : BudgetedReader) : WithinBudget reader {} := by
  constructor <;> exact Nat.zero_le _

/-- A report whose parser spent a budget says so. -/
theorem not_unspent {reader : BudgetedReader} {usage : ExtractionUsage}
    {format : Option DetectedFormat} {error : ParseError} (spent : error.code = .limitExceeded) :
    ¬ (reader.finish usage format [] [error]).Unspent := by
  intro unspent
  exact unspent error.intoIssue (List.mem_singleton_self _) spent

theorem report_of_stream (presents : Presents source limits (stream.encode ++ after))
    (unspent : (extractTimestampEvidence parseBmff source limits).Unspent) :
    (extractTimestampEvidence parseBmff source limits).fields =
        (streamFindings limits.effective 2 stream.markers).fields ∧
      (extractTimestampEvidence parseBmff source limits).issues =
        (streamFindings limits.effective 2 stream.markers).issues.map ParseError.intoIssue ∧
      StreamCompletes limits.effective 2 stream.markers := by
  have honest := presents.honest
  have limited : (BudgetedReader.new source (stream.encode ++ after).length
      limits.effective).limits = limits.effective := limits.effective_effective
  obtain ⟨finds, overspends⟩ := finds_parse honest presents.machine
  rw [limited] at finds overspends
  unfold extractTimestampEvidence at unspent ⊢
  rw [presents.sourceLen] at unspent ⊢
  dsimp only at unspent ⊢
  generalize BudgetedReader.new source (stream.encode ++ after).length limits.effective = reader
    at honest finds overspends unspent ⊢
  have detects := yields_detectFormat honest {} (withinBudget_empty reader)
  generalize detectFormat reader {} = ended at detects unspent ⊢
  obtain ⟨outcome, state⟩ := ended
  cases outcome with
  | error error => exact absurd unspent (not_unspent (detects.elim id fun same => nomatch same.1))
  | ok format =>
      obtain ⟨same, within, nothing⟩ := detects
      cases same
      have complete : StreamCompletes limits.effective 2 stream.markers := by
        by_contra incomplete
        obtain ⟨error, ended, ran, spent⟩ := overspends incomplete state within
        simp only [parseFormat, ran, reportParsed] at unspent
        exact not_unspent spent unspent
      have ends := finds state within
      dsimp only [parseFormat] at unspent ⊢
      generalize Jpeg.parse reader state = ended at ends unspent ⊢
      obtain ⟨outcome, last⟩ := ended
      cases outcome with
      | error error => exact absurd unspent (not_unspent (ends.elim id fun same => nomatch same.1))
      | ok _ =>
          have gained := nothing.trans ends.2.2
          exact ⟨gained.fields, congrArg _ gained.issues, complete⟩

end Extraction

/-! ## Replacing a payload -/

namespace JpegMarker

def withPayload (marker : JpegMarker) (payload : List UInt8) : JpegMarker :=
  { marker with payload := some payload }

theorem Valid.withPayload {marker : JpegMarker} (valid : marker.Valid) {old payload : List UInt8}
    (segment : marker.payload = some old) (length : payload.length = old.length) :
    (marker.withPayload payload).Valid where
  alone := nofun
  coded _ _ := valid.coded old segment
  length _ same := by
    cases same
    rw [length]
    exact valid.length old segment

theorem length_withPayload {marker : JpegMarker} {old payload : List UInt8}
    (segment : marker.payload = some old) (length : payload.length = old.length) :
    (marker.withPayload payload).encode.length = marker.encode.length := by
  simp [encode, encodePayload, withPayload, segment, length]

end JpegMarker

/-- The stream with other bytes in one segment. -/
def JpegStream.replace (stream : JpegStream) {before following : List JpegMarker}
    {marker : JpegMarker} {old payload : List UInt8}
    (split : stream.markers = before ++ marker :: following) (segment : marker.payload = some old)
    (length : payload.length = old.length) : JpegStream where
  markers := before ++ marker.withPayload payload :: following
  valid := by
    have valid := stream.valid
    rw [split, List.forall_mem_append, List.forall_mem_cons] at valid
    rw [List.forall_mem_append, List.forall_mem_cons]
    exact ⟨valid.1, valid.2.1.withPayload segment length, valid.2.2⟩
  fill := stream.fill
  last := stream.last
  ends := stream.ends

theorem streamFindings_append (limits : ExtractionLimits) (before following : List JpegMarker) :
    ∀ offset, streamFindings limits offset (before ++ following) =
      streamFindings limits offset before ++
        streamFindings limits (offset + (before.flatMap JpegMarker.encode).length) following := by
  induction before with
  | nil => exact fun offset => rfl
  | cons marker rest ih =>
      intro offset
      rw [List.cons_append, streamFindings, ih, streamFindings, List.flatMap_cons,
        List.length_append, Nat.add_assoc]
      exact (Findings.append_assoc _ _ _).symm

section Isolation

variable (parseBmff : BudgetedReader → Parse Unit) (limits : ExtractionLimits)
  {source : ReadAtSource} {stream : JpegStream} {after : List UInt8}

/-- The report of a marker stream is put together from the walks of its Exif segments alone, one
behind the other. Other bytes of the same length in one segment change its own part only. -/
theorem extractTimestampEvidence_stream
    (presents : Presents source limits (stream.encode ++ after))
    (unspent : (extractTimestampEvidence parseBmff source limits).Unspent) :
    let report := extractTimestampEvidence parseBmff source limits
    let found := streamFindings limits.effective 2 stream.markers
    (report.fields = found.fields ∧ report.issues = found.issues.map ParseError.intoIssue ∧
      StreamCompletes limits.effective 2 stream.markers) ∧
    ∀ {before following : List JpegMarker} {marker : JpegMarker} {old payload : List UInt8}
      (split : stream.markers = before ++ marker :: following)
      (segment : marker.payload = some old) (length : payload.length = old.length)
      {changed : ReadAtSource} {changedAfter : List UInt8},
      Presents changed limits ((stream.replace split segment length).encode ++ changedAfter) →
      (extractTimestampEvidence parseBmff changed limits).Unspent →
      let replaced := extractTimestampEvidence parseBmff changed limits
      let offset := 2 + (before.flatMap JpegMarker.encode).length
      let own := marker.findings limits.effective offset
      let ownReplaced := (marker.withPayload payload).findings limits.effective offset
      ∃ ahead behind : Findings,
        report.fields = ahead.fields ++ own.fields ++ behind.fields ∧
        replaced.fields = ahead.fields ++ ownReplaced.fields ++ behind.fields ∧
        report.issues =
          (ahead.issues ++ own.issues ++ behind.issues).map ParseError.intoIssue ∧
        replaced.issues =
          (ahead.issues ++ ownReplaced.issues ++ behind.issues).map ParseError.intoIssue := by
  intro report found
  have whole := report_of_stream presents unspent
  refine ⟨whole, ?_⟩
  intro before following marker old payload split segment length changed changedAfter
    presented unspentReplaced replaced offset own ownReplaced
  have changedWhole := report_of_stream presented unspentReplaced
  have parts : streamFindings limits.effective 2 stream.markers =
      streamFindings limits.effective 2 before ++ (own ++
        streamFindings limits.effective (offset + marker.encode.length) following) := by
    rw [split, streamFindings_append]
    rfl
  have changedParts :
      streamFindings limits.effective 2 (stream.replace split segment length).markers =
        streamFindings limits.effective 2 before ++ (ownReplaced ++
          streamFindings limits.effective (offset + marker.encode.length) following) := by
    rw [← JpegMarker.length_withPayload segment length]
    exact streamFindings_append _ _ _ _
  rw [parts] at whole
  rw [changedParts] at changedWhole
  refine ⟨streamFindings limits.effective 2 before,
    streamFindings limits.effective (offset + marker.encode.length) following, ?_⟩
  simp only [List.append_assoc]
  exact ⟨whole.1, changedWhole.1, whole.2.1, changedWhole.2.1⟩

end Isolation

section Samples

/-- One directory with one date. -/
def datedPayload : List UInt8 :=
  exifSignature ++ asciiBytes "II" ++
    [42, 0, 8, 0, 0, 0, 1, 0, 0x32, 1, 2, 0, 20, 0, 0, 0, 26, 0, 0, 0, 0, 0, 0, 0] ++
    asciiBytes "2024:06:07 08:09:10" ++ [0]

/-- As many bytes without a byte order. -/
def brokenPayload : List UInt8 := exifSignature ++ List.replicate 46 0x58

theorem brokenPayload_length : brokenPayload.length = datedPayload.length := by decide

def datedMarker : JpegMarker := ⟨0, 0xe1, some datedPayload⟩

/-- A restart marker behind a fill byte, and a broken segment. -/
def laterMarkers : List JpegMarker := [⟨1, 0xd0, none⟩, ⟨0, 0xe1, some brokenPayload⟩]

def sampleStream : JpegStream where
  markers := datedMarker :: laterMarkers
  valid := by
    intro marker member
    simp only [laterMarkers, List.mem_cons, List.not_mem_nil, or_false] at member
    rcases member with rfl | rfl | rfl
    · exact ⟨nofun, fun _ same => by cases same; decide, fun _ same => by cases same; decide⟩
    · exact ⟨fun _ => rfl, nofun, nofun⟩
    · exact ⟨nofun, fun _ same => by cases same; decide, fun _ same => by cases same; decide⟩
  fill := 0
  last := 0xd9
  ends := .inl rfl

theorem sampleStream_split : sampleStream.markers = [] ++ datedMarker :: laterMarkers := rfl

/-- The date is broken too. -/
def sampleReplaced : JpegStream :=
  sampleStream.replace sampleStream_split rfl brokenPayload_length

def sampleReport (contents : List UInt8) : ExtractionReport :=
  extractTimestampEvidence (fun _ => pure ()) (sliceSource contents) .default

theorem presents_slice {contents : List UInt8} (machine : contents.length < isizeBound) :
    Presents (sliceSource contents) .default contents where
  sourceLen := rfl
  honest := honest_sliceSource (machine.trans (by decide)) _
  machine := machine

/-- The date is reported beside the broken segment, and breaking it takes away no more. -/
theorem extractTimestampEvidence_stream_sample :
    let limits := ExtractionLimits.default.effective
    let report := sampleReport (sampleStream.encode ++ [])
    let replaced := sampleReport (sampleReplaced.encode ++ [])
    let own := datedMarker.findings limits 2
    let ownReplaced := (datedMarker.withPayload brokenPayload).findings limits 2
    (own.fields.length = 1 ∧ own.issues = [] ∧ ownReplaced.fields = [] ∧
      ownReplaced.issues.length = 1 ∧ report.issues.length = 1) ∧
    report.fields = (streamFindings limits 2 sampleStream.markers).fields ∧
    ∃ ahead behind : Findings,
      report.fields = ahead.fields ++ own.fields ++ behind.fields ∧
      replaced.fields = ahead.fields ++ ownReplaced.fields ++ behind.fields ∧
      report.issues = (ahead.issues ++ own.issues ++ behind.issues).map ParseError.intoIssue ∧
      replaced.issues =
        (ahead.issues ++ ownReplaced.issues ++ behind.issues).map ParseError.intoIssue := by
  have unspent : (sampleReport (sampleStream.encode ++ [])).Unspent := by
    unfold ExtractionReport.Unspent
    decide +kernel
  have unspentReplaced : (sampleReport (sampleReplaced.encode ++ [])).Unspent := by
    unfold ExtractionReport.Unspent
    decide +kernel
  have whole := extractTimestampEvidence_stream (fun _ => pure ()) .default
    (presents_slice (by decide +kernel)) unspent
  exact ⟨by decide +kernel, whole.1.1, whole.2 sampleStream_split rfl brokenPayload_length
    (presents_slice (by decide +kernel)) unspentReplaced⟩

end Samples

end Guiying.Metadata
