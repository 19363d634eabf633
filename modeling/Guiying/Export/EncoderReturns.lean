import Guiying.Export.PublishRun

/-!
# When the document gets written

Whether the encoder gets through is decided by the answers of the calls alone:
nobody cancels and the clock stays before the deadline at every look, the store
hands out its pages, the records serialize, and the kernel takes every piece of
the document within the limit.
-/

namespace Guiying.Export

open Guiying.Foundation Guiying.Foundation.ByteString

/-! ## Writing pieces -/

/-- The answers that are left when the pieces have been written. -/
def answersLeft (limit : Nat) : List WriteAnswer → Nat → List (List UInt8) → List WriteAnswer
  | answers, _, [] => answers
  | answers, written, piece :: rest =>
      answersLeft limit (writeAllFrom limit answers written piece).writes
        (written + piece.length) rest

/-- Every piece is taken in full, within the limit. -/
def TakesAll (limit : Nat) : List WriteAnswer → Nat → List (List UInt8) → Prop
  | _, _, [] => True
  | answers, written, piece :: rest =>
      (writeAllFrom limit answers written piece).outcome = .ok ⟨⟩ ∧
        TakesAll limit (writeAllFrom limit answers written piece).writes
          (written + piece.length) rest

theorem answersLeft_append (limit : Nat) (answers : List WriteAnswer) (written : Nat)
    (first second : List (List UInt8)) :
    answersLeft limit answers written (first ++ second) =
      answersLeft limit (answersLeft limit answers written first)
        (written + first.flatten.length) second := by
  induction first generalizing answers written with
  | nil => rfl
  | cons piece rest ih =>
      rw [List.cons_append, answersLeft, answersLeft, ih, List.flatten_cons, List.length_append,
        Nat.add_assoc]

theorem takesAll_append (limit : Nat) (answers : List WriteAnswer) (written : Nat)
    (first second : List (List UInt8)) :
    TakesAll limit answers written (first ++ second) ↔
      TakesAll limit answers written first ∧
        TakesAll limit (answersLeft limit answers written first)
          (written + first.flatten.length) second := by
  induction first generalizing answers written with
  | nil => simp [TakesAll, answersLeft]
  | cons piece rest ih =>
      rw [List.cons_append, TakesAll, TakesAll, answersLeft, ih, List.flatten_cons,
        List.length_append, Nat.add_assoc, and_assoc]

/-- The kernel takes every piece in full: no call fails or takes nothing while a piece is open.
A call beyond the listed answers takes what it is handed. -/
inductive KernelTakes : List WriteAnswer → List (List UInt8) → Prop where
  | done (answers : List WriteAnswer) : KernelTakes answers []
  | unlisted (pieces : List (List UInt8)) : KernelTakes [] pieces
  | next {answers : List WriteAnswer} {pieces : List (List UInt8)}
      (rest : KernelTakes answers pieces) : KernelTakes answers ([] :: pieces)
  | interrupted {answers : List WriteAnswer} {piece : List UInt8} {pieces : List (List UInt8)}
      (left : piece ≠ []) (later : KernelTakes answers (piece :: pieces)) :
      KernelTakes (.interrupted :: answers) (piece :: pieces)
  | wrote {answers : List WriteAnswer} {piece : List UInt8} {pieces : List (List UInt8)}
      {count : Nat} (left : piece ≠ []) (positive : 0 < count)
      (later : KernelTakes answers (piece.drop count :: pieces)) :
      KernelTakes (.wrote count :: answers) (piece :: pieces)

section Kernel

variable {answers : List WriteAnswer} {piece : List UInt8} {pieces : List (List UInt8)}
  {count limit written : Nat}

theorem kernelTakes_nil_cons : KernelTakes answers ([] :: pieces) ↔ KernelTakes answers pieces := by
  constructor
  · intro takes
    cases takes with
    | unlisted => exact .unlisted pieces
    | next rest => exact rest
    | interrupted left => exact absurd rfl left
    | wrote left => exact absurd rfl left
  · exact .next

theorem kernelTakes_interrupted (left : piece ≠ []) :
    KernelTakes (.interrupted :: answers) (piece :: pieces) ↔
      KernelTakes answers (piece :: pieces) := by
  constructor
  · intro takes
    cases takes with
    | next => exact absurd rfl left
    | interrupted _ later => exact later
  · exact .interrupted left

theorem kernelTakes_wrote (left : piece ≠ []) :
    KernelTakes (.wrote count :: answers) (piece :: pieces) ↔
      0 < count ∧ KernelTakes answers (piece.drop count :: pieces) := by
  constructor
  · intro takes
    cases takes with
    | next => exact absurd rfl left
    | wrote _ positive later => exact ⟨positive, later⟩
  · rintro ⟨positive, later⟩
    exact .wrote left positive later

theorem not_kernelTakes_failed (left : piece ≠ []) :
    ¬ KernelTakes (.failed :: answers) (piece :: pieces) := by
  intro takes
  cases takes with
  | next => exact left rfl

/-- A piece within the limit is taken exactly when `write_all` returns on it. -/
theorem kernelTakes_cons_iff (within : written + piece.length ≤ limit) :
    KernelTakes answers (piece :: pieces) ↔
      (writeAllFrom limit answers written piece).outcome = .ok ⟨⟩ ∧
        KernelTakes (writeAllFrom limit answers written piece).writes pieces := by
  fun_induction writeAllFrom limit answers written piece with
  | case1 => exact kernelTakes_nil_cons.trans (and_iff_right rfl).symm
  | case2 _ _ _ beyond => exact absurd within (Nat.not_le.mpr beyond)
  | case3 => exact iff_of_true (.unlisted _) ⟨rfl, .unlisted _⟩
  | case4 _ _ _ _ _ beyond => exact absurd within (Nat.not_le.mpr beyond)
  | case5 _ _ _ left _ ih => rw [kernelTakes_interrupted left, ih within]
  | case6 _ _ _ left =>
      refine iff_of_false (not_kernelTakes_failed left) ?_
      rintro ⟨impossible, _⟩
      cases impossible
  | case7 _ _ buffer left _ count taken nothing =>
      have zero : count = 0 := (List.take_eq_nil_iff.mp nothing).resolve_right left
      rw [kernelTakes_wrote left, zero]
      refine iff_of_false (fun takes => absurd takes.1 (Nat.lt_irrefl 0)) ?_
      rintro ⟨impossible, _⟩
      cases impossible
  | case8 _ _ buffer left _ count taken something after ih =>
      have positive : 0 < count := by
        rw [Nat.pos_iff_ne_zero]
        rintro rfl
        exact something List.take_zero
      have split : taken.length + (buffer.drop count).length = buffer.length := by
        rw [← List.length_append, List.take_append_drop]
      rw [kernelTakes_wrote left, ih (by omega), and_iff_right positive]

/-- The pieces get written exactly when they stay within the limit and the kernel takes them. -/
theorem takesAll_iff (start : written ≤ limit) :
    TakesAll limit answers written pieces ↔
      written + pieces.flatten.length ≤ limit ∧ KernelTakes answers pieces := by
  induction pieces generalizing answers written with
  | nil => exact iff_of_true trivial ⟨start, .done answers⟩
  | cons piece rest ih =>
      rw [TakesAll, List.flatten_cons, List.length_append, ← Nat.add_assoc]
      constructor
      · rintro ⟨done, later⟩
        have within := writeAllFrom_within start done
        obtain ⟨fits, takes⟩ := (ih within).mp later
        exact ⟨fits, (kernelTakes_cons_iff within).mpr ⟨done, takes⟩⟩
      · rintro ⟨fits, takes⟩
        have within : written + piece.length ≤ limit := by omega
        obtain ⟨done, later⟩ := (kernelTakes_cons_iff within).mp takes
        exact ⟨done, (ih within).mpr ⟨fits, later⟩⟩

end Kernel

/-- A run that nobody has cancelled so far. -/
def World.quiet (directory : Directory) (look : Nat) (writes : List WriteAnswer) : World :=
  ⟨directory, .new, look, writes⟩

theorem holding_quiet (base : Directory) (file : Inode) (body : List UInt8) (look : Nat)
    (writes : List WriteAnswer) :
    Holding base file body (.quiet (base.append file body) look writes) :=
  ⟨rfl, CancelHistory.consistent_new, rfl⟩

section Writer

variable (directory : Directory) (look : Nat) (writes : List WriteAnswer)

theorem returnsWhen_writeAll (writer : CountingWriter) (buffer : List UInt8) :
    Program.ReturnsWhen
      ((writeAllFrom writer.limit writes writer.written buffer).outcome = .ok ⟨⟩)
      (writer.writeAll buffer) (.quiet directory look writes)
      (fun after world => after = { writer with written := writer.written + buffer.length } ∧
        world = .quiet (directory.append writer.inner buffer) look
          (writeAllFrom writer.limit writes writer.written buffer).writes) := by
  cases done : (writeAllFrom writer.limit writes writer.written buffer).outcome with
  | ok _ =>
      have ran : writer.writeAll buffer (.quiet directory look writes) =
          (.ok { writer with written := writer.written + buffer.length },
            .quiet (directory.append writer.inner buffer) look
              (writeAllFrom writer.limit writes writer.written buffer).writes) := by
        unfold CountingWriter.writeAll World.quiet
        dsimp only
        rw [done, writeAllFrom_bytes done]
      exact .of_ok ran rfl ⟨rfl, rfl⟩
  | error error =>
      have ran : writer.writeAll buffer (.quiet directory look writes) =
          (.error error, .quiet (directory.append writer.inner
            (writeAllFrom writer.limit writes writer.written buffer).bytes) look
            (writeAllFrom writer.limit writes writer.written buffer).writes) := by
        unfold CountingWriter.writeAll World.quiet
        dsimp only
        rw [done]
      refine .of_error ran ?_
      intro impossible
      cases impossible

theorem returnsWhen_writePieces (writer : CountingWriter) (pieces : List (List UInt8)) :
    Program.ReturnsWhen (TakesAll writer.limit writes writer.written pieces)
      (writer.writePieces pieces) (.quiet directory look writes)
      (fun after world =>
        after = { writer with written := writer.written + pieces.flatten.length } ∧
        world = .quiet (directory.append writer.inner pieces.flatten) look
          (answersLeft writer.limit writes writer.written pieces)) := by
  induction pieces generalizing directory writes writer with
  | nil =>
      refine .pure trivial ⟨rfl, ?_⟩
      rw [List.flatten_nil, Directory.append_nil]
      rfl
  | cons piece rest ih =>
      refine (returnsWhen_writeAll directory look writes writer piece).bind And.left ?_
      rintro after world taken ⟨rfl, rfl⟩
      have later := ih (directory.append writer.inner piece)
        (writeAllFrom writer.limit writes writer.written piece).writes
        { writer with written := writer.written + piece.length }
      rw [List.flatten_cons, List.length_append, ← Nat.add_assoc, ← Directory.append_append]
      exact later.congr (and_iff_right taken).symm

end Writer

/-! ## Looks at the cancellation -/

/-- Nobody cancels and the deadline is ahead at `count` looks from `look` on. -/
def Calls.QuietFrom (calls : Calls) (look count : Nat) : Prop :=
  ∀ index < count, calls.cancels (look + index) = 0 ∧ calls.expired (look + index) = false

theorem Calls.quietFrom_zero (calls : Calls) (look : Nat) : calls.QuietFrom look 0 :=
  fun _ impossible => absurd impossible (Nat.not_lt_zero _)

theorem Calls.quietFrom_add (calls : Calls) (look first second : Nat) :
    calls.QuietFrom look (first + second) ↔
      calls.QuietFrom look first ∧ calls.QuietFrom (look + first) second := by
  constructor
  · intro quiet
    refine ⟨fun index inside => quiet index (by omega), fun index inside => ?_⟩
    rw [Nat.add_assoc]
    exact quiet (first + index) (by omega)
  · rintro ⟨before, behind⟩ index inside
    by_cases early : index < first
    · exact before index early
    · have later := behind (index - first) (by omega)
      rwa [show look + first + (index - first) = look + index by omega] at later

theorem returnsWhen_check (calls : Calls) (directory : Directory) (look : Nat)
    (writes : List WriteAnswer) :
    Program.ReturnsWhen (calls.QuietFrom look 1) (check calls) (.quiet directory look writes)
      (fun _ world => world = .quiet directory (look + 1) writes) := by
  have one : calls.QuietFrom look 1 ↔
      calls.cancels look = 0 ∧ calls.expired look = false := by
    constructor
    · exact fun quiet => quiet 0 Nat.one_pos
    · intro quiet index inside
      obtain rfl : index = 0 := by omega
      exact quiet
  have flag := @CancelHistory.cancels_cancelled .new rfl (calls.cancels look)
  have ran : check calls (.quiet directory look writes) =
      if (CancelHistory.new.cancels (calls.cancels look)).cells.cancelled then
        (.error .cancelled, (World.quiet directory look writes).arrive calls.cancels)
      else if calls.expired look then
        (.error .deadline, (World.quiet directory look writes).arrive calls.cancels)
      else (.ok ⟨⟩, (World.quiet directory look writes).arrive calls.cancels) := rfl
  rw [flag] at ran
  refine Program.ReturnsWhen.congr ?_ one.symm
  by_cases none : calls.cancels look = 0
  · cases late : calls.expired look with
    | false =>
        rw [none, late] at ran
        refine .of_ok ran ⟨none, rfl⟩ ?_
        unfold World.quiet World.arrive
        rw [none]
        rfl
    | true =>
        rw [none, late] at ran
        refine .of_error ran ?_
        rintro ⟨_, impossible⟩
        cases impossible
  · have some : (calls.cancels look != 0) = true := by simpa using none
    rw [some] at ran
    exact .of_error ran fun quiet => none quiet.1

/-! ## Records -/

/-- The pieces of the records from a sequence number on. -/
def recordsPieces (format : ExportFormat) (request : HistoryExportRequest) :
    Nat → List (List UInt8) → List (List UInt8)
  | _, [] => []
  | sequence, record :: rest =>
      recordPieces format request (sequence = 0) sequence record ++
        recordsPieces format request (sequence + 1) rest

theorem recordsPieces_append (format : ExportFormat) (request : HistoryExportRequest)
    (sequence : Nat) (first second : List (List UInt8)) :
    recordsPieces format request sequence (first ++ second) =
      recordsPieces format request sequence first ++
        recordsPieces format request (sequence + first.length) second := by
  induction first generalizing sequence with
  | nil => rfl
  | cons record rest ih =>
      rw [List.cons_append, recordsPieces, recordsPieces, ih, List.append_assoc, List.length_cons,
        Nat.add_assoc, Nat.add_comm 1]

theorem openDocument_append_records (format : ExportFormat) (request : HistoryExportRequest)
    (canonical more : List (List UInt8)) :
    openDocument format request (canonical ++ more) =
      openDocument format request canonical ++
        (recordsPieces format request canonical.length more).flatten := by
  induction more generalizing canonical with
  | nil => simp [recordsPieces]
  | cons record rest ih =>
      have step := ih (canonical ++ [record])
      rw [List.append_assoc, List.singleton_append] at step
      rw [step, openDocument_append, recordsPieces, List.flatten_append, List.append_assoc,
        List.length_append, List.length_singleton]

/-- All pieces of the document of the canonical records. -/
def documentPieces (blake3 : List UInt8 → List UInt8) (format : ExportFormat)
    (request : HistoryExportRequest) (canonical : List (List UInt8)) : List (List UInt8) :=
  manifestPieces format request ++ recordsPieces format request 0 canonical ++
    integrityPieces format request (logicalDigest blake3 request canonical) canonical.length

/-- CSV takes only records that are valid UTF-8. -/
def RecordsFit (format : ExportFormat) (records : List (List UInt8)) : Prop :=
  ∀ record ∈ records, format = .csv → Utf8.valid record = true

section Encoder

variable {base : Directory} {file : Inode} {format : ExportFormat}
  {request : HistoryExportRequest} {expected limit : Nat}

/-- The encoder stands behind `canonical`, writing up to `limit`. -/
structure EncodedWithin (file : Inode) (format : ExportFormat) (request : HistoryExportRequest)
    (expected limit : Nat) (canonical : List (List UInt8)) (encoder : ExportEncoder) : Prop where
  encoded : Encoded file format request expected canonical encoder
  limited : encoder.writer.limit = limit

/-- The encoder and a quiet run agree on what has been written. -/
def QuietEncoding (base : Directory) (file : Inode) (format : ExportFormat)
    (request : HistoryExportRequest) (expected limit : Nat) (canonical : List (List UInt8))
    (look : Nat) (writes : List WriteAnswer) (encoder : ExportEncoder) (world : World) : Prop :=
  EncodedWithin file format request expected limit canonical encoder ∧
    world = .quiet (base.append file (openDocument format request canonical)) look writes

/-- The encoder's own record of what it has written comes from its triple. -/
theorem returnsWhen_quietEncoding {condition : Prop} {program : ExportM ExportEncoder}
    {body : List UInt8} {before look : Nat} {writes left : List WriteAnswer}
    {canonical : List (List UInt8)} {bad : ExportTargetError → World → Prop}
    (meets : Program.Meets (Holding base file body) program
      (Encoding base file format request expected canonical) bad)
    (runs : Program.ReturnsWhen condition program (.quiet (base.append file body) before writes)
      (fun encoder world => encoder.writer.limit = limit ∧
        world = .quiet (base.append file (openDocument format request canonical)) look left)) :
    Program.ReturnsWhen condition program (.quiet (base.append file body) before writes)
      (QuietEncoding base file format request expected limit canonical look left) := by
  have both := runs.and_meets meets (holding_quiet base file body before writes)
  refine ⟨both.returns, fun value after ran => (both.only value after ran).imp_right ?_⟩
  rintro ⟨⟨limited, world⟩, encoding⟩
  exact ⟨⟨encoding.1, limited⟩, world⟩

theorem returnsWhen_begin (look : Nat) (writes : List WriteAnswer) :
    Program.ReturnsWhen (TakesAll limit writes 0 (manifestPieces format request))
      (ExportEncoder.begin file format request expected limit)
      (.quiet (base.append file []) look writes)
      (QuietEncoding base file format request expected limit [] look
        (answersLeft limit writes 0 (manifestPieces format request))) := by
  refine returnsWhen_quietEncoding (meets_begin limit) ?_
  refine (returnsWhen_writePieces (base.append file []) look writes ⟨file, 0, limit⟩
    (manifestPieces format request)).bind id ?_
  rintro writer world taken ⟨rfl, rfl⟩
  refine .pure taken ⟨rfl, ?_⟩
  rw [Directory.append_append, List.nil_append]
  exact congrArg (fun body => World.quiet (base.append file body) look _)
    (List.append_nil _).symm

/-- There is room for the records `more` behind `canonical`, and the kernel takes their pieces. -/
structure TakesRecords (format : ExportFormat) (request : HistoryExportRequest)
    (expected limit : Nat) (writes : List WriteAnswer) (canonical more : List (List UInt8)) :
    Prop where
  room : canonical.length + more.length ≤ expected
  fit : RecordsFit format more
  taken : TakesAll limit writes (openDocument format request canonical).length
    (recordsPieces format request canonical.length more)

/-- The answers that are left behind the records `more`. -/
def answersBehind (format : ExportFormat) (request : HistoryExportRequest) (limit : Nat)
    (writes : List WriteAnswer) (canonical more : List (List UInt8)) : List WriteAnswer :=
  answersLeft limit writes (openDocument format request canonical).length
    (recordsPieces format request canonical.length more)

theorem openDocument_length_append (canonical more : List (List UInt8)) :
    (openDocument format request (canonical ++ more)).length =
      (openDocument format request canonical).length +
        (recordsPieces format request canonical.length more).flatten.length := by
  rw [openDocument_append_records, List.length_append]

theorem answersBehind_append (writes : List WriteAnswer) (canonical first second : List (List UInt8)) :
    answersBehind format request limit writes canonical (first ++ second) =
      answersBehind format request limit
        (answersBehind format request limit writes canonical first) (canonical ++ first) second := by
  unfold answersBehind
  rw [recordsPieces_append, answersLeft_append, openDocument_length_append, List.length_append]

theorem takesRecords_append (writes : List WriteAnswer)
    (canonical first second : List (List UInt8)) :
    TakesRecords format request expected limit writes canonical (first ++ second) ↔
      TakesRecords format request expected limit writes canonical first ∧
        TakesRecords format request expected limit
          (answersBehind format request limit writes canonical first) (canonical ++ first)
          second := by
  have pieces : TakesAll limit writes (openDocument format request canonical).length
      (recordsPieces format request canonical.length (first ++ second)) ↔
        TakesAll limit writes (openDocument format request canonical).length
            (recordsPieces format request canonical.length first) ∧
          TakesAll limit (answersBehind format request limit writes canonical first)
            (openDocument format request (canonical ++ first)).length
            (recordsPieces format request (canonical ++ first).length second) := by
    rw [recordsPieces_append, takesAll_append, openDocument_length_append, List.length_append]
    rfl
  constructor
  · rintro ⟨room, fit, taken⟩
    obtain ⟨before, behind⟩ := pieces.mp taken
    rw [List.length_append] at room
    refine ⟨⟨by omega, fun record member => fit record (List.mem_append_left _ member), before⟩,
      ⟨?_, fun record member => fit record (List.mem_append_right _ member), behind⟩⟩
    rw [List.length_append]
    omega
  · rintro ⟨before, behind⟩
    refine ⟨?_, fun record member => ?_, pieces.mpr ⟨before.taken, behind.taken⟩⟩
    · have room := behind.room
      rw [List.length_append] at room ⊢
      omega
    · rcases List.mem_append.mp member with early | late
      · exact before.fit record early
      · exact behind.fit record late

theorem takesRecords_nil {writes : List WriteAnswer} {canonical : List (List UInt8)}
    (within : canonical.length ≤ expected) :
    TakesRecords format request expected limit writes canonical [] :=
  ⟨within, (fun _ member => nomatch member), trivial⟩

theorem returnsWhen_writeRecord {canonical : List (List UInt8)} {encoder : ExportEncoder}
    (encoded : EncodedWithin file format request expected limit canonical encoder)
    (small : expected < 2 ^ 32) (look : Nat) (writes : List WriteAnswer) (record : List UInt8) :
    Program.ReturnsWhen (TakesRecords format request expected limit writes canonical [record])
      (encoder.writeRecord (some record))
      (.quiet (base.append file (openDocument format request canonical)) look writes)
      (QuietEncoding base file format request expected limit (canonical ++ [record]) look
        (answersBehind format request limit writes canonical [record])) := by
  refine returnsWhen_quietEncoding ((meets_writeRecord encoded.encoded (some record)).consequence
    (fun _ holds => holds) ?_ (fun _ _ holds => holds)) ?_
  · rintro after world ⟨_, ⟨⟩, encoding⟩
    exact encoding
  obtain ⟨⟨rfl, written, rfl, rfl, rfl, count, first, _⟩, rfl⟩ := encoded
  have pieces : recordPieces encoder.format encoder.request encoder.firstJsonRecord
      encoder.recordCount record = recordsPieces encoder.format encoder.request
        canonical.length [record] := by
    rw [count, recordPieces_congr first]
    exact (List.append_nil _).symm
  refine Program.ReturnsWhen.ensure_bind (fun fits => ?_) fun room => ?_
  · simpa [count] using fits.room
  have room : canonical.length + 1 ≤ encoder.expectedRecords := by simpa [count] using room
  refine Program.ReturnsWhen.orFail_bind (fun _ => rfl) ?_
  rintro _ ⟨⟩
  refine Program.ReturnsWhen.ensure_bind (fun fits => ?_) fun valid => ?_
  · cases format : encoder.format with
    | csv => simpa using fits.fit record (List.mem_singleton_self _) format
    | json => rfl
  have fit : RecordsFit encoder.format [record] := by
    intro other member csv
    rw [List.mem_singleton.mp member]
    simpa [csv] using valid
  rw [pieces]
  refine (returnsWhen_writePieces _ look writes encoder.writer _).bind (fun fits => ?_) ?_
  · exact written ▸ fits.taken
  rintro writer world taken ⟨rfl, rfl⟩
  rw [written] at taken
  refine Program.ReturnsWhen.ensure_bind (fun _ => ?_) fun _ => ?_
  · rw [count]
    exact decide_eq_true (by omega)
  · refine .pure ⟨room, fit, taken⟩ ⟨rfl, ?_⟩
    rw [Directory.append_append, openDocument_append_records, written]
    rfl

theorem returnsWhen_finish {canonical : List (List UInt8)} {encoder : ExportEncoder}
    (encoded : EncodedWithin file format request expected limit canonical encoder)
    (blake3 : List UInt8 → List UInt8) (flushed : Bool) (look : Nat) (writes : List WriteAnswer) :
    Program.ReturnsWhen (canonical.length = expected ∧
        TakesAll limit writes (openDocument format request canonical).length
          (integrityPieces format request (logicalDigest blake3 request canonical)
            canonical.length) ∧ flushed = true)
      (encoder.finish blake3 flushed)
      (.quiet (base.append file (openDocument format request canonical)) look writes)
      (fun _ world => ∃ left,
        world = .quiet (base.append file (document blake3 format request canonical)) look left) := by
  obtain ⟨⟨rfl, written, rfl, rfl, rfl, count, _, hashed⟩, rfl⟩ := encoded
  refine Program.ReturnsWhen.ensure_bind (fun fits => by simpa [count] using fits.1) ?_
  intro complete
  have complete : canonical.length = encoder.expectedRecords := by simpa [count] using complete
  have digest : hex (blake3 (encoder.hashed ++
      lengthPrefixed (leBytes 4 encoder.recordCount))) =
        logicalDigest blake3 encoder.request canonical := by
    unfold logicalDigest
    rw [hashed, complete, count, complete]
  dsimp only
  rw [digest, count]
  refine (returnsWhen_writePieces _ look writes encoder.writer _).bind (fun fits => ?_) ?_
  · exact written ▸ fits.2.1
  rintro writer world taken ⟨rfl, rfl⟩
  refine Program.ReturnsWhen.ensure_bind (fun fits => fits.2.2) fun flushes => ?_
  refine .pure ⟨complete, written ▸ taken, flushes⟩ ?_
  rw [Directory.append_append]
  exact ⟨_, rfl⟩

end Encoder

/-! ## The snapshot -/

/-- How often the encoder looks at the cancellation for one page, after the look before it. -/
def StorePage.furtherLooks {ρ : Type} : StorePage ρ → Nat
  | .empty => 0
  | .batch records => 1 + records.length
  | .refused => 0
  | .rejected => 1

/-- The page is handed out. -/
def StorePage.handed {ρ : Type} : StorePage ρ → Bool
  | .empty => true
  | .batch _ => true
  | .refused => false
  | .rejected => false

/-- How often the encoder looks at the cancellation from the first page to the end. -/
def pagesLooks {ρ : Type} : List (StorePage ρ) → Nat
  | [] => 1
  | page :: rest => 1 + (page.furtherLooks + pagesLooks rest)

section Store

variable {ρ : Type} (toVec : ρ → Option (List UInt8)) (calls : Calls) {base : Directory}
  {file : Inode} {format : ExportFormat} {request : HistoryExportRequest} {expected limit : Nat}

theorem returnsWhen_writeBatch (small : expected < 2 ^ 32) (records : List ρ)
    {more canonical : List (List UInt8)} (serialized : records.map toVec = more.map some)
    {encoder : ExportEncoder} (within : canonical.length ≤ expected)
    (encoded : EncodedWithin file format request expected limit canonical encoder) (look : Nat)
    (writes : List WriteAnswer) :
    Program.ReturnsWhen (calls.QuietFrom look more.length ∧
        TakesRecords format request expected limit writes canonical more)
      (writeBatch toVec calls records encoder)
      (.quiet (base.append file (openDocument format request canonical)) look writes)
      (QuietEncoding base file format request expected limit (canonical ++ more)
        (look + more.length) (answersBehind format request limit writes canonical more)) := by
  induction records generalizing more canonical encoder look writes with
  | nil =>
      obtain rfl : more = [] := by simpa using serialized.symm
      refine .pure ⟨calls.quietFrom_zero look, takesRecords_nil within⟩ ?_
      rw [List.append_nil]
      exact ⟨encoded, rfl⟩
  | cons record rest ih =>
      obtain ⟨first, others, rfl⟩ : ∃ first others, more = [first] ++ others := by
        cases more with
        | nil => cases serialized
        | cons first others => exact ⟨first, others, rfl⟩
      obtain ⟨found, serialized⟩ := List.cons.inj serialized
      refine (Program.ReturnsWhen.mapError (returnsWhen_check calls _ look writes)).bind
        (fun fits => ?_) ?_
      · rw [List.length_append, calls.quietFrom_add] at fits
        exact fits.1.1
      rintro _ _ quiet rfl
      rw [found]
      refine (Program.ReturnsWhen.mapError (returnsWhen_writeRecord encoded small (look + 1)
        writes first)).bind (fun fits => ?_) ?_
      · exact ((takesRecords_append writes canonical [first] others).mp fits.2).1
      rintro after world taken ⟨written, rfl⟩
      have room : (canonical ++ [first]).length ≤ expected := by
        rw [List.length_append]
        exact taken.room
      have later := ih serialized room written (look + 1)
        (answersBehind format request limit writes canonical [first])
      rw [List.append_assoc, ← answersBehind_append, Nat.add_assoc, Nat.add_comm 1] at later
      refine later.congr ?_
      rw [takesRecords_append, List.length_append, List.length_singleton, calls.quietFrom_add]
      exact ⟨fun fits => ⟨⟨quiet, fits.1⟩, taken, fits.2⟩, fun fits => ⟨fits.1.2, fits.2.2⟩⟩

/-- Every page is handed out. -/
def Handed (pages : List (StorePage ρ)) : Prop := ∀ page ∈ pages, page.handed = true

theorem returnsWhen_writePages (small : expected < 2 ^ 32) (pages : List (StorePage ρ))
    {more canonical : List (List UInt8)}
    (serialized : (pages.flatMap (·.records)).map toVec = more.map some)
    {encoder : ExportEncoder} (within : canonical.length ≤ expected)
    (encoded : EncodedWithin file format request expected limit canonical encoder) (look : Nat)
    (writes : List WriteAnswer) :
    Program.ReturnsWhen (Handed pages ∧ calls.QuietFrom look (pagesLooks pages) ∧
        TakesRecords format request expected limit writes canonical more)
      (writePages toVec calls pages encoder)
      (.quiet (base.append file (openDocument format request canonical)) look writes)
      (QuietEncoding base file format request expected limit (canonical ++ more)
        (look + pagesLooks pages) (answersBehind format request limit writes canonical more)) := by
  induction pages generalizing more canonical encoder look writes with
  | nil =>
      obtain rfl : more = [] := by simpa using serialized.symm
      refine (Program.ReturnsWhen.mapError (returnsWhen_check calls _ look writes)).bind
        (fun fits => fits.2.1) ?_
      rintro _ _ quiet rfl
      refine .pure ⟨(fun _ member => nomatch member), quiet, takesRecords_nil within⟩ ?_
      rw [List.append_nil]
      exact ⟨encoded, rfl⟩
  | cons page rest ih =>
      have handed : Handed (page :: rest) ↔ page.handed = true ∧ Handed rest :=
        List.forall_mem_cons
      refine (Program.ReturnsWhen.mapError (returnsWhen_check calls _ look writes)).bind
        (fun fits => ?_) ?_
      · rw [pagesLooks, calls.quietFrom_add] at fits
        exact fits.2.1.1
      rintro _ _ quiet rfl
      cases page with
      | empty =>
          have later := ih serialized within encoded (look + 1) writes
          rw [Nat.add_assoc, ← Nat.zero_add (pagesLooks rest)] at later
          refine later.congr ?_
          rw [handed, pagesLooks, StorePage.furtherLooks, Nat.zero_add, calls.quietFrom_add]
          exact ⟨fun fits => ⟨⟨rfl, fits.1⟩, ⟨quiet, fits.2.1⟩, fits.2.2⟩,
            fun fits => ⟨fits.1.2, fits.2.1.2, fits.2.2⟩⟩
      | refused => exact .fail fun fits => nomatch (handed.mp fits.1).1
      | rejected =>
          refine ⟨(fun fits => nomatch (handed.mp fits.1).1), fun value after ran => ?_⟩
          obtain ⟨_, _, _, impossible⟩ := Program.bind_eq_ok.mp ran
          exact (Program.fail_eq_ok.mp impossible).elim
      | batch records =>
          rw [List.flatMap_cons, List.map_append] at serialized
          obtain ⟨first, second, rfl, found, serialized⟩ :=
            List.map_eq_append_iff.mp serialized.symm
          have length : records.length = first.length := by
            have same := congrArg List.length found
            rw [List.length_map, List.length_map] at same
            exact same.symm
          have apart : calls.QuietFrom look (pagesLooks (.batch records :: rest)) ↔
              calls.QuietFrom look 1 ∧ calls.QuietFrom (look + 1) 1 ∧
                calls.QuietFrom (look + 2) first.length ∧
                calls.QuietFrom (look + 2 + first.length) (pagesLooks rest) := by
            rw [pagesLooks, StorePage.furtherLooks, length, Nat.add_assoc, calls.quietFrom_add,
              calls.quietFrom_add (look + 1) 1, calls.quietFrom_add (look + 1 + 1)]
          refine (Program.ReturnsWhen.mapError (returnsWhen_check calls _ (look + 1) writes)).bind
            (fun fits => (apart.mp fits.2.1).2.1) ?_
          rintro _ _ again rfl
          refine (returnsWhen_writeBatch toVec calls small records found.symm within encoded
            (look + 2) writes).bind (fun fits => ?_) ?_
          · exact ⟨(apart.mp fits.2.1).2.2.1, ((takesRecords_append _ _ _ _).mp fits.2.2).1⟩
          rintro after world ⟨peace, taken⟩ ⟨written, rfl⟩
          have room : (canonical ++ first).length ≤ expected := by
            rw [List.length_append]
            exact taken.room
          have later := ih serialized.symm room written (look + 2 + first.length)
            (answersBehind format request limit writes canonical first)
          rw [List.append_assoc, ← answersBehind_append] at later
          have ended : look + pagesLooks (.batch records :: rest) =
              look + 2 + first.length + pagesLooks rest := by
            rw [pagesLooks, StorePage.furtherLooks, length]
            omega
          rw [ended]
          refine later.congr ?_
          rw [handed, apart, takesRecords_append]
          exact ⟨fun fits => ⟨⟨rfl, fits.1⟩, ⟨quiet, again, peace, fits.2.1⟩, taken, fits.2.2⟩,
            fun fits => ⟨fits.1.2, fits.2.1.2.2.2, fits.2.2.2⟩⟩

/-- The answers by which the encoder gets the document of the records `canonical` written. -/
structure WritesDocument (blake3 : List UInt8 → List UInt8) (store : StoreRun ρ)
    (format : ExportFormat) (request : HistoryExportRequest) (look : Nat)
    (writes : List WriteAnswer) (canonical : List (List UInt8)) : Prop where
  opening : store.opening = some canonical.length
  few : canonical.length ≤ (ExportLimits.forScope request.scope).maxRecords
  handed : Handed store.pages
  serialized : store.records.map toVec = canonical.map some
  fit : RecordsFit format canonical
  short : (document blake3 format request canonical).length ≤
    (ExportLimits.forScope request.scope).maxOutputBytes
  taken : KernelTakes writes (documentPieces blake3 format request canonical)
  flushed : calls.encoderFlush = true
  closing : store.closing = true
  quiet : calls.QuietFrom look (pagesLooks store.pages)

theorem documentPieces_flatten (blake3 : List UInt8 → List UInt8) (format : ExportFormat)
    (request : HistoryExportRequest) (canonical : List (List UInt8)) :
    (documentPieces blake3 format request canonical).flatten =
      document blake3 format request canonical := by
  have records := openDocument_append_records format request [] canonical
  have opened : openDocument format request [] = (manifestPieces format request).flatten :=
    List.append_nil _
  rw [List.nil_append, opened, List.length_nil] at records
  rw [documentPieces, document, records, List.flatten_append, List.flatten_append]

theorem maxRecords_lt (scope : HistoryExportScope) :
    (ExportLimits.forScope scope).maxRecords < 2 ^ 32 := by
  cases scope <;> decide

/-- The manifest, the records and the integrity record are written one after the other. -/
theorem takesAll_document (blake3 : List UInt8 → List UInt8) (limit : Nat)
    (writes : List WriteAnswer) (canonical : List (List UInt8)) :
    (document blake3 format request canonical).length ≤ limit ∧
        KernelTakes writes (documentPieces blake3 format request canonical) ↔
      TakesAll limit writes 0 (manifestPieces format request) ∧
        TakesAll limit (answersLeft limit writes 0 (manifestPieces format request))
          (openDocument format request []).length (recordsPieces format request 0 canonical) ∧
        TakesAll limit
          (answersBehind format request limit
            (answersLeft limit writes 0 (manifestPieces format request)) [] canonical)
          (openDocument format request canonical).length
          (integrityPieces format request (logicalDigest blake3 request canonical)
            canonical.length) := by
  have opened : openDocument format request [] = (manifestPieces format request).flatten :=
    List.append_nil _
  have whole : (openDocument format request canonical).length =
      (manifestPieces format request).flatten.length +
        (recordsPieces format request 0 canonical).flatten.length := by
    rw [← opened]
    exact openDocument_length_append [] canonical
  have taken : TakesAll limit writes 0 (documentPieces blake3 format request canonical) ↔
      (document blake3 format request canonical).length ≤ limit ∧
        KernelTakes writes (documentPieces blake3 format request canonical) := by
    rw [takesAll_iff (Nat.zero_le limit), documentPieces_flatten, Nat.zero_add]
  rw [← taken]
  unfold documentPieces answersBehind
  rw [takesAll_append, takesAll_append, answersLeft_append, List.flatten_append,
    List.length_append, Nat.zero_add, Nat.zero_add, opened, whole, and_assoc]
  rfl

theorem returnsWhen_withScanHistoryExportSnapshot (blake3 : List UInt8 → List UInt8)
    (store : StoreRun ρ) {temp : OwnedTemp} (opened : temp.file = some file) (look : Nat)
    (writes : List WriteAnswer) :
    Program.ReturnsWhen
      (∃ canonical, WritesDocument toVec calls blake3 store format request look writes canonical)
      (withScanHistoryExportSnapshot toVec calls blake3 store format request temp)
      (.quiet (base.append file []) look writes)
      (fun _ world => ∃ body left,
        world = .quiet (base.append file body) (look + pagesLooks store.pages) left) := by
  by_cases serializes : ∃ canonical : List (List UInt8),
      store.records.map toVec = canonical.map some
  case neg =>
    refine ⟨fun ⟨canonical, written⟩ => absurd ⟨canonical, written.serialized⟩ serializes, ?_⟩
    intro value after ran
    obtain ⟨_, ⟨canonical, serialized, _⟩, _⟩ :=
      (meets_withScanHistoryExportSnapshot toVec calls blake3 store opened).of_ok
        (holding_quiet base file [] look writes) ran
    exact absurd ⟨canonical, serialized⟩ serializes
  obtain ⟨canonical, serialized⟩ := serializes
  have same : WritesDocument toVec calls blake3 store format request look writes canonical ↔
      ∃ canonical, WritesDocument toVec calls blake3 store format request look writes
        canonical := by
    refine ⟨fun written => ⟨canonical, written⟩, ?_⟩
    rintro ⟨other, written⟩
    have equal : other.map some = canonical.map some :=
      written.serialized.symm.trans serialized
    exact List.map_injective_iff.mpr (Option.some_injective _) equal ▸ written
  refine Program.ReturnsWhen.congr ?_ same
  refine Program.ReturnsWhen.orFail_bind (fun fits => by rw [fits.opening]; rfl) ?_
  intro expected opening
  refine Program.ReturnsWhen.ensure_bind (fun fits => ?_) fun few => ?_
  · rw [Option.some.inj (opening.symm.trans fits.opening)]
    exact decide_eq_true fits.few
  have few := of_decide_eq_true few
  have small : expected < 2 ^ 32 := Nat.lt_of_le_of_lt few (maxRecords_lt request.scope)
  rw [opened]
  refine Program.ReturnsWhen.orFail_bind (fun _ => rfl) ?_
  rintro _ ⟨⟩
  refine (Program.ReturnsWhen.mapError (returnsWhen_begin look writes)).bind (fun fits => ?_) ?_
  · exact ((takesAll_document blake3 _ writes canonical).mp ⟨fits.short, fits.taken⟩).1
  rintro encoder world manifest ⟨encoded, rfl⟩
  refine (returnsWhen_writePages toVec calls small store.pages serialized (Nat.zero_le _) encoded
    look _).bind (fun fits => ?_) ?_
  · refine ⟨fits.handed, fits.quiet, ?_, fits.fit,
      ((takesAll_document blake3 _ writes canonical).mp ⟨fits.short, fits.taken⟩).2.1⟩
    rw [Option.some.inj (opening.symm.trans fits.opening)]
    exact Nat.le_of_eq (Nat.zero_add _)
  rintro encoder world ⟨handed, quiet, records⟩ ⟨encoded, rfl⟩
  rw [List.nil_append] at encoded
  refine (Program.ReturnsWhen.mapError (returnsWhen_finish encoded blake3 calls.encoderFlush _
    _)).bind (fun fits => ?_) ?_
  · refine ⟨Option.some.inj (fits.opening.symm.trans opening), ?_, fits.flushed⟩
    exact ((takesAll_document blake3 _ writes canonical).mp ⟨fits.short, fits.taken⟩).2.2
  rintro result world ⟨count, integrity, flushed⟩ ⟨left, rfl⟩
  subst count
  refine Program.ReturnsWhen.ensure_bind (fun fits => fits.closing) fun closing => ?_
  refine .pure ?_ ⟨_, _, rfl⟩
  obtain ⟨short, taken⟩ :=
    (takesAll_document blake3 _ writes canonical).mpr ⟨manifest, records.taken, integrity⟩
  exact ⟨opening, few, handed, serialized, records.fit, short, taken, flushed, closing, quiet⟩

end Store

end Guiying.Export
