import Guiying.Foundation.ByteString

/-!
# Comma-separated values

A document is a sequence of rows that end in CR LF, a row is fields with commas
between them, and a field with a comma, a quote, a CR or an LF inside stands
between quotes with its quotes doubled. The reader goes over the bytes once.
-/

namespace Guiying.Foundation.Csv

abbrev Row := List (List UInt8)

def comma : UInt8 := 44

def mark : UInt8 := 34

def carriageReturn : UInt8 := 13

def lineFeed : UInt8 := 10

/-- The bytes an unquoted field has none of. -/
def special : List UInt8 := [comma, mark, carriageReturn, lineFeed]

def doubled (byte : UInt8) : List UInt8 := if byte = mark then [mark, mark] else [byte]

def field (value : List UInt8) : List UInt8 :=
  if value.any (· ∈ special) then mark :: value.flatMap doubled ++ [mark] else value

def row (fields : Row) : List UInt8 :=
  [comma].intercalate (fields.map field) ++ [carriageReturn, lineFeed]

def document (rows : List Row) : List UInt8 := rows.flatMap row

/-! ## Reading -/

/-- Where a reader stands in a field: nothing of it is read, it is unquoted, it is inside its
quotes, a quote inside them has just been read, or the CR after it has. -/
inductive Place where
  | start
  | bare
  | quoted
  | closing
  | ending
  deriving DecidableEq, Repr

structure Reader where
  place : Place
  value : List UInt8
  fields : Row
  rows : List Row
  deriving DecidableEq, Repr

namespace Reader

/-- Nothing of the row is read. -/
def between (rows : List Row) : Reader := ⟨.start, [], [], rows⟩

def nextField (reader : Reader) : Reader := ⟨.start, [], reader.fields ++ [reader.value], reader.rows⟩

def nextRow (reader : Reader) : Reader :=
  .between (reader.rows ++ [reader.fields ++ [reader.value]])

def take (reader : Reader) (place : Place) (byte : UInt8) : Reader :=
  { reader with place := place, value := reader.value ++ [byte] }

/-- A byte where the field may end. -/
def close (reader : Reader) (byte : UInt8) : Option Reader :=
  if byte = comma then some reader.nextField
  else if byte = carriageReturn then some { reader with place := .ending }
  else none

def step (reader : Reader) (byte : UInt8) : Option Reader :=
  match reader.place with
  | .start =>
      if byte = mark then some { reader with place := .quoted }
      else if byte ∈ special then reader.close byte
      else some (reader.take .bare byte)
  | .bare => if byte ∈ special then reader.close byte else some (reader.take .bare byte)
  | .quoted =>
      if byte = mark then some { reader with place := .closing }
      else some (reader.take .quoted byte)
  | .closing => if byte = mark then some (reader.take .quoted byte) else reader.close byte
  | .ending => if byte = lineFeed then some reader.nextRow else none

def run (reader : Reader) (bytes : List UInt8) : Option Reader := bytes.foldlM step reader

/-- The rows at the end of the bytes; the last row needs no line end. -/
def finish (reader : Reader) : Option (List Row) :=
  match reader.place with
  | .quoted | .ending => none
  | .start =>
      if reader.fields = [] then some reader.rows
      else some (reader.rows ++ [reader.fields ++ [reader.value]])
  | .bare | .closing => some (reader.rows ++ [reader.fields ++ [reader.value]])

end Reader

def read (bytes : List UInt8) : Option (List Row) := (Reader.between []).run bytes >>= Reader.finish

/-! ## Reading what was written -/

namespace Reader

variable {reader : Reader} {value fields rows : List (List UInt8)}

@[simp] theorem run_cons (reader : Reader) (byte : UInt8) (bytes : List UInt8) :
    reader.run (byte :: bytes) = (reader.step byte).bind fun after => after.run bytes := rfl

theorem run_append (reader : Reader) (first second : List UInt8) :
    reader.run (first ++ second) = (reader.run first).bind fun after => after.run second :=
  List.foldlM_append

/-- A field may end here. -/
def Complete (reader : Reader) : Prop :=
  reader.place = .start ∨ reader.place = .bare ∨ reader.place = .closing

theorem Complete.step_comma (complete : reader.Complete) :
    reader.step comma = some reader.nextField := by
  rcases complete with place | place | place <;> (unfold step; rw [place]; rfl)

theorem Complete.run_lineEnd (complete : reader.Complete) :
    reader.run [carriageReturn, lineFeed] = some reader.nextRow := by
  have ended : reader.step carriageReturn = some { reader with place := .ending } := by
    rcases complete with place | place | place <;> (unfold step; rw [place]; rfl)
  rw [run_cons, ended]
  rfl

/-- Inside the quotes every byte is read as it was meant. -/
theorem run_doubled (reader : Reader) (place : reader.place = .quoted) (byte : UInt8) :
    reader.run (doubled byte) = some (reader.take .quoted byte) := by
  unfold doubled
  split
  case isTrue isMark =>
    subst isMark
    rw [run_cons, step, place]
    rfl
  case isFalse other =>
    rw [run_cons, step, place]
    dsimp only
    rw [if_neg other]
    rfl

theorem run_quoted (value : List UInt8) (reader : Reader) (place : reader.place = .quoted) :
    reader.run (value.flatMap doubled) = some { reader with value := reader.value ++ value } := by
  induction value generalizing reader with
  | nil =>
      rw [List.append_nil]
      rfl
  | cons byte value ih =>
      rw [List.flatMap_cons, run_append, run_doubled reader place byte, Option.bind_some,
        ih (reader.take .quoted byte) rfl]
      simp [take, place]

theorem run_bare (value : List UInt8) (plain : ∀ byte ∈ value, byte ∉ special) (reader : Reader)
    (place : reader.place = .bare) :
    reader.run value = some { reader with value := reader.value ++ value } := by
  induction value generalizing reader with
  | nil =>
      rw [List.append_nil]
      rfl
  | cons byte value ih =>
      rw [run_cons, step, place]
      dsimp only
      rw [if_neg (plain byte List.mem_cons_self), Option.bind_some,
        ih (fun other inside => plain other (List.mem_cons_of_mem byte inside))
          (reader.take .bare byte) rfl]
      simp [take]

/-- After a field is written, the reader holds its value and may go on. -/
theorem run_field (value : List UInt8) (fields : Row) (rows : List Row) :
    ∃ place, (Reader.mk .start [] fields rows).run (field value) =
      some ⟨place, value, fields, rows⟩ ∧ (Reader.mk place value fields rows).Complete := by
  unfold field
  split
  case isTrue _ =>
    refine ⟨.closing, ?_, .inr (.inr rfl)⟩
    rw [List.cons_append, run_cons]
    change (Reader.mk .quoted [] fields rows).run (value.flatMap doubled ++ [mark]) = _
    rw [run_append, run_quoted value _ rfl, List.nil_append]
    rfl
  case isFalse plain =>
    have plain : ∀ byte ∈ value, byte ∉ special := by simpa using plain
    cases value with
    | nil => exact ⟨.start, rfl, .inl rfl⟩
    | cons byte value =>
        have ordinary := plain byte List.mem_cons_self
        have notMark : byte ≠ mark := by
          rintro rfl
          exact ordinary (by decide)
        refine ⟨.bare, ?_, .inr (.inl rfl)⟩
        rw [run_cons, step]
        dsimp only
        rw [if_neg notMark, if_neg ordinary, Option.bind_some,
          run_bare value (fun other inside => plain other (List.mem_cons_of_mem byte inside)) _ rfl]
        rfl

theorem run_row (first : List UInt8) (others before : Row) (rows : List Row) :
    (Reader.mk .start [] before rows).run (row (first :: others)) =
      some (.between (rows ++ [before ++ first :: others])) := by
  induction others generalizing first before with
  | nil =>
      obtain ⟨place, ran, complete⟩ := run_field first before rows
      have single : row [first] = field first ++ [carriageReturn, lineFeed] := by
        simp [row, List.intercalate]
      rw [single, run_append, ran, Option.bind_some, complete.run_lineEnd]
      rfl
  | cons second others ih =>
      obtain ⟨place, ran, complete⟩ := run_field first before rows
      have split : row (first :: second :: others) = field first ++ comma :: row (second :: others) := by
        simp [row, List.intercalate]
      rw [split, run_append, ran, Option.bind_some, run_cons, complete.step_comma, Option.bind_some]
      change (Reader.mk .start [] (before ++ [first]) rows).run _ = _
      rw [ih second (before ++ [first]), List.append_assoc]
      rfl

theorem run_document (written : List Row) (named : ∀ fields ∈ written, fields ≠ [])
    (rows : List Row) :
    (between rows).run (document written) = some (between (rows ++ written)) := by
  induction written generalizing rows with
  | nil =>
      rw [List.append_nil]
      rfl
  | cons fields written ih =>
      cases fields with
      | nil => exact absurd rfl (named [] List.mem_cons_self)
      | cons first others =>
          have ran := run_row first others [] rows
          rw [List.nil_append] at ran
          rw [document, List.flatMap_cons, run_append, between, ran, Option.bind_some, ← document,
            ih (fun other inside => named other (List.mem_cons_of_mem _ inside)), List.append_assoc]
          rfl

end Reader

/-- A document is read back whatever bytes its fields hold. -/
theorem read_document (rows : List Row) (named : ∀ fields ∈ rows, fields ≠ []) :
    read (document rows) = some rows := by
  unfold read
  rw [Reader.run_document rows named, List.nil_append]
  rfl

/-! ## Sizes -/

theorem length_le_field (value : List UInt8) : value.length ≤ (field value).length := by
  have each : value.length ≤ (value.flatMap doubled).length := by
    induction value with
    | nil => exact Nat.le_refl 0
    | cons byte value ih =>
        have one : 1 ≤ (doubled byte).length := by
          unfold doubled
          split <;> exact Nat.le_add_left 1 _
        rw [List.flatMap_cons, List.length_append, List.length_cons]
        omega
  unfold field
  split
  case isTrue _ =>
    rw [List.length_append, List.length_cons]
    omega
  case isFalse _ => exact Nat.le_refl _

theorem length_le_row {value : List UInt8} {fields : Row} (inside : value ∈ fields) :
    value.length ≤ (row fields).length := by
  have within : (field value).length ≤ ([comma].intercalate (fields.map field)).length := by
    induction fields with
    | nil => exact absurd inside List.not_mem_nil
    | cons first others ih =>
        cases others with
        | nil =>
            rw [List.mem_singleton] at inside
            rw [List.map_singleton, List.intercalate_singleton, inside]
        | cons second others =>
            rw [List.map_cons, List.map_cons, List.intercalate_cons_cons, List.length_append,
              List.length_append, ← List.map_cons]
            rcases List.mem_cons.mp inside with rfl | later
            · omega
            · have rest := ih later
              omega
  have own := length_le_field value
  rw [row, List.length_append]
  omega

end Guiying.Foundation.Csv
