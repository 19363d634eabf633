import Guiying.Foundation.ByteString

/-!
# Well-formed UTF-8

The validator reads one lead byte and the ranges its continuation bytes must
fall in: no overlong form, no surrogate, nothing above U+10FFFF. The lossy
decoder replaces what the validator would refuse.
-/

namespace Guiying.Foundation.Utf8

/-- The admissible ranges of the continuation bytes after a lead byte. -/
def continuationRanges (lead : UInt8) : Option (List (UInt8 × UInt8)) :=
  if lead ≤ 0x7F then some []
  else if 0xC2 ≤ lead ∧ lead ≤ 0xDF then some [(0x80, 0xBF)]
  else if lead = 0xE0 then some [(0xA0, 0xBF), (0x80, 0xBF)]
  else if lead = 0xED then some [(0x80, 0x9F), (0x80, 0xBF)]
  else if 0xE1 ≤ lead ∧ lead ≤ 0xEF then some [(0x80, 0xBF), (0x80, 0xBF)]
  else if lead = 0xF0 then some [(0x90, 0xBF), (0x80, 0xBF), (0x80, 0xBF)]
  else if 0xF1 ≤ lead ∧ lead ≤ 0xF3 then some [(0x80, 0xBF), (0x80, 0xBF), (0x80, 0xBF)]
  else if lead = 0xF4 then some [(0x80, 0x8F), (0x80, 0xBF), (0x80, 0xBF)]
  else none

/-- Validate the rest of a string while `expected` continuation bytes are still due. -/
def validFrom : List (UInt8 × UInt8) → List UInt8 → Bool
  | [], [] => true
  | _ :: _, [] => false
  | [], byte :: rest =>
      match continuationRanges byte with
      | none => false
      | some expected => validFrom expected rest
  | (low, high) :: expected, byte :: rest =>
      decide (low ≤ byte ∧ byte ≤ high) && validFrom expected rest

def valid (bytes : List UInt8) : Bool := validFrom [] bytes

theorem valid_of_ascii {bytes : List UInt8} (plain : ∀ byte ∈ bytes, byte ≤ 0x7F) :
    valid bytes = true := by
  unfold valid
  induction bytes with
  | nil => rfl
  | cons byte rest ih =>
      have low : byte ≤ 0x7F := plain byte List.mem_cons_self
      simp only [validFrom, continuationRanges, low, if_true]
      exact ih fun other member => plain other (List.mem_cons_of_mem byte member)

/-! ## Lossy decoding -/

/-- U+FFFD. -/
def replacement : List UInt8 := [0xEF, 0xBF, 0xBD]

/-- What a byte in lead position emits, and the scalar it opens. -/
def startScalar (byte : UInt8) : List UInt8 × List UInt8 × List (UInt8 × UInt8) :=
  match continuationRanges byte with
  | none => (replacement, [], [])
  | some expected => ([], [byte], expected)

/-- Decode with the scalar `pending` begun and `expected` continuation bytes still due; a scalar
that breaks off becomes one replacement. -/
def lossyFrom : List UInt8 → List (UInt8 × UInt8) → List UInt8 → List UInt8
  | pending, [], [] => pending
  | _, _ :: _, [] => replacement
  | pending, [], byte :: rest =>
      let (emitted, opened, ranges) := startScalar byte
      pending ++ emitted ++ lossyFrom opened ranges rest
  | pending, (low, high) :: expected, byte :: rest =>
      if low ≤ byte ∧ byte ≤ high then lossyFrom (pending ++ [byte]) expected rest
      else
        let (emitted, opened, ranges) := startScalar byte
        replacement ++ emitted ++ lossyFrom opened ranges rest

/-- `String::from_utf8_lossy`. -/
def lossy (bytes : List UInt8) : List UInt8 := lossyFrom [] [] bytes

/-! ### Single steps -/

variable {pending bytes : List UInt8} {expected : List (UInt8 × UInt8)} {byte : UInt8}

theorem lossyFrom_lead (rest : List UInt8) : lossyFrom pending [] (byte :: rest) =
    pending ++ (startScalar byte).1 ++
      lossyFrom (startScalar byte).2.1 (startScalar byte).2.2 rest := rfl

theorem lossyFrom_continued {low high : UInt8} (inside : low ≤ byte ∧ byte ≤ high)
    (rest : List UInt8) : lossyFrom pending ((low, high) :: expected) (byte :: rest) =
      lossyFrom (pending ++ [byte]) expected rest := by
  simp only [lossyFrom, if_pos inside]

theorem lossyFrom_broken {low high : UInt8} (outside : ¬ (low ≤ byte ∧ byte ≤ high))
    (rest : List UInt8) : lossyFrom pending ((low, high) :: expected) (byte :: rest) =
      replacement ++ (startScalar byte).1 ++
        lossyFrom (startScalar byte).2.1 (startScalar byte).2.2 rest := by
  simp only [lossyFrom, if_neg outside]

/-- A finished scalar is passed on. -/
theorem lossyFrom_finished (pending bytes : List UInt8) :
    lossyFrom pending [] bytes = pending ++ lossy bytes := by
  cases bytes with
  | nil => simp [lossyFrom, lossy]
  | cons byte rest => simp [lossyFrom, lossy]

/-- A byte that starts no scalar is replaced by itself. -/
theorem lossy_cons_of_none (never : continuationRanges byte = none) (rest : List UInt8) :
    lossy (byte :: rest) = replacement ++ lossy rest := by
  have starts : startScalar byte = (replacement, [], []) := by simp only [startScalar, never]
  rw [lossy, lossyFrom_lead, starts, lossyFrom_finished]
  rfl

/-! ### Length -/

/-- The bound on the decoded length is reached. -/
theorem length_lossy_replicate (never : continuationRanges byte = none) (count : Nat) :
    (lossy (List.replicate count byte)).length = 3 * count := by
  induction count with
  | zero => rfl
  | succ count ih =>
      rw [List.replicate_succ, lossy_cons_of_none never, List.length_append, ih]
      simp only [replacement, List.length_cons, List.length_nil]
      omega

/-- Every byte is decoded to three at most. -/
theorem length_lossyFrom_le (begun : expected ≠ [] → pending ≠ []) :
    (lossyFrom pending expected bytes).length ≤ 3 * (pending.length + bytes.length) := by
  induction bytes generalizing pending expected with
  | nil =>
      cases expected with
      | nil =>
          simp only [lossyFrom, List.length_nil]
          omega
      | cons range later =>
          have some_ := List.length_pos_iff.mpr (begun (List.cons_ne_nil _ _))
          simp only [lossyFrom, replacement, List.length_cons, List.length_nil]
          omega
  | cons byte rest ih =>
      -- What the byte in lead position emits and what follows it.
      have started : ((startScalar byte).1 ++
          lossyFrom (startScalar byte).2.1 (startScalar byte).2.2 rest).length ≤
            3 * (rest.length + 1) := by
        unfold startScalar
        split
        · have others : (lossyFrom [] [] rest).length ≤ 3 * (0 + rest.length) :=
            ih fun none_ => absurd rfl none_
          simp only [replacement, List.length_append, List.length_cons, List.length_nil]
          omega
        · rename_i ranges _
          have others : (lossyFrom [byte] ranges rest).length ≤ 3 * (1 + rest.length) :=
            ih fun _ => List.cons_ne_nil _ _
          simp only [List.nil_append]
          omega
      cases expected with
      | nil =>
          rw [lossyFrom_lead, List.append_assoc, List.length_append, List.length_cons]
          omega
      | cons range later =>
          have some_ := List.length_pos_iff.mpr (begun (List.cons_ne_nil _ _))
          by_cases inside : range.1 ≤ byte ∧ byte ≤ range.2
          · rw [lossyFrom_continued inside]
            have others : (lossyFrom (pending ++ [byte]) later rest).length ≤
                3 * ((pending ++ [byte]).length + rest.length) := ih fun _ => by simp
            simp only [List.length_append, List.length_cons, List.length_nil] at others ⊢
            omega
          · rw [lossyFrom_broken inside, List.append_assoc, List.length_append, List.length_cons]
            simp only [replacement, List.length_cons, List.length_nil]
            omega

theorem length_lossy_le (bytes : List UInt8) : (lossy bytes).length ≤ 3 * bytes.length := by
  have bound : (lossyFrom [] [] bytes).length ≤ 3 * (0 + bytes.length) :=
    length_lossyFrom_le fun none_ => absurd rfl none_
  rwa [Nat.zero_add] at bound

/-! ### Bytes of ASCII -/

/-- No continuation byte is an ASCII byte. -/
theorem continuationRanges_above {lead : UInt8} {ranges : List (UInt8 × UInt8)}
    (found : continuationRanges lead = some ranges) : ∀ range ∈ ranges, 0x7F < range.1 := by
  unfold continuationRanges at found
  split_ifs at found <;> cases found <;> simp

theorem startScalar_above (byte : UInt8) : ∀ range ∈ (startScalar byte).2.2, 0x7F < range.1 := by
  unfold startScalar
  split
  · intro range isRange
    cases isRange
  · rename_i found
    exact continuationRanges_above found

theorem startScalar_ascii {byte : UInt8} (plain : byte ≤ 0x7F) :
    startScalar byte = ([], [byte], []) := by
  simp [startScalar, continuationRanges, plain]

theorem lossy_cons_ascii (plain : byte ≤ 0x7F) (rest : List UInt8) :
    lossy (byte :: rest) = byte :: lossy rest := by
  rw [lossy, lossyFrom_lead, startScalar_ascii plain, lossyFrom_finished]
  rfl

/-- An ASCII byte ends what was begun before it. -/
theorem lossyFrom_append_ascii {before : List UInt8} (plain : byte ≤ 0x7F)
    (above : ∀ range ∈ expected, 0x7F < range.1) (rest : List UInt8) :
    lossyFrom pending expected (before ++ byte :: rest) =
      lossyFrom pending expected before ++ byte :: lossy rest := by
  induction before generalizing pending expected with
  | nil =>
      cases expected with
      | nil =>
          rw [List.nil_append, lossyFrom_finished, lossy_cons_ascii plain]
          rfl
      | cons range later =>
          have low := above range List.mem_cons_self
          have outside : ¬ (range.1 ≤ byte ∧ byte ≤ range.2) := by
            rintro ⟨reaches, -⟩
            exact UInt8.not_lt.mpr plain (UInt8.lt_of_lt_of_le low reaches)
          rw [List.nil_append, lossyFrom_broken outside, startScalar_ascii plain,
            lossyFrom_finished]
          rfl
  | cons first others ih =>
      have next : lossyFrom (startScalar first).2.1 (startScalar first).2.2
          (others ++ byte :: rest) =
            lossyFrom (startScalar first).2.1 (startScalar first).2.2 others ++
              byte :: lossy rest := ih (startScalar_above first)
      cases expected with
      | nil =>
          rw [List.cons_append, lossyFrom_lead, lossyFrom_lead, next]
          simp only [List.append_assoc]
      | cons range later =>
          rw [List.cons_append]
          by_cases inside : range.1 ≤ first ∧ first ≤ range.2
          · rw [lossyFrom_continued inside, lossyFrom_continued inside]
            exact ih fun other isLater => above other (List.mem_cons_of_mem range isLater)
          · rw [lossyFrom_broken inside, lossyFrom_broken inside, next]
            simp only [List.append_assoc]

theorem lossy_append_ascii (plain : byte ≤ 0x7F) (before rest : List UInt8) :
    lossy (before ++ byte :: rest) = lossy before ++ byte :: lossy rest :=
  lossyFrom_append_ascii plain (fun _ isRange => absurd isRange List.not_mem_nil) rest

/-- Decoding brings no ASCII byte in. -/
theorem mem_of_mem_lossyFrom (plain : byte ≤ 0x7F) (found : byte ∈ lossyFrom pending expected bytes) :
    byte ∈ pending ∨ byte ∈ bytes := by
  have other : byte ∉ replacement := by
    intro isReplacement
    simp only [replacement, List.mem_cons, List.not_mem_nil, or_false] at isReplacement
    rcases isReplacement with rfl | rfl | rfl <;> exact absurd plain (by decide)
  induction bytes generalizing pending expected with
  | nil =>
      cases expected with
      | nil => exact .inl found
      | cons range later => exact absurd found other
  | cons first rest ih =>
      have started : byte ∈ (startScalar first).1 ++
          lossyFrom (startScalar first).2.1 (startScalar first).2.2 rest →
            byte ∈ first :: rest := by
        intro found
        rcases List.mem_append.mp found with emitted | later
        · unfold startScalar at emitted
          split at emitted
          · exact absurd emitted other
          · cases emitted
        · rcases ih later with opened | isRest
          · unfold startScalar at opened
            split at opened
            · cases opened
            · exact List.mem_cons.mpr (.inl (List.mem_singleton.mp opened))
          · exact List.mem_cons_of_mem first isRest
      cases expected with
      | nil =>
          rw [lossyFrom_lead, List.append_assoc] at found
          rcases List.mem_append.mp found with isPending | later
          · exact .inl isPending
          · exact .inr (started later)
      | cons range later =>
          by_cases inside : range.1 ≤ first ∧ first ≤ range.2
          · rw [lossyFrom_continued inside] at found
            rcases ih found with isPending | isRest
            · rcases List.mem_append.mp isPending with isPending | isFirst
              · exact .inl isPending
              · exact .inr (List.mem_cons.mpr (.inl (List.mem_singleton.mp isFirst)))
            · exact .inr (List.mem_cons_of_mem first isRest)
          · rw [lossyFrom_broken inside, List.append_assoc] at found
            rcases List.mem_append.mp found with isReplacement | later
            · exact absurd isReplacement other
            · exact .inr (started later)

theorem mem_lossy_iff (plain : byte ≤ 0x7F) (bytes : List UInt8) :
    byte ∈ lossy bytes ↔ byte ∈ bytes := by
  constructor
  · intro found
    rcases mem_of_mem_lossyFrom plain found with begun | isByte
    · cases begun
    · exact isByte
  · intro isByte
    obtain ⟨before, rest, rfl⟩ := List.append_of_mem isByte
    rw [lossy_append_ascii plain]
    exact List.mem_append_right _ List.mem_cons_self

/-- What begins above ASCII is decoded to something that does. -/
theorem head_lossyFrom {first : UInt8} {others : List UInt8} (above : 0x7F < first) :
    ∃ head tail, lossyFrom (first :: others) expected bytes = head :: tail ∧ 0x7F < head := by
  induction bytes generalizing others expected with
  | nil =>
      cases expected with
      | nil => exact ⟨first, others, rfl, above⟩
      | cons range later => exact ⟨0xEF, [0xBF, 0xBD], rfl, by decide⟩
  | cons byte rest ih =>
      cases expected with
      | nil => exact ⟨first, _, rfl, above⟩
      | cons range later =>
          by_cases inside : range.1 ≤ byte ∧ byte ≤ range.2
          · rw [lossyFrom_continued inside]
            exact ih
          · rw [lossyFrom_broken inside]
            exact ⟨0xEF, _, rfl, by decide⟩

/-- Text that decodes to ASCII is that text. -/
theorem eq_of_lossy_ascii {text : List UInt8} (plain : ∀ byte ∈ text, byte ≤ 0x7F)
    (same : lossy bytes = text) : bytes = text := by
  induction bytes generalizing text with
  | nil => exact same
  | cons first rest ih =>
      by_cases low : first ≤ 0x7F
      · rw [lossy_cons_ascii low] at same
        subst same
        exact congrArg (first :: ·)
          (ih (fun byte isRest => plain byte (List.mem_cons_of_mem first isRest)) rfl)
      · exfalso
        have above : 0x7F < first := UInt8.not_le.mp low
        have head : ∃ head tail, lossy (first :: rest) = head :: tail ∧ 0x7F < head := by
          rw [lossy, lossyFrom_lead]
          unfold startScalar
          split
          · exact ⟨0xEF, _, rfl, by decide⟩
          · exact head_lossyFrom above
        obtain ⟨head, tail, decoded, high⟩ := head
        rw [decoded] at same
        subst same
        exact absurd (plain head List.mem_cons_self) (UInt8.not_le.mpr high)

theorem lossy_ne_nil (full : bytes ≠ []) : lossy bytes ≠ [] :=
  mt (eq_of_lossy_ascii fun _ none => absurd none List.not_mem_nil) full

/-- Parts between ASCII separators are decoded one by one. -/
theorem splitOn_lossy {separator : UInt8} (plain : separator ≤ 0x7F) (bytes : List UInt8) :
    (lossy bytes).splitOn separator = (bytes.splitOn separator).map lossy := by
  by_cases found : separator ∈ bytes
  · obtain ⟨before, rest, rfl, first⟩ := List.eq_append_cons_of_mem found
    have shorter : rest.length < (before ++ separator :: rest).length := by
      simp only [List.length_append, List.length_cons]
      omega
    rw [lossy_append_ascii plain, List.splitOn_append_cons_self, List.splitOn_append_cons_self,
      List.map_append, splitOn_lossy plain rest, List.splitOn_eq_singleton first,
      List.splitOn_eq_singleton (mt (mem_lossy_iff plain before).mp first)]
    rfl
  · rw [List.splitOn_eq_singleton found,
      List.splitOn_eq_singleton (mt (mem_lossy_iff plain bytes).mp found)]
    rfl
termination_by bytes.length

end Guiying.Foundation.Utf8
