import Guiying.Export.Cancellation
import Guiying.Export.Directory
import Guiying.Foundation.Program

/-!
# One export run

The state of one run: the directory, the cancellation, and the answers the
kernel still has for writes. Cancel calls arrive whenever the worker looks at
the cancellation, which is the only place where their order shows.
-/

namespace Guiying.Export

open Guiying.Foundation

inductive ExportTargetError where
  | invalidSelection
  | targetExists
  | unsafeTarget
  | randomUnavailable
  | openFailed
  | writeFailed
  | outputLimitExceeded
  | cancelled
  | deadlineExceeded
  | storeFailed
  | encodeFailed
  | publishFailed
  deriving DecidableEq, Repr

/-- The answer of one `write` call. -/
inductive WriteAnswer where
  | wrote (count : Nat)
  | interrupted
  | failed
  deriving DecidableEq, Repr

structure World where
  directory : Directory
  history : CancelHistory
  /-- How often the worker has looked at the cancellation. -/
  looks : Nat
  /-- The answers of the next writes; once they run out every write takes its whole buffer. -/
  writes : List WriteAnswer

abbrev ExportM := Program World ExportTargetError

namespace World

def start (directory : Directory) (writes : List WriteAnswer) : World :=
  ⟨directory, .new, 0, writes⟩

def setDirectory (world : World) (directory : Directory) : World := { world with directory }

/-- The cancel calls that come before the next look at the cancellation. -/
def arrive (cancels : Nat → Nat) (world : World) : World :=
  { world with
    history := world.history.cancels (cancels world.looks)
    looks := world.looks + 1 }

end World

/-! ## Writing through a counter -/

structure CountingWriter where
  inner : Inode
  written : Nat
  limit : Nat
  deriving DecidableEq, Repr

/-- What a `write_all` leaves: the bytes it has got rid of, and the answers it has not used. -/
structure Written where
  outcome : Except ExportTargetError PUnit
  bytes : List UInt8
  writes : List WriteAnswer

/-- `write_all`: the limit is checked against the whole remaining buffer before each `write`. -/
def writeAllFrom (limit : Nat) : List WriteAnswer → Nat → List UInt8 → Written
  | answers, _, [] => ⟨.ok ⟨⟩, [], answers⟩
  | [], written, buffer =>
      if written + buffer.length > limit then ⟨.error .outputLimitExceeded, [], []⟩
      else ⟨.ok ⟨⟩, buffer, []⟩
  | answer :: answers, written, buffer =>
      if written + buffer.length > limit then ⟨.error .outputLimitExceeded, [], answer :: answers⟩
      else
        match answer with
        | .interrupted => writeAllFrom limit answers written buffer
        | .failed => ⟨.error .writeFailed, [], answers⟩
        | .wrote count =>
            let taken := buffer.take count
            if taken = [] then ⟨.error .writeFailed, [], answers⟩
            else
              let after := writeAllFrom limit answers (written + taken.length) (buffer.drop count)
              { after with bytes := taken ++ after.bytes }

namespace CountingWriter

def writeAll (writer : CountingWriter) (buffer : List UInt8) : ExportM CountingWriter :=
  fun world =>
    let after := writeAllFrom writer.limit world.writes writer.written buffer
    let world' := { world with
      directory := world.directory.append writer.inner after.bytes
      writes := after.writes }
    match after.outcome with
    | .ok _ => (.ok { writer with written := writer.written + buffer.length }, world')
    | .error error => (.error error, world')

end CountingWriter

theorem writeAllFrom_bytes {limit written : Nat} {buffer : List UInt8}
    {answers : List WriteAnswer}
    (done : (writeAllFrom limit answers written buffer).outcome = .ok ⟨⟩) :
    (writeAllFrom limit answers written buffer).bytes = buffer := by
  fun_induction writeAllFrom limit answers written buffer with
  | case1 => rfl
  | case2 => cases done
  | case3 => rfl
  | case4 => cases done
  | case5 _ _ _ _ _ ih => exact ih done
  | case6 => cases done
  | case7 => cases done
  | case8 _ _ buffer _ _ count taken _ after ih =>
      change taken ++ after.bytes = buffer
      rw [ih done]
      exact List.take_append_drop _ _

theorem writeAllFrom_within {limit written : Nat} {buffer : List UInt8}
    {answers : List WriteAnswer} (before : written ≤ limit)
    (done : (writeAllFrom limit answers written buffer).outcome = .ok ⟨⟩) :
    written + buffer.length ≤ limit := by
  fun_induction writeAllFrom limit answers written buffer with
  | case1 => exact before
  | case2 => cases done
  | case3 _ _ _ within => exact Nat.not_lt.mp within
  | case4 => cases done
  | case5 _ _ _ _ within => exact Nat.not_lt.mp within
  | case6 => cases done
  | case7 => cases done
  | case8 _ _ _ _ within => exact Nat.not_lt.mp within

/-- A run that holds the open file `file`, into which `body` has gone, and has linked nothing. -/
structure Holding (base : Directory) (file : Inode) (body : List UInt8) (world : World) :
    Prop where
  directory : world.directory = base.append file body
  consistent : world.history.Consistent
  uncommitted : world.history.cells.commitState = .openToCancel

theorem meets_writeAll {base : Directory} {body : List UInt8} (writer : CountingWriter)
    (buffer : List UInt8) :
    Program.Meets (Holding base writer.inner body) (writer.writeAll buffer)
      (fun after world => Holding base writer.inner (body ++ buffer) world ∧
        after = { writer with written := writer.written + buffer.length })
      (fun _ world => ∃ body', Holding base writer.inner body' world) := by
  intro world holding
  have placed (bytes : List UInt8) :
      world.directory.append writer.inner bytes = base.append writer.inner (body ++ bytes) := by
    rw [holding.directory, Directory.append_append]
  unfold CountingWriter.writeAll
  dsimp only
  cases done : (writeAllFrom writer.limit world.writes writer.written buffer).outcome with
  | ok _ =>
      refine ⟨⟨?_, holding.consistent, holding.uncommitted⟩, rfl⟩
      change world.directory.append writer.inner _ = _
      rw [placed, writeAllFrom_bytes done]
  | error _ => exact ⟨_, placed _, holding.consistent, holding.uncommitted⟩

end Guiying.Export
