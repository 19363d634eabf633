import Mathlib.Logic.Function.Basic

/-!
# The selected directory

The parent directory of an export as a map from names to files. The kernel
creates an entry only under a free name and gives it a file no entry has, and it
never links over an entry. What a `stat` reports beside the file is the answer
of the call.
-/

namespace Guiying.Export

abbrev FileName := List UInt8

abbrev Inode := Nat

inductive FileKind where
  | regular
  | directory
  | other
  deriving DecidableEq, Repr

structure FileIdentity where
  device : Nat
  inode : Inode
  deriving DecidableEq, Repr

/-- The fields of a `stat` that do not name the file. -/
structure Attributes where
  kind : FileKind
  device : Nat
  links : Nat
  uid : Nat
  permissions : Nat
  deriving DecidableEq, Repr

structure Stat where
  attributes : Attributes
  inode : Inode
  deriving DecidableEq, Repr

def Stat.identity (stat : Stat) : FileIdentity := ⟨stat.attributes.device, stat.inode⟩

/-- The answer of one `stat` call on an existing file: `none` when the call fails. -/
abbrev StatAnswer := Option Attributes

/-- Entries and contents; every file named by an entry was created before `next`. -/
structure Directory where
  entries : FileName → Option Inode
  contents : Inode → List UInt8
  next : Inode
  entries_lt : ∀ name inode, entries name = some inode → inode < next

namespace Directory

/-- `openat` with `O_CREAT | O_EXCL`, once the name is known to be free. -/
def create (directory : Directory) (name : FileName) : Directory where
  entries := Function.update directory.entries name (some directory.next)
  contents := Function.update directory.contents directory.next []
  next := directory.next + 1
  entries_lt := by
    intro other inode found
    by_cases same : other = name
    · subst same
      rw [Function.update_self] at found
      cases found
      exact Nat.lt_succ_self _
    · rw [Function.update_of_ne same] at found
      exact Nat.lt_succ_of_lt (directory.entries_lt other inode found)

/-- A write through the open file `inode`. -/
def append (directory : Directory) (inode : Inode) (bytes : List UInt8) : Directory :=
  { directory with
    contents := Function.update directory.contents inode (directory.contents inode ++ bytes) }

/-- `linkat`, once the target is known to be free: a second name for the file of `source`. -/
def link (directory : Directory) (source target : FileName) : Directory where
  entries := Function.update directory.entries target (directory.entries source)
  contents := directory.contents
  next := directory.next
  entries_lt := by
    intro other inode found
    by_cases same : other = target
    · subst same
      rw [Function.update_self] at found
      exact directory.entries_lt source inode found
    · rw [Function.update_of_ne same] at found
      exact directory.entries_lt other inode found

def unlink (directory : Directory) (name : FileName) : Directory where
  entries := Function.update directory.entries name none
  contents := directory.contents
  next := directory.next
  entries_lt := by
    intro other inode found
    by_cases same : other = name
    · subst same
      rw [Function.update_self] at found
      cases found
    · rw [Function.update_of_ne same] at found
      exact directory.entries_lt other inode found

@[simp] theorem append_contents_self (directory : Directory) (inode : Inode)
    (bytes : List UInt8) :
    (directory.append inode bytes).contents inode = directory.contents inode ++ bytes :=
  Function.update_self ..

theorem append_contents_of_ne (directory : Directory) {inode other : Inode}
    (bytes : List UInt8) (different : other ≠ inode) :
    (directory.append inode bytes).contents other = directory.contents other :=
  Function.update_of_ne different ..

@[simp] theorem append_nil (directory : Directory) (inode : Inode) :
    directory.append inode [] = directory := by
  unfold append
  rw [List.append_nil, Function.update_eq_self]

theorem append_append (directory : Directory) (inode : Inode) (first second : List UInt8) :
    (directory.append inode first).append inode second =
      directory.append inode (first ++ second) := by
  unfold append
  simp only [Function.update_self, Function.update_idem, List.append_assoc]

@[simp] theorem create_entries_self (directory : Directory) (name : FileName) :
    (directory.create name).entries name = some directory.next :=
  Function.update_self ..

theorem create_entries_of_ne (directory : Directory) {name other : FileName}
    (different : other ≠ name) :
    (directory.create name).entries other = directory.entries other :=
  Function.update_of_ne different ..

@[simp] theorem create_contents_next (directory : Directory) (name : FileName) :
    (directory.create name).contents directory.next = [] :=
  Function.update_self ..

/-- An entry of the directory is never the file a creation makes. -/
theorem ne_next {directory : Directory} {name : FileName} {inode : Inode}
    (found : directory.entries name = some inode) : inode ≠ directory.next :=
  Nat.ne_of_lt (directory.entries_lt name inode found)

@[simp] theorem link_entries_self (directory : Directory) (source target : FileName) :
    (directory.link source target).entries target = directory.entries source :=
  Function.update_self ..

theorem link_entries_of_ne (directory : Directory) (source : FileName) {target name : FileName}
    (different : name ≠ target) :
    (directory.link source target).entries name = directory.entries name :=
  Function.update_of_ne different ..

@[simp] theorem link_contents (directory : Directory) (source target : FileName) :
    (directory.link source target).contents = directory.contents := rfl

@[simp] theorem unlink_entries_self (directory : Directory) (name : FileName) :
    (directory.unlink name).entries name = none :=
  Function.update_self ..

theorem unlink_entries_of_ne (directory : Directory) {name other : FileName}
    (different : other ≠ name) :
    (directory.unlink name).entries other = directory.entries other :=
  Function.update_of_ne different ..

/-- Every entry of `before` is still there, with its file and the contents of its file. -/
def Kept (before after : Directory) : Prop :=
  ∀ name inode, before.entries name = some inode →
    after.entries name = some inode ∧ after.contents inode = before.contents inode

theorem Kept.refl (directory : Directory) : Kept directory directory :=
  fun _ _ found => ⟨found, rfl⟩

theorem ne_of_free {directory : Directory} {free name : FileName} {inode : Inode}
    (absent : directory.entries free = none) (found : directory.entries name = some inode) :
    name ≠ free := by
  rintro rfl
  rw [absent] at found
  cases found

theorem Kept.append {before after : Directory} (kept : Kept before after)
    (bytes : List UInt8) : Kept before (after.append before.next bytes) := by
  intro name inode found
  obtain ⟨entry, contents⟩ := kept name inode found
  exact ⟨entry, (append_contents_of_ne _ _ (ne_next found)).trans contents⟩

theorem Kept.link {before after : Directory} (kept : Kept before after) {source target : FileName}
    (free : before.entries target = none) : Kept before (after.link source target) := by
  intro name inode found
  obtain ⟨entry, contents⟩ := kept name inode found
  exact ⟨(link_entries_of_ne _ _ (ne_of_free free found)).trans entry, contents⟩

theorem Kept.unlink {before after : Directory} (kept : Kept before after) {name : FileName}
    (free : before.entries name = none) : Kept before (after.unlink name) := by
  intro other inode found
  obtain ⟨entry, contents⟩ := kept other inode found
  exact ⟨(unlink_entries_of_ne _ (ne_of_free free found)).trans entry, contents⟩

end Directory

end Guiying.Export
