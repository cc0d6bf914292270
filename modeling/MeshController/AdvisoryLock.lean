import Mathlib.Tactic

/-!
# Advisory locks on one file

A lock of this kind belongs to an open file description, not to the process
which took it: a forked child shares it, and it is released when the last
process which has the description closes it, a crashed one included.
-/

namespace AdvisoryLock

variable {Process : Type*}

/-- Every process opens the file at most once; descriptions are numbered in
the order they were opened. -/
structure LockTable (Process : Type*) where
  holders : List (Process × ℕ)
  opened : ℕ
  owner : Option ℕ

namespace LockTable

def empty : LockTable Process where
  holders := []
  opened := 0
  owner := none

def Has (table : LockTable Process) (process : Process) (file : ℕ) : Prop :=
  (process, file) ∈ table.holders

/-- The lock is with a description the process has. -/
def Locks (table : LockTable Process) (process : Process) : Prop :=
  ∃ file, table.Has process file ∧ table.owner = some file

def openFile (table : LockTable Process) (process : Process) :
    LockTable Process :=
  { table with
    holders := (process, table.opened) :: table.holders
    opened := table.opened + 1 }

section Operations

variable [DecidableEq Process]

def fileOf (table : LockTable Process) (process : Process) : Option ℕ :=
  (table.holders.find? fun holder => holder.1 = process).map Prod.snd

/-- Takes the lock without waiting for it; `none` where another description
has it. -/
def tryLock (table : LockTable Process) (process : Process) :
    Option (LockTable Process) :=
  match table.fileOf process with
  | none => none
  | some file =>
      if table.owner = none ∨ table.owner = some file then
        some { table with owner := some file }
      else none

/-- A forked child has every description its parent has. -/
def inherit (table : LockTable Process) (parent child : Process) :
    LockTable Process :=
  match table.fileOf parent with
  | none => table
  | some file => { table with holders := (child, file) :: table.holders }

def close (table : LockTable Process) (process : Process) :
    LockTable Process :=
  let kept := table.holders.filter fun holder => holder.1 ≠ process
  { table with
    holders := kept
    owner := table.owner.filter fun file =>
      kept.any fun holder => holder.2 = file }

end Operations

/-- `shared`: only the description which has the lock is ever inherited. -/
structure Valid (table : LockTable Process) : Prop where
  one_file : ∀ ⦃process first second⦄,
    table.Has process first → table.Has process second → first = second
  numbered : ∀ ⦃process file⦄, table.Has process file → file < table.opened
  owned : ∀ ⦃file⦄, table.owner = some file → ∃ process, table.Has process file
  shared : ∀ ⦃process other file⦄,
    table.Has process file → table.Has other file → process ≠ other →
      table.owner = some file

theorem valid_empty : (empty : LockTable Process).Valid := by
  constructor <;> simp [empty, Has]

variable {table next : LockTable Process} {process other parent child : Process}
  {file : ℕ}

theorem Valid.free_of_no_holder (hvalid : table.Valid)
    (hnone : ∀ process, ¬ table.Locks process) : table.owner = none := by
  cases howner : table.owner with
  | none => rfl
  | some file =>
      rcases hvalid.owned howner with ⟨process, hhas⟩
      exact (hnone process ⟨file, hhas, howner⟩).elim

/-! ## Opening -/

theorem has_openFile :
    (table.openFile process).Has other file ↔
      (other = process ∧ file = table.opened) ∨ table.Has other file := by
  simp [openFile, Has]

@[simp] theorem owner_openFile :
    (table.openFile process).owner = table.owner := rfl

theorem Valid.openFile (hvalid : table.Valid)
    (hfresh : ∀ file, ¬ table.Has process file) :
    (table.openFile process).Valid where
  one_file := by
    intro other first second hfirst hsecond
    rw [has_openFile] at hfirst hsecond
    rcases hfirst with ⟨rfl, rfl⟩ | hfirst
    · rcases hsecond with ⟨_, rfl⟩ | hsecond
      · rfl
      · exact (hfresh _ hsecond).elim
    · rcases hsecond with ⟨rfl, rfl⟩ | hsecond
      · exact (hfresh _ hfirst).elim
      · exact hvalid.one_file hfirst hsecond
  numbered := by
    intro other file hhas
    rcases has_openFile.mp hhas with ⟨rfl, rfl⟩ | hhas
    · exact Nat.lt_succ_self _
    · exact Nat.lt_succ_of_lt (hvalid.numbered hhas)
  owned := by
    intro file howner
    rcases hvalid.owned howner with ⟨holder, hhas⟩
    exact ⟨holder, has_openFile.mpr (Or.inr hhas)⟩
  shared := by
    intro first second file hfirst hsecond hne
    rw [has_openFile] at hfirst hsecond
    rcases hfirst with ⟨rfl, rfl⟩ | hfirst
    · rcases hsecond with ⟨rfl, _⟩ | hsecond
      · exact (hne rfl).elim
      · exact (lt_irrefl _ (hvalid.numbered hsecond)).elim
    · rcases hsecond with ⟨rfl, rfl⟩ | hsecond
      · exact (lt_irrefl _ (hvalid.numbered hfirst)).elim
      · exact hvalid.shared hfirst hsecond hne

theorem Valid.locks_openFile (hvalid : table.Valid) :
    (table.openFile process).Locks other ↔ table.Locks other := by
  constructor
  · rintro ⟨file, hhas, howner⟩
    rcases has_openFile.mp hhas with ⟨rfl, rfl⟩ | hhas
    · -- A fresh description is nobody's, so it is not the owner.
      rcases hvalid.owned howner with ⟨holder, hholder⟩
      exact (lt_irrefl _ (hvalid.numbered hholder)).elim
    · exact ⟨file, hhas, howner⟩
  · rintro ⟨file, hhas, howner⟩
    exact ⟨file, has_openFile.mpr (Or.inr hhas), howner⟩

section Operations

variable [DecidableEq Process]

theorem has_of_fileOf (hfile : table.fileOf process = some file) :
    table.Has process file := by
  rw [fileOf, Option.map_eq_some_iff] at hfile
  rcases hfile with ⟨holder, hfind, hsnd⟩
  have hfst : holder.1 = process := by simpa using List.find?_some hfind
  have hmem := List.mem_of_find?_eq_some hfind
  rw [Has, ← hfst, ← hsnd]
  exact hmem

theorem Valid.fileOf_eq_some_iff (hvalid : table.Valid) :
    table.fileOf process = some file ↔ table.Has process file := by
  constructor
  · exact has_of_fileOf
  · intro hhas
    cases hfile : table.fileOf process with
    | some found =>
        rw [hvalid.one_file (has_of_fileOf hfile) hhas]
    | none =>
        rw [fileOf, Option.map_eq_none_iff, List.find?_eq_none] at hfile
        exact (hfile _ hhas (by simp)).elim

/-! ## Taking the lock -/

theorem tryLock_eq_some_iff :
    table.tryLock process = some next ↔
      ∃ file, table.fileOf process = some file ∧
        (table.owner = none ∨ table.owner = some file) ∧
        next = { table with owner := some file } := by
  cases hfile : table.fileOf process with
  | none => simp [tryLock, hfile]
  | some file =>
      simp only [tryLock, hfile, Option.some.injEq, exists_eq_left']
      rw [Option.ite_none_right_eq_some, Option.some.injEq]
      exact and_congr_right' eq_comm

theorem locks_of_tryLock (hlock : table.tryLock process = some next) :
    next.Locks process := by
  rcases tryLock_eq_some_iff.mp hlock with ⟨file, hfile, _, rfl⟩
  exact ⟨file, has_of_fileOf hfile, rfl⟩

@[simp] theorem has_of_tryLock (hlock : table.tryLock process = some next) :
    next.Has other file ↔ table.Has other file := by
  rcases tryLock_eq_some_iff.mp hlock with ⟨_, _, _, rfl⟩
  rfl

/-- A lock which was with nobody is afterwards with one process only. -/
theorem Valid.locks_of_tryLock_iff (hvalid : table.Valid)
    (hlock : table.tryLock process = some next)
    (hfree : ¬ table.Locks process) :
    next.Locks other ↔ other = process := by
  rcases tryLock_eq_some_iff.mp hlock with ⟨file, hfile, howner, rfl⟩
  have hhas := has_of_fileOf hfile
  constructor
  · rintro ⟨found, hother, hfound⟩
    rw [Option.some.injEq] at hfound
    subst hfound
    by_contra hne
    exact hfree ⟨file, hhas, hvalid.shared hother hhas hne⟩
  · rintro rfl
    exact ⟨file, hhas, rfl⟩

theorem Valid.tryLock (hvalid : table.Valid)
    (hlock : table.tryLock process = some next) : next.Valid := by
  rcases tryLock_eq_some_iff.mp hlock with ⟨file, hfile, howner, rfl⟩
  constructor
  · exact hvalid.one_file
  · exact hvalid.numbered
  · intro found hfound
    rw [Option.some.injEq] at hfound
    subst hfound
    exact ⟨process, has_of_fileOf hfile⟩
  · intro first second found hfirst hsecond hne
    have hshared := hvalid.shared hfirst hsecond hne
    rcases howner with hfree | hmine
    · simp [hfree] at hshared
    · rw [hmine] at hshared
      exact hshared

/-- It is refused exactly while another description has it. -/
theorem Valid.tryLock_isSome_iff (hvalid : table.Valid)
    (hhas : table.Has process file) :
    (table.tryLock process).isSome = true ↔
      table.Locks process ∨ ∀ other, ¬ table.Locks other := by
  rw [Option.isSome_iff_exists]
  constructor
  · rintro ⟨next, hlock⟩
    rcases tryLock_eq_some_iff.mp hlock with ⟨found, hfile, howner, _⟩
    rcases howner with hfree | hmine
    · right
      rintro other ⟨_, _, howner⟩
      simp [hfree] at howner
    · exact Or.inl ⟨found, has_of_fileOf hfile, hmine⟩
  · intro hfree
    refine ⟨{ table with owner := some file }, ?_⟩
    refine tryLock_eq_some_iff.mpr
      ⟨file, hvalid.fileOf_eq_some_iff.mpr hhas, ?_, rfl⟩
    rcases hfree with ⟨found, hfound, howner⟩ | hnone
    · rw [hvalid.one_file hhas hfound]
      exact Or.inr howner
    · exact Or.inl (hvalid.free_of_no_holder hnone)

/-! ## Forking -/

theorem Valid.has_inherit (hvalid : table.Valid) :
    (table.inherit parent child).Has other file ↔
      (other = child ∧ table.Has parent file) ∨ table.Has other file := by
  cases hfile : table.fileOf parent with
  | none =>
      have hnone : ¬ table.Has parent file := by
        rw [← hvalid.fileOf_eq_some_iff, hfile]
        simp
      simp [inherit, hfile, hnone]
  | some found =>
      have hiff : table.Has parent file ↔ file = found := by
        rw [← hvalid.fileOf_eq_some_iff, hfile, Option.some.injEq, eq_comm]
      rw [hiff]
      simp [inherit, hfile, Has]

@[simp] theorem owner_inherit :
    (table.inherit parent child).owner = table.owner := by
  unfold inherit
  cases table.fileOf parent <;> rfl

@[simp] theorem opened_inherit :
    (table.inherit parent child).opened = table.opened := by
  unfold inherit
  cases table.fileOf parent <;> rfl

theorem Valid.inherit (hvalid : table.Valid) (hlocks : table.Locks parent)
    (hfresh : ∀ file, ¬ table.Has child file) :
    (table.inherit parent child).Valid := by
  rcases hlocks with ⟨locked, hparent, howner⟩
  have hlocked : ∀ {file}, table.Has parent file → file = locked :=
    fun hhas => hvalid.one_file hhas hparent
  constructor
  · intro other first second hfirst hsecond
    rw [hvalid.has_inherit] at hfirst hsecond
    rcases hfirst with ⟨rfl, hfirst⟩ | hfirst
    · rcases hsecond with ⟨_, hsecond⟩ | hsecond
      · exact hvalid.one_file hfirst hsecond
      · exact (hfresh _ hsecond).elim
    · rcases hsecond with ⟨rfl, hsecond⟩ | hsecond
      · exact (hfresh _ hfirst).elim
      · exact hvalid.one_file hfirst hsecond
  · intro other file hhas
    rw [opened_inherit]
    rcases hvalid.has_inherit.mp hhas with ⟨_, hhas⟩ | hhas
    · exact hvalid.numbered hhas
    · exact hvalid.numbered hhas
  · intro file hfile
    rw [owner_inherit] at hfile
    rcases hvalid.owned hfile with ⟨holder, hhas⟩
    exact ⟨holder, hvalid.has_inherit.mpr (Or.inr hhas)⟩
  · intro first second file hfirst hsecond hne
    rw [owner_inherit]
    rw [hvalid.has_inherit] at hfirst hsecond
    rcases hfirst with ⟨_, hfirst⟩ | hfirst
    · rw [hlocked hfirst, howner]
    · rcases hsecond with ⟨_, hsecond⟩ | hsecond
      · rw [hlocked hsecond, howner]
      · exact hvalid.shared hfirst hsecond hne

theorem Valid.locks_inherit (hvalid : table.Valid)
    (hlocks : table.Locks parent) :
    (table.inherit parent child).Locks other ↔
      other = child ∨ table.Locks other := by
  simp only [Locks, owner_inherit, hvalid.has_inherit]
  constructor
  · rintro ⟨file, ⟨rfl, _⟩ | hhas, howner⟩
    · exact Or.inl rfl
    · exact Or.inr ⟨file, hhas, howner⟩
  · rintro (rfl | ⟨file, hhas, howner⟩)
    · rcases hlocks with ⟨file, hhas, howner⟩
      exact ⟨file, Or.inl ⟨rfl, hhas⟩, howner⟩
    · exact ⟨file, Or.inr hhas, howner⟩

/-! ## Closing -/

theorem has_close :
    (table.close process).Has other file ↔
      table.Has other file ∧ other ≠ process := by
  simp [close, Has]

theorem owner_close :
    (table.close process).owner = some file ↔
      table.owner = some file ∧ ∃ other ≠ process, table.Has other file := by
  simp only [close, Option.filter_eq_some_iff, List.any_eq_true,
    List.mem_filter, decide_eq_true_eq, Has]
  refine and_congr_right fun _ => ?_
  constructor
  · rintro ⟨⟨other, _⟩, ⟨hmem, hne⟩, rfl⟩
    exact ⟨other, hne, hmem⟩
  · rintro ⟨other, hne, hmem⟩
    exact ⟨(other, file), ⟨hmem, hne⟩, rfl⟩

theorem Valid.close (hvalid : table.Valid) (process : Process) :
    (table.close process).Valid where
  one_file := by
    intro other first second hfirst hsecond
    exact hvalid.one_file (has_close.mp hfirst).1 (has_close.mp hsecond).1
  numbered := by
    intro other file hhas
    exact hvalid.numbered (has_close.mp hhas).1
  owned := by
    intro file howner
    rcases (owner_close.mp howner).2 with ⟨other, hne, hhas⟩
    exact ⟨other, has_close.mpr ⟨hhas, hne⟩⟩
  shared := by
    intro first second file hfirst hsecond hne
    rw [has_close] at hfirst hsecond
    exact owner_close.mpr
      ⟨hvalid.shared hfirst.1 hsecond.1 hne, first, hfirst.2, hfirst.1⟩

/-- Nobody else's hold on the lock changes, not even where it was inherited
from the process which closes the file. -/
theorem locks_close :
    (table.close process).Locks other ↔
      table.Locks other ∧ other ≠ process := by
  constructor
  · rintro ⟨file, hhas, howner⟩
    rw [has_close] at hhas
    exact ⟨⟨file, hhas.1, (owner_close.mp howner).1⟩, hhas.2⟩
  · rintro ⟨⟨file, hhas, howner⟩, hne⟩
    exact ⟨file, has_close.mpr ⟨hhas, hne⟩,
      owner_close.mpr ⟨howner, other, hne, hhas⟩⟩

end Operations

end LockTable

end AdvisoryLock
