import MeshController.AdvisoryLock
import MeshController.LabelledRun

/-!
# The single instance guard

Any number of daemon processes are started against one lock file, in the
foreground or with `--daemon`, which forks.  Every call is a step of its own,
and a process may fail or be killed before each of them.

The lock is dropped before the runtime, which is a temporary of the last
expression of `main`: while its runtime shuts down, a process no longer holds
the lock.
-/

namespace MeshController

open LabelledRun AdvisoryLock

abbrev Pid := ℕ

/-- The calls of `write_current_pid`. -/
inductive PidCall where
  | setLen
  | seek
  | write
deriving DecidableEq

/-- `acquired` is about to move to the background, `forked` is a child of
that, `parent` has forked and exits, and `draining` has returned from `main`
but for the runtime. -/
inductive InstancePhase where
  | gone
  | loading
  | opened
  | refused
  | recording (call : PidCall) (afterFork : Bool)
  | acquired
  | forked
  | parent
  | starting
  | running
  | stopping
  | draining
deriving DecidableEq

namespace InstancePhase

/-- From the acquisition of the lock until it is dropped. -/
def active : InstancePhase → Bool
  | recording .. => true
  | acquired => true
  | forked => true
  | starting => true
  | running => true
  | stopping => true
  | _ => false

def hasFile : InstancePhase → Bool
  | gone => false
  | loading => false
  | draining => false
  | _ => true

def hasLock (phase : InstancePhase) : Bool :=
  phase.active || phase = parent

/-- The PID of the process itself has been written. -/
def recorded : InstancePhase → Bool
  | acquired => true
  | starting => true
  | running => true
  | stopping => true
  | _ => false

/-- Something is known about what the lock file holds. -/
def readsText : InstancePhase → Bool
  | recording .seek _ => true
  | recording .write _ => true
  | phase => phase.recorded

theorem active_of_recorded {phase : InstancePhase}
    (hrecorded : phase.recorded = true) : phase.active = true := by
  cases phase <;> simp_all [recorded, active]

end InstancePhase

/-- The task of `server::run`: it removes an existing socket file, binds its
own and accepts clients. -/
inductive ServerTask where
  | unspawned
  | clearing
  | binding
  | listening
  | ended
deriving DecidableEq

structure Instance where
  phase : InstancePhase
  background : Bool
  socketPath : String
  server : ServerTask
deriving DecidableEq

/-- `text` is what the lock file holds, `position` the file position of each
open file description, `socket` which process a socket file was bound by. -/
structure Instances where
  process : Pid → Instance
  locks : LockTable Pid
  text : List Char
  position : ℕ → ℕ
  socket : String → Option Pid

inductive InstanceAction where
  | launch (pid : Pid) (socketPath : String) (background : Bool)
  | openLock (pid : Pid)
  | flock (pid : Pid)
  | recordPid (pid : Pid)
  | fork (pid child : Pid)
  | detach (pid : Pid)
  | enterRun (pid : Pid)
  | serve (pid : Pid)
  | endServer (pid : Pid)
  | shutDown (pid : Pid)
  | dropLock (pid : Pid)
  | exit (pid : Pid)
deriving DecidableEq

def pidText (pid : Pid) : List Char := Nat.toDigits 10 pid

/-- A write behind the end of a file fills the gap with NUL. -/
def writeAt (text : List Char) (position : ℕ) (written : List Char) :
    List Char :=
  (text ++ List.replicate (position - text.length) '\x00').take position ++
    written ++ text.drop (position + written.length)

@[simp] theorem writeAt_nil_zero (written : List Char) :
    writeAt [] 0 written = written := by
  simp [writeAt]

namespace Instances

def start (text : List Char) (socket : String → Option Pid) : Instances where
  process := fun _ =>
    { phase := .gone, background := false, socketPath := ""
      server := .unspawned }
  locks := .empty
  text := text
  position := fun _ => 0
  socket := socket

def phase (state : Instances) (pid : Pid) : InstancePhase :=
  (state.process pid).phase

def setPhase (state : Instances) (pid : Pid) (phase : InstancePhase) :
    Instances :=
  { state with
    process := Function.update state.process pid
      { state.process pid with phase := phase } }

def setServer (state : Instances) (pid : Pid) (server : ServerTask) :
    Instances :=
  { state with
    process := Function.update state.process pid
      { state.process pid with server := server } }

def setSocket (state : Instances) (path : String) (bound : Option Pid) :
    Instances :=
  { state with socket := Function.update state.socket path bound }

/-- What follows `write_current_pid`: `acquire` returns, or `main` goes on. -/
def afterRecord (process : Instance) (afterFork : Bool) : InstancePhase :=
  if process.background = true ∧ afterFork = false then .acquired
  else .starting

/-- One call of `write_current_pid` on an open file description. -/
def callPid (state : Instances) (pid : Pid) (file : ℕ) (afterFork : Bool) :
    PidCall → Instances
  | .setLen =>
      { state with text := [] }.setPhase pid (.recording .seek afterFork)
  | .seek =>
      { state with position := Function.update state.position file 0 }.setPhase
        pid (.recording .write afterFork)
  | .write =>
      { state with
        text := writeAt state.text (state.position file) (pidText pid)
        position := Function.update state.position file
          (state.position file + (pidText pid).length) }.setPhase
        pid (afterRecord (state.process pid) afterFork)

/-- The server task belongs to the runtime, and lives as long as this does. -/
def inRuntime : InstancePhase → Bool
  | .running => true
  | .stopping => true
  | .draining => true
  | _ => false

def serveStep (state : Instances) (pid : Pid) : Option Instances :=
  let path := (state.process pid).socketPath
  match (state.process pid).server with
  | .clearing => some ((state.setSocket path none).setServer pid .binding)
  | .binding =>
      if state.socket path = none then
        some ((state.setSocket path (some pid)).setServer pid .listening)
      else some (state.setServer pid .ended)
  | _ => none

def step : Machine Instances InstanceAction
  | state, .launch pid socketPath background =>
      if state.phase pid = .gone then
        some { state with
          process := Function.update state.process pid
            { phase := .loading, background := background
              socketPath := socketPath, server := .unspawned } }
      else none
  | state, .openLock pid =>
      if state.phase pid = .loading then
        some ({ state with
          locks := state.locks.openFile pid
          position := Function.update state.position state.locks.opened 0
          }.setPhase pid .opened)
      else none
  | state, .flock pid =>
      if state.phase pid = .opened then
        match state.locks.tryLock pid with
        | some locks =>
            some ({ state with locks := locks }.setPhase pid
              (.recording .setLen false))
        | none => some (state.setPhase pid .refused)
      else none
  | state, .recordPid pid =>
      match state.phase pid, state.locks.fileOf pid with
      | .recording call afterFork, some file =>
          some (state.callPid pid file afterFork call)
      | _, _ => none
  | state, .fork pid child =>
      if (state.phase pid = .acquired ∨ state.phase pid = .forked) ∧
          state.phase child = .gone then
        some { state with
          locks := state.locks.inherit pid child
          process := Function.update
            (Function.update state.process child
              { state.process pid with phase := .forked })
            pid { state.process pid with phase := .parent } }
      else none
  | state, .detach pid =>
      if state.phase pid = .forked then
        some (state.setPhase pid (.recording .setLen true))
      else none
  | state, .enterRun pid =>
      if state.phase pid = .starting then
        some ((state.setPhase pid .running).setServer pid .clearing)
      else none
  | state, .serve pid =>
      if inRuntime (state.phase pid) = true then state.serveStep pid else none
  | state, .endServer pid =>
      if inRuntime (state.phase pid) = true then
        some (state.setServer pid .ended)
      else none
  | state, .shutDown pid =>
      if state.phase pid = .running then
        some ((state.setSocket (state.process pid).socketPath none).setPhase
          pid .stopping)
      else none
  | state, .dropLock pid =>
      if state.phase pid = .stopping then
        some ({ state with locks := state.locks.close pid }.setPhase
          pid .draining)
      else none
  | state, .exit pid =>
      if state.phase pid ≠ .gone then
        some ({ state with locks := state.locks.close pid }.setPhase pid .gone)
      else none

/-! ## The updates of one process -/

section Updates

variable (state : Instances) (pid : Pid)

@[simp] theorem phase_setPhase (phase : InstancePhase) :
    (state.setPhase pid phase).phase pid = phase := by
  simp [setPhase, Instances.phase]

theorem phase_setPhase_of_ne (phase : InstancePhase) {other : Pid}
    (hne : other ≠ pid) :
    (state.setPhase pid phase).phase other = state.phase other := by
  simp [setPhase, Instances.phase, hne]

@[simp] theorem phase_setServer (server : ServerTask) (other : Pid) :
    (state.setServer pid server).phase other = state.phase other := by
  by_cases hsame : other = pid
  · subst hsame
    simp [setServer, Instances.phase]
  · simp [setServer, Instances.phase, hsame]

@[simp] theorem phase_setSocket (path : String) (bound : Option Pid)
    (other : Pid) :
    (state.setSocket path bound).phase other = state.phase other := rfl

@[simp] theorem locks_setPhase (phase : InstancePhase) :
    (state.setPhase pid phase).locks = state.locks := rfl

@[simp] theorem text_setPhase (phase : InstancePhase) :
    (state.setPhase pid phase).text = state.text := rfl

@[simp] theorem position_setPhase (phase : InstancePhase) :
    (state.setPhase pid phase).position = state.position := rfl

@[simp] theorem socket_setPhase (phase : InstancePhase) :
    (state.setPhase pid phase).socket = state.socket := rfl

end Updates

/-! ## The lock -/

/-- What the lock file and the lock have to do with one process. -/
structure Fits (state : Instances) (pid : Pid) : Prop where
  file : (∃ file, state.locks.Has pid file) ↔
    (state.phase pid).hasFile = true
  lock : state.locks.Locks pid ↔ (state.phase pid).hasLock = true
  emptied : ∀ afterFork, state.phase pid = .recording .seek afterFork →
    state.text = []
  rewound : ∀ afterFork, state.phase pid = .recording .write afterFork →
    state.text = [] ∧
      ∀ file, state.locks.Has pid file → state.position file = 0
  recorded : (state.phase pid).recorded = true → state.text = pidText pid

structure Coherent (state : Instances) : Prop where
  valid : state.locks.Valid
  fits : ∀ pid, state.Fits pid
  unique : ∀ ⦃first second⦄, (state.phase first).active = true →
    (state.phase second).active = true → first = second

theorem coherent_start (text : List Char) (socket : String → Option Pid) :
    (start text socket).Coherent where
  valid := LockTable.valid_empty
  fits := by
    intro pid
    constructor <;>
      simp [start, phase, InstancePhase.hasFile, InstancePhase.hasLock,
        InstancePhase.active, InstancePhase.recorded, LockTable.Has,
        LockTable.Locks, LockTable.empty]
  unique := by
    intro first second hfirst
    simp [start, phase, InstancePhase.active] at hfirst

variable {state next : Instances} {pid other child : Pid}

theorem Fits.of_unread
    (hfile : (∃ file, state.locks.Has pid file) ↔
      (state.phase pid).hasFile = true)
    (hlock : state.locks.Locks pid ↔ (state.phase pid).hasLock = true)
    (hunread : (state.phase pid).readsText = false) : state.Fits pid where
  file := hfile
  lock := hlock
  emptied := by
    intro afterFork hseek
    rw [hseek] at hunread
    cases hunread
  rewound := by
    intro afterFork hwrite
    rw [hwrite] at hunread
    cases hunread
  recorded := by
    intro hrecorded
    cases hphase : state.phase pid <;>
      simp_all [InstancePhase.readsText, InstancePhase.recorded]

theorem Fits.no_file (hfits : state.Fits pid)
    (hfile : (state.phase pid).hasFile = false) (file : ℕ) :
    ¬ state.locks.Has pid file := by
  intro hhas
  rw [hfits.file.mp ⟨file, hhas⟩] at hfile
  cases hfile

/-- A process which does not move notices nothing, unless it is the one the
file belongs to. -/
theorem Fits.frame (hfits : state.Fits other)
    (hphase : next.phase other = state.phase other)
    (hhas : ∀ file, next.locks.Has other file ↔ state.locks.Has other file)
    (hlocks : next.locks.Locks other ↔ state.locks.Locks other)
    (htext : (state.phase other).active = true →
      next.text = state.text ∧ ∀ file, state.locks.Has other file →
        next.position file = state.position file) :
    next.Fits other where
  file := by
    rw [exists_congr hhas, hphase, hfits.file]
  lock := by rw [hlocks, hphase, hfits.lock]
  emptied := by
    intro afterFork hseek
    rw [hphase] at hseek
    rw [(htext (by rw [hseek]; rfl)).1]
    exact hfits.emptied afterFork hseek
  rewound := by
    intro afterFork hwrite
    rw [hphase] at hwrite
    have hkept := htext (by rw [hwrite]; rfl)
    have hrewound := hfits.rewound afterFork hwrite
    constructor
    · rw [hkept.1, hrewound.1]
    · intro file hfile
      rw [hhas] at hfile
      rw [hkept.2 file hfile, hrewound.2 file hfile]
  recorded := by
    intro hrecorded
    rw [hphase] at hrecorded
    rw [(htext (InstancePhase.active_of_recorded hrecorded)).1]
    exact hfits.recorded hrecorded

/-- A step of one process keeps the lock coherent if the lock file is touched
by its owner only. -/
theorem Coherent.of_one_moves (hcoherent : state.Coherent) (pid : Pid)
    (hvalid : next.locks.Valid) (hself : next.Fits pid)
    (hphase : ∀ other ≠ pid, next.phase other = state.phase other)
    (hhas : ∀ other ≠ pid, ∀ file,
      next.locks.Has other file ↔ state.locks.Has other file)
    (hlocks : ∀ other ≠ pid,
      next.locks.Locks other ↔ state.locks.Locks other)
    (htext : ∀ other ≠ pid, (state.phase other).active = true →
      next.text = state.text ∧ ∀ file, state.locks.Has other file →
        next.position file = state.position file)
    (hactive : (next.phase pid).active = true → ∀ other ≠ pid,
      (state.phase other).active = false) :
    next.Coherent where
  valid := hvalid
  fits := by
    intro other
    by_cases hsame : other = pid
    · rw [hsame]
      exact hself
    · exact (hcoherent.fits other).frame (hphase other hsame)
        (hhas other hsame) (hlocks other hsame) (htext other hsame)
  unique := by
    intro first second hfirst hsecond
    by_cases hfirstSelf : first = pid
    · subst hfirstSelf
      by_contra hne
      have hother : second ≠ first := fun hsame => hne hsame.symm
      rw [hphase second hother, hactive hfirst second hother] at hsecond
      cases hsecond
    · by_cases hsecondSelf : second = pid
      · subst hsecondSelf
        rw [hphase first hfirstSelf, hactive hsecond first hfirstSelf] at hfirst
        cases hfirst
      · rw [hphase first hfirstSelf] at hfirst
        rw [hphase second hsecondSelf] at hsecond
        exact hcoherent.unique hfirst hsecond

theorem Coherent.others_inactive (hcoherent : state.Coherent)
    (hactive : (state.phase pid).active = true) (hne : other ≠ pid) :
    (state.phase other).active = false := by
  cases hother : (state.phase other).active with
  | false => rfl
  | true => exact (hne (hcoherent.unique hother hactive)).elim

theorem Coherent.of_same_lock (hcoherent : state.Coherent)
    (hphase : ∀ other, next.phase other = state.phase other)
    (hlocks : next.locks = state.locks) (htext : next.text = state.text)
    (hposition : next.position = state.position) : next.Coherent where
  valid := by
    rw [hlocks]
    exact hcoherent.valid
  fits := by
    intro other
    refine (hcoherent.fits other).frame (hphase other) ?_ ?_ ?_
    · simp [hlocks]
    · rw [hlocks]
    · simp [htext, hposition]
  unique := by
    intro first second hfirst hsecond
    rw [hphase] at hfirst hsecond
    exact hcoherent.unique hfirst hsecond

/-- A process goes on to a phase with the same hold on the lock. -/
theorem Coherent.setPhase (hcoherent : state.Coherent) {phase : InstancePhase}
    (hfile : phase.hasFile = (state.phase pid).hasFile)
    (hlock : phase.hasLock = (state.phase pid).hasLock)
    (hactive : phase.active = true → (state.phase pid).active = true)
    (hcall : ∀ call afterFork, phase = .recording call afterFork →
      call = .setLen)
    (hrecorded : phase.recorded = true → state.text = pidText pid) :
    (state.setPhase pid phase).Coherent := by
  have hfits := hcoherent.fits pid
  refine hcoherent.of_one_moves pid hcoherent.valid ?_ ?_ ?_ ?_ ?_ ?_
  · constructor
    · rw [phase_setPhase, hfile]
      exact hfits.file
    · rw [phase_setPhase, hlock]
      exact hfits.lock
    · intro afterFork hseek
      rw [phase_setPhase] at hseek
      cases hcall _ _ hseek
    · intro afterFork hwrite
      rw [phase_setPhase] at hwrite
      cases hcall _ _ hwrite
    · rw [phase_setPhase]
      exact hrecorded
  · intro other hne
    exact phase_setPhase_of_ne state pid phase hne
  · simp
  · simp
  · simp
  · intro hnow other hne
    rw [phase_setPhase] at hnow
    exact hcoherent.others_inactive (hactive hnow) hne

/-- Closing the lock file, by dropping the guard or by the end of the
process. -/
theorem Coherent.close (hcoherent : state.Coherent) {phase : InstancePhase}
    (hphase : phase = .gone ∨ phase = .draining) :
    ({ state with locks := state.locks.close pid }.setPhase
      pid phase).Coherent := by
  have hfile : phase.hasFile = false := by
    rcases hphase with rfl | rfl <;> rfl
  have hlock : phase.hasLock = false := by
    rcases hphase with rfl | rfl <;> rfl
  have hinactive : phase.active = false := by
    rcases hphase with rfl | rfl <;> rfl
  refine hcoherent.of_one_moves pid (hcoherent.valid.close pid)
    ?_ ?_ ?_ ?_ ?_ ?_
  · apply Fits.of_unread
    · rw [phase_setPhase, hfile]
      simp [LockTable.has_close]
    · rw [phase_setPhase, hlock, locks_setPhase, LockTable.locks_close]
      simp
    · rw [phase_setPhase]
      rcases hphase with rfl | rfl <;> rfl
  · intro other hne
    exact phase_setPhase_of_ne _ pid phase hne
  · intro other hne file
    rw [locks_setPhase, LockTable.has_close]
    simp [hne]
  · intro other hne
    rw [locks_setPhase, LockTable.locks_close]
    simp [hne]
  · simp
  · intro hnow
    rw [phase_setPhase, hinactive] at hnow
    cases hnow

theorem Coherent.launch (hcoherent : state.Coherent)
    (hgone : state.phase pid = .gone) (process : Instance)
    (hloading : process.phase = .loading) :
    { state with
      process := Function.update state.process pid process }.Coherent := by
  have hphase : ({ state with
      process := Function.update state.process pid process }).phase pid =
        .loading := by
    simp [phase, hloading]
  have hfits := hcoherent.fits pid
  refine hcoherent.of_one_moves pid hcoherent.valid ?_ ?_ ?_ ?_ ?_ ?_
  · apply Fits.of_unread
    · rw [hphase]
      have hfile := hfits.file
      rw [hgone] at hfile
      exact hfile
    · rw [hphase]
      have hlock := hfits.lock
      rw [hgone] at hlock
      exact hlock
    · rw [hphase]
      rfl
  · intro other hne
    simp [phase, hne]
  · simp
  · simp
  · simp
  · intro hnow
    rw [hphase] at hnow
    cases hnow

theorem Coherent.openLock (hcoherent : state.Coherent)
    (hloading : state.phase pid = .loading) :
    ({ state with
      locks := state.locks.openFile pid
      position := Function.update state.position state.locks.opened 0
      }.setPhase pid .opened).Coherent := by
  have hfits := hcoherent.fits pid
  have hvalid := hcoherent.valid
  have hnone : ∀ file, ¬ state.locks.Has pid file :=
    hfits.no_file (by rw [hloading]; rfl)
  refine hcoherent.of_one_moves pid (hvalid.openFile hnone)
    ?_ ?_ ?_ ?_ ?_ ?_
  · apply Fits.of_unread
    · rw [phase_setPhase, locks_setPhase]
      simp [LockTable.has_openFile, InstancePhase.hasFile]
    · rw [phase_setPhase, locks_setPhase, hvalid.locks_openFile, hfits.lock,
        hloading]
      rfl
    · rw [phase_setPhase]
      rfl
  · intro other hne
    exact phase_setPhase_of_ne _ pid .opened hne
  · intro other hne file
    rw [locks_setPhase, LockTable.has_openFile]
    simp [hne]
  · intro other hne
    rw [locks_setPhase, hvalid.locks_openFile]
  · intro other _ _
    constructor
    · rfl
    · intro file hhas
      have hold : file ≠ state.locks.opened :=
        (hvalid.numbered hhas).ne
      simp [hold]
  · intro hnow
    rw [phase_setPhase] at hnow
    cases hnow

/-- The lock is granted only while nobody has it. -/
theorem Coherent.none_locks_of_granted (hcoherent : state.Coherent)
    (hopened : state.phase pid = .opened) {locks : LockTable Pid}
    (hgranted : state.locks.tryLock pid = some locks) (other : Pid) :
    ¬ state.locks.Locks other := by
  have hfree : ¬ state.locks.Locks pid := by
    rw [(hcoherent.fits pid).lock, hopened]
    simp [InstancePhase.hasLock, InstancePhase.active]
  rcases LockTable.tryLock_eq_some_iff.mp hgranted with ⟨file, hfile, _⟩
  have hhas := LockTable.has_of_fileOf hfile
  have hsome : (state.locks.tryLock pid).isSome = true := by simp [hgranted]
  rcases (hcoherent.valid.tryLock_isSome_iff hhas).mp hsome with hmine | hnone
  · exact (hfree hmine).elim
  · exact hnone other

theorem Coherent.flock (hcoherent : state.Coherent)
    (hopened : state.phase pid = .opened) {locks : LockTable Pid}
    (hgranted : state.locks.tryLock pid = some locks) :
    ({ state with locks := locks }.setPhase pid
      (.recording .setLen false)).Coherent := by
  have hnone := hcoherent.none_locks_of_granted hopened hgranted
  have hvalid := hcoherent.valid
  refine hcoherent.of_one_moves pid (hvalid.tryLock hgranted)
    ?_ ?_ ?_ ?_ ?_ ?_
  · apply Fits.of_unread
    · rw [phase_setPhase, locks_setPhase,
        exists_congr fun _ => LockTable.has_of_tryLock hgranted,
        (hcoherent.fits pid).file, hopened]
      rfl
    · rw [phase_setPhase]
      simp [LockTable.locks_of_tryLock hgranted, InstancePhase.hasLock,
        InstancePhase.active]
    · rw [phase_setPhase]
      rfl
  · intro other hne
    exact phase_setPhase_of_ne _ pid _ hne
  · intro other _ file
    rw [locks_setPhase, LockTable.has_of_tryLock hgranted]
  · intro other hne
    rw [locks_setPhase, hvalid.locks_of_tryLock_iff hgranted (hnone pid)]
    simp [hne, hnone other]
  · simp
  · intro _ other _
    cases hother : (state.phase other).active with
    | false => rfl
    | true =>
        have hlock : (state.phase other).hasLock = true := by
          simp [InstancePhase.hasLock, hother]
        exact (hnone other ((hcoherent.fits other).lock.mpr hlock)).elim

theorem afterRecord_recorded (process : Instance) (afterFork : Bool) :
    (afterRecord process afterFork).recorded = true := by
  unfold afterRecord
  split <;> rfl

theorem phase_callPid_write (file : ℕ) (afterFork : Bool) :
    (state.callPid pid file afterFork .write).phase pid =
      afterRecord (state.process pid) afterFork := by
  simp [callPid]

theorem phase_callPid_of_ne (file : ℕ) (afterFork : Bool) (call : PidCall)
    (hne : other ≠ pid) :
    (state.callPid pid file afterFork call).phase other =
      state.phase other := by
  cases call <;> exact phase_setPhase_of_ne _ pid _ hne

@[simp] theorem locks_callPid (file : ℕ) (afterFork : Bool) (call : PidCall) :
    (state.callPid pid file afterFork call).locks = state.locks := by
  cases call <;> rfl

theorem Coherent.fits_callPid (hcoherent : state.Coherent) {call : PidCall}
    {afterFork : Bool} {file : ℕ}
    (hphase : state.phase pid = .recording call afterFork)
    (hfile : state.locks.Has pid file) :
    (state.callPid pid file afterFork call).Fits pid := by
  have hfits := hcoherent.fits pid
  have hlock : state.locks.Locks pid := by
    rw [hfits.lock, hphase]
    rfl
  have hopen : ∃ file, state.locks.Has pid file := ⟨file, hfile⟩
  cases call with
  | setLen =>
      constructor
      · simpa [callPid, InstancePhase.hasFile] using hopen
      · simpa [callPid, InstancePhase.hasLock, InstancePhase.active]
          using hlock
      · simp [callPid]
      · simp [callPid]
      · simp [callPid, InstancePhase.recorded]
  | seek =>
      have hemptied := hfits.emptied afterFork hphase
      constructor
      · simpa [callPid, InstancePhase.hasFile] using hopen
      · simpa [callPid, InstancePhase.hasLock, InstancePhase.active]
          using hlock
      · simp [callPid]
      · intro _ _
        constructor
        · exact hemptied
        · intro found hfound
          have hsame : found = file := hcoherent.valid.one_file hfound hfile
          simp [callPid, hsame]
      · simp [callPid, InstancePhase.recorded]
  | write =>
      have hrewound := hfits.rewound afterFork hphase
      have hrecorded := afterRecord_recorded (state.process pid) afterFork
      have hactive := InstancePhase.active_of_recorded hrecorded
      have hholds : (afterRecord (state.process pid) afterFork).hasFile =
          true := by
        unfold afterRecord
        split <;> rfl
      constructor
      · simpa [callPid, hholds] using hopen
      · simpa [callPid, InstancePhase.hasLock, hactive] using hlock
      · intro _ hseek
        rw [phase_callPid_write] at hseek
        rw [hseek] at hrecorded
        cases hrecorded
      · intro _ hwrite
        rw [phase_callPid_write] at hwrite
        rw [hwrite] at hrecorded
        cases hrecorded
      · intro _
        simp [callPid, hrewound.1, hrewound.2 file hfile]

theorem Coherent.callPid (hcoherent : state.Coherent) {call : PidCall}
    {afterFork : Bool} {file : ℕ}
    (hphase : state.phase pid = .recording call afterFork)
    (hfile : state.locks.Has pid file) :
    (state.callPid pid file afterFork call).Coherent := by
  have hactive : (state.phase pid).active = true := by rw [hphase]; rfl
  refine hcoherent.of_one_moves pid ?_
    (hcoherent.fits_callPid hphase hfile) ?_ ?_ ?_ ?_ ?_
  · rw [locks_callPid]
    exact hcoherent.valid
  · intro other hne
    exact phase_callPid_of_ne file afterFork call hne
  · simp
  · simp
  · intro other hne hother
    rw [hcoherent.others_inactive hactive hne] at hother
    cases hother
  · intro _ other hne
    exact hcoherent.others_inactive hactive hne

/-- The forked child takes the place of its parent, which only exits. -/
theorem Coherent.fork (hcoherent : state.Coherent)
    (hphase : state.phase pid = .acquired ∨ state.phase pid = .forked)
    (hchild : state.phase child = .gone) :
    { state with
      locks := state.locks.inherit pid child
      process := Function.update
        (Function.update state.process child
          { state.process pid with phase := .forked })
        pid { state.process pid with phase := .parent } }.Coherent := by
  have hvalid := hcoherent.valid
  have hactive : (state.phase pid).active = true := by
    rcases hphase with hphase | hphase <;> rw [hphase] <;> rfl
  have hlocks : state.locks.Locks pid := by
    rw [(hcoherent.fits pid).lock]
    simp [InstancePhase.hasLock, hactive]
  have hnone : ∀ file, ¬ state.locks.Has child file :=
    (hcoherent.fits child).no_file (by rw [hchild]; rfl)
  have hne : child ≠ pid := by
    rintro rfl
    rw [hchild] at hactive
    cases hactive
  have hinherit : ∀ other, (state.locks.inherit pid child).Locks other ↔
      other = child ∨ state.locks.Locks other :=
    fun other => hvalid.locks_inherit hlocks
  generalize hnext : ({ state with
      locks := state.locks.inherit pid child
      process := Function.update
        (Function.update state.process child
          { state.process pid with phase := .forked })
        pid { state.process pid with phase := .parent } } : Instances) = next
  have hparentPhase : next.phase pid = .parent := by
    simp [← hnext, phase]
  have hchildPhase : next.phase child = .forked := by
    simp [← hnext, phase, hne]
  have hotherPhase : ∀ other, other ≠ pid → other ≠ child →
      next.phase other = state.phase other := by
    intro other hpid hother
    simp [← hnext, phase, hpid, hother]
  have hnextLocks : next.locks = state.locks.inherit pid child := by
    simp [← hnext]
  constructor
  · rw [hnextLocks]
    exact hvalid.inherit hlocks hnone
  · intro other
    by_cases hpid : other = pid
    · subst hpid
      apply Fits.of_unread
      · rw [hparentPhase, hnextLocks]
        rcases hlocks with ⟨file, hhas, _⟩
        simp only [InstancePhase.hasFile, iff_true]
        exact ⟨file, hvalid.has_inherit.mpr (Or.inr hhas)⟩
      · rw [hparentPhase, hnextLocks, hinherit]
        simp [hlocks, InstancePhase.hasLock]
      · rw [hparentPhase]
        rfl
    · by_cases hother : other = child
      · subst hother
        apply Fits.of_unread
        · rw [hchildPhase, hnextLocks]
          rcases hlocks with ⟨file, hhas, _⟩
          simp only [InstancePhase.hasFile, iff_true]
          exact ⟨file, hvalid.has_inherit.mpr (Or.inl ⟨rfl, hhas⟩)⟩
        · rw [hchildPhase, hnextLocks, hinherit]
          simp [InstancePhase.hasLock, InstancePhase.active]
        · rw [hchildPhase]
          rfl
      · refine (hcoherent.fits other).frame (hotherPhase other hpid hother)
          ?_ ?_ ?_
        · intro file
          rw [hnextLocks, hvalid.has_inherit]
          simp [hother]
        · rw [hnextLocks, hinherit]
          simp [hother]
        · simp [← hnext]
  · have honly : ∀ other, (next.phase other).active = true →
        other = child := by
      intro other hother
      by_contra hnot
      by_cases hpid : other = pid
      · rw [hpid, hparentPhase] at hother
        cases hother
      · rw [hotherPhase other hpid hnot,
          hcoherent.others_inactive hactive hpid] at hother
        cases hother
    intro first second hfirst hsecond
    rw [honly first hfirst, honly second hsecond]

theorem serveStep_eq_some (hstep : state.serveStep pid = some next) :
    ∃ bound server, next =
      (state.setSocket (state.process pid).socketPath bound).setServer pid
        server ∨ next = state.setServer pid server := by
  unfold serveStep at hstep
  cases hserver : (state.process pid).server with
  | clearing =>
      simp only [hserver, Option.some.injEq] at hstep
      exact ⟨none, .binding, Or.inl hstep.symm⟩
  | binding =>
      simp only [hserver] at hstep
      split at hstep
      · rw [Option.some.injEq] at hstep
        exact ⟨some pid, .listening, Or.inl hstep.symm⟩
      · rw [Option.some.injEq] at hstep
        exact ⟨none, .ended, Or.inr hstep.symm⟩
  | unspawned => simp [hserver] at hstep
  | listening => simp [hserver] at hstep
  | ended => simp [hserver] at hstep

theorem Coherent.setServer (hcoherent : state.Coherent) (server : ServerTask) :
    (state.setServer pid server).Coherent :=
  hcoherent.of_same_lock (phase_setServer state pid server) rfl rfl rfl

theorem Coherent.setSocket (hcoherent : state.Coherent) (path : String)
    (bound : Option Pid) : (state.setSocket path bound).Coherent :=
  hcoherent.of_same_lock (fun _ => rfl) rfl rfl rfl

theorem Coherent.step {action : InstanceAction} (hcoherent : state.Coherent)
    (hstep : step state action = some next) : next.Coherent := by
  cases action with
  | launch pid socketPath background =>
      obtain ⟨hgone, rfl⟩ := guarded_eq_some_iff.mp hstep
      exact hcoherent.launch hgone _ rfl
  | openLock pid =>
      obtain ⟨hloading, rfl⟩ := guarded_eq_some_iff.mp hstep
      exact hcoherent.openLock hloading
  | flock pid =>
      simp only [Instances.step, Option.ite_none_right_eq_some] at hstep
      obtain ⟨hopened, hstep⟩ := hstep
      cases hlock : state.locks.tryLock pid with
      | some locks =>
          simp only [hlock, Option.some.injEq] at hstep
          rw [← hstep]
          exact hcoherent.flock hopened hlock
      | none =>
          simp only [hlock, Option.some.injEq] at hstep
          rw [← hstep]
          apply hcoherent.setPhase <;> simp [hopened, InstancePhase.hasFile,
            InstancePhase.hasLock, InstancePhase.active,
            InstancePhase.recorded]
  | recordPid pid =>
      simp only [Instances.step] at hstep
      split at hstep
      next call afterFork file hphase hfile =>
        rw [Option.some.injEq] at hstep
        rw [← hstep]
        exact hcoherent.callPid hphase (LockTable.has_of_fileOf hfile)
      next => cases hstep
  | fork pid child =>
      obtain ⟨⟨hphase, hchild⟩, rfl⟩ := guarded_eq_some_iff.mp hstep
      exact hcoherent.fork hphase hchild
  | detach pid =>
      obtain ⟨hforked, rfl⟩ := guarded_eq_some_iff.mp hstep
      apply hcoherent.setPhase <;> simp [hforked, InstancePhase.hasFile,
        InstancePhase.hasLock, InstancePhase.active, InstancePhase.recorded]
  | enterRun pid =>
      obtain ⟨hstarting, rfl⟩ := guarded_eq_some_iff.mp hstep
      have hrecorded := (hcoherent.fits pid).recorded (by rw [hstarting]; rfl)
      apply Coherent.setServer
      apply hcoherent.setPhase <;> simp [hstarting, InstancePhase.hasFile,
        InstancePhase.hasLock, InstancePhase.active, hrecorded]
  | serve pid =>
      simp only [Instances.step, Option.ite_none_right_eq_some] at hstep
      rcases serveStep_eq_some hstep.2 with ⟨bound, server, rfl | rfl⟩
      · exact (hcoherent.setSocket _ bound).setServer server
      · exact hcoherent.setServer server
  | endServer pid =>
      obtain ⟨_, rfl⟩ := guarded_eq_some_iff.mp hstep
      exact hcoherent.setServer .ended
  | shutDown pid =>
      obtain ⟨hrunning, rfl⟩ := guarded_eq_some_iff.mp hstep
      have hrecorded := (hcoherent.fits pid).recorded (by rw [hrunning]; rfl)
      refine (hcoherent.setSocket _ none).setPhase ?_ ?_ ?_ ?_
        (fun _ => hrecorded) <;> simp [hrunning, InstancePhase.hasFile,
          InstancePhase.hasLock, InstancePhase.active]
  | dropLock pid =>
      obtain ⟨_, rfl⟩ := guarded_eq_some_iff.mp hstep
      exact hcoherent.close (Or.inr rfl)
  | exit pid =>
      obtain ⟨_, rfl⟩ := guarded_eq_some_iff.mp hstep
      exact hcoherent.close (Or.inl rfl)

theorem Coherent.run {actions : List InstanceAction}
    (hcoherent : state.Coherent)
    (hrun : LabelledRun.run Instances.step state actions = some next) :
    next.Coherent :=
  invariant_of_every_step (fun _ _ _ hstate hstep => hstate.step hstep)
    hcoherent hrun

/-- Between the acquisition of the lock and its release there is one process
at a time, whichever were started, have forked, failed or were killed, and
once it has recorded its PID the lock file holds nothing else. -/
theorem one_active_instance {text : List Char}
    {socket : String → Option Pid} {actions : List InstanceAction}
    {final : Instances}
    (hrun : LabelledRun.run step (start text socket) actions = some final) :
    (∀ first second, (final.phase first).active = true →
      (final.phase second).active = true → first = second) ∧
    ∀ pid, (final.phase pid).recorded = true → final.text = pidText pid := by
  have hcoherent := (coherent_start text socket).run hrun
  constructor
  · intro first second hfirst hsecond
    exact hcoherent.unique hfirst hsecond
  · intro pid hrecorded
    exact (hcoherent.fits pid).recorded hrecorded

/-- A second daemon is started while the first one moves to the
background. -/
def startedTwice : List InstanceAction :=
  [.launch 7 "mesh.sock" true, .openLock 7, .flock 7, .recordPid 7,
    .recordPid 7, .recordPid 7, .launch 8 "mesh.sock" false, .openLock 8,
    .fork 7 9, .exit 7, .flock 8, .detach 9, .recordPid 9, .recordPid 9,
    .recordPid 9]

theorem one_active_instance_started_twice :
    ∃ final,
      LabelledRun.run step (start [] fun _ => none) startedTwice =
        some final ∧
      final.phase 8 = .refused ∧ final.text = pidText 9 ∧
      ∀ first second, (final.phase first).active = true →
        (final.phase second).active = true → first = second := by
  have hrun : LabelledRun.run step (start [] fun _ => none) startedTwice =
      some _ := rfl
  have hone := one_active_instance hrun
  exact ⟨_, hrun, rfl, hone.2 9 rfl, hone.1⟩

/-- No stale lock: the lock is granted exactly while no other process holds
it, and a process which has ended holds nothing. -/
theorem lock_granted_iff {text : List Char}
    {socket : String → Option Pid} {actions : List InstanceAction}
    {final next : Instances} {pid : Pid}
    (hrun : LabelledRun.run step (start text socket) actions = some final)
    (hstep : step final (.flock pid) = some next) :
    (next.phase pid).active = true ↔
      ∀ other, (final.phase other).hasLock = false := by
  have hcoherent := (coherent_start text socket).run hrun
  simp only [step, Option.ite_none_right_eq_some] at hstep
  obtain ⟨hopened, hstep⟩ := hstep
  cases hlock : final.locks.tryLock pid with
  | some locks =>
      simp only [hlock, Option.some.injEq] at hstep
      rw [← hstep, phase_setPhase]
      constructor
      · intro _ other
        have hnone := hcoherent.none_locks_of_granted hopened hlock other
        rw [(hcoherent.fits other).lock] at hnone
        simpa using hnone
      · intro _
        rfl
  | none =>
      simp only [hlock, Option.some.injEq] at hstep
      rw [← hstep, phase_setPhase]
      constructor
      · intro hrefused
        cases hrefused
      · intro hfree
        have hfile : (final.phase pid).hasFile = true := by
          rw [hopened]
          rfl
        rcases (hcoherent.fits pid).file.mpr hfile with ⟨file, hhas⟩
        have hnone : ∀ other, ¬ final.locks.Locks other := by
          intro other
          rw [(hcoherent.fits other).lock, hfree other]
          simp
        have hgranted :=
          (hcoherent.valid.tryLock_isSome_iff hhas).mpr (Or.inr hnone)
        rw [hlock] at hgranted
        cases hgranted

theorem lock_granted_after_kill :
    ∃ final next,
      LabelledRun.run step (start [] fun _ => none)
        [.launch 7 "mesh.sock" false, .openLock 7, .flock 7, .exit 7,
          .launch 8 "mesh.sock" false, .openLock 8] = some final ∧
      step final (.flock 8) = some next ∧
      ((next.phase 8).active = true ↔
        ∀ other, (final.phase other).hasLock = false) := by
  have hrun : LabelledRun.run step (start [] fun _ => none)
      [.launch 7 "mesh.sock" false, .openLock 7, .flock 7, .exit 7,
        .launch 8 "mesh.sock" false, .openLock 8] = some _ := rfl
  exact ⟨_, _, hrun, rfl, lock_granted_iff hrun rfl⟩

/-! ## The socket file -/

/-- No server task gets a turn between the end of the `select!` in `run` and
the end of the runtime. -/
def ServesWhileRunning (state : Instances) : InstanceAction → Prop
  | .serve pid => state.phase pid = .running
  | _ => True

structure OwnSocket (state : Instances) : Prop where
  bound : ∀ pid, state.phase pid = .running →
    (state.process pid).server = .listening →
      state.socket (state.process pid).socketPath = some pid
  removed : ∀ pid, state.phase pid = .stopping →
    state.socket (state.process pid).socketPath = none

theorem ownSocket_start (text : List Char) (socket : String → Option Pid) :
    (start text socket).OwnSocket := by
  constructor <;> simp [start, phase]

/-- Most steps leave the socket files alone. -/
theorem OwnSocket.of_same_sockets (hown : state.OwnSocket) (pid : Pid)
    (hsocket : next.socket = state.socket)
    (hprocess : ∀ other, other ≠ pid →
      next.process other = state.process other)
    (hrunning : next.phase pid = .running →
      (next.process pid).server = .listening → False)
    (hstopping : next.phase pid ≠ .stopping) : next.OwnSocket where
  bound := by
    intro other hphase hserver
    by_cases hsame : other = pid
    · subst hsame
      exact (hrunning hphase hserver).elim
    · rw [phase, hprocess other hsame] at hphase
      rw [hprocess other hsame] at hserver ⊢
      rw [hsocket]
      exact hown.bound other hphase hserver
  removed := by
    intro other hphase
    by_cases hsame : other = pid
    · subst hsame
      exact (hstopping hphase).elim
    · rw [phase, hprocess other hsame] at hphase
      rw [hprocess other hsame, hsocket]
      exact hown.removed other hphase

/-- A socket file is only ever touched by the one process which has the
lock. -/
theorem OwnSocket.of_only_active (hcoherent : state.Coherent)
    (hactive : (state.phase pid).active = true)
    (hprocess : ∀ other, other ≠ pid →
      next.process other = state.process other)
    (hbound : next.phase pid = .running →
      (next.process pid).server = .listening →
        next.socket (next.process pid).socketPath = some pid)
    (hremoved : next.phase pid = .stopping →
      next.socket (next.process pid).socketPath = none) :
    next.OwnSocket := by
  have hothers : ∀ other, other ≠ pid →
      (next.phase other).active = false := by
    intro other hne
    rw [phase, hprocess other hne]
    exact hcoherent.others_inactive hactive hne
  constructor
  · intro other hphase hserver
    by_cases hsame : other = pid
    · rw [hsame] at hphase hserver ⊢
      exact hbound hphase hserver
    · have hinactive := hothers other hsame
      rw [hphase] at hinactive
      cases hinactive
  · intro other hphase
    by_cases hsame : other = pid
    · rw [hsame] at hphase ⊢
      exact hremoved hphase
    · have hinactive := hothers other hsame
      rw [hphase] at hinactive
      cases hinactive

theorem process_setPhase_of_ne (state : Instances) (phase : InstancePhase)
    (hne : other ≠ pid) :
    (state.setPhase pid phase).process other = state.process other := by
  simp [setPhase, hne]

theorem process_setServer_of_ne (state : Instances) (server : ServerTask)
    (hne : other ≠ pid) :
    (state.setServer pid server).process other = state.process other := by
  simp [setServer, hne]

theorem OwnSocket.setPhase (hown : state.OwnSocket) {phase : InstancePhase}
    (hphase : phase ≠ .running ∧ phase ≠ .stopping) :
    (state.setPhase pid phase).OwnSocket := by
  refine hown.of_same_sockets pid (socket_setPhase state pid phase) ?_ ?_ ?_
  · intro other hne
    exact process_setPhase_of_ne state phase hne
  · intro hrunning
    rw [phase_setPhase] at hrunning
    exact (hphase.1 hrunning).elim
  · rw [phase_setPhase]
    exact hphase.2

theorem OwnSocket.of_same_processes (hown : state.OwnSocket)
    (hsocket : next.socket = state.socket)
    (hprocess : next.process = state.process) : next.OwnSocket where
  bound := by
    intro pid hphase hserver
    rw [phase, hprocess] at hphase
    rw [hprocess] at hserver ⊢
    rw [hsocket]
    exact hown.bound pid hphase hserver
  removed := by
    intro pid hphase
    rw [phase, hprocess] at hphase
    rw [hprocess, hsocket]
    exact hown.removed pid hphase

theorem OwnSocket.serveStep (hcoherent : state.Coherent)
    (hrunning : state.phase pid = .running)
    (hstep : state.serveStep pid = some next) : next.OwnSocket := by
  have hactive : (state.phase pid).active = true := by
    rw [hrunning]
    rfl
  unfold Instances.serveStep at hstep
  cases hserver : (state.process pid).server with
  | clearing =>
      simp only [hserver, Option.some.injEq] at hstep
      subst hstep
      apply OwnSocket.of_only_active hcoherent hactive
      · intro other hne
        exact process_setServer_of_ne _ _ hne
      · simp [setServer]
      · simp [hrunning]
  | binding =>
      simp only [hserver] at hstep
      split at hstep
      · rw [Option.some.injEq] at hstep
        subst hstep
        apply OwnSocket.of_only_active hcoherent hactive
        · intro other hne
          exact process_setServer_of_ne _ _ hne
        · simp [setServer, setSocket]
        · simp [hrunning]
      · rw [Option.some.injEq] at hstep
        subst hstep
        apply OwnSocket.of_only_active hcoherent hactive
        · intro other hne
          exact process_setServer_of_ne _ _ hne
        · simp [setServer]
        · simp [hrunning]
  | unspawned => simp [hserver] at hstep
  | listening => simp [hserver] at hstep
  | ended => simp [hserver] at hstep

theorem OwnSocket.step {action : InstanceAction} (hown : state.OwnSocket)
    (hcoherent : state.Coherent) (hserves : ServesWhileRunning state action)
    (hstep : Instances.step state action = some next) : next.OwnSocket := by
  cases action with
  | launch pid socketPath background =>
      obtain ⟨_, rfl⟩ := guarded_eq_some_iff.mp hstep
      refine hown.of_same_sockets pid rfl ?_ ?_ ?_
      · intro other hne
        simp [hne]
      · simp [phase]
      · simp [phase]
  | openLock pid =>
      obtain ⟨_, rfl⟩ := guarded_eq_some_iff.mp hstep
      refine (hown.of_same_processes ?_ ?_).setPhase (by simp) <;> rfl
  | flock pid =>
      simp only [Instances.step, Option.ite_none_right_eq_some] at hstep
      obtain ⟨_, hstep⟩ := hstep
      cases hlock : state.locks.tryLock pid with
      | some locks =>
          simp only [hlock, Option.some.injEq] at hstep
          rw [← hstep]
          refine (hown.of_same_processes ?_ ?_).setPhase (by simp) <;> rfl
      | none =>
          simp only [hlock, Option.some.injEq] at hstep
          rw [← hstep]
          exact hown.setPhase (by simp)
  | recordPid pid =>
      simp only [Instances.step] at hstep
      split at hstep
      next call afterFork file _ _ =>
        rw [Option.some.injEq] at hstep
        rw [← hstep]
        cases call with
        | setLen =>
            refine (hown.of_same_processes ?_ ?_).setPhase (by simp) <;> rfl
        | seek =>
            refine (hown.of_same_processes ?_ ?_).setPhase (by simp) <;> rfl
        | write =>
            have hphase : afterRecord (state.process pid) afterFork ≠
                .running ∧
              afterRecord (state.process pid) afterFork ≠ .stopping := by
              unfold afterRecord
              split <;> simp
            refine (hown.of_same_processes ?_ ?_).setPhase hphase <;> rfl
      next => cases hstep
  | fork pid child =>
      obtain ⟨_, rfl⟩ := guarded_eq_some_iff.mp hstep
      -- Neither the parent nor the child is in `run`.
      constructor
      · intro other hphase hserver
        by_cases hpid : other = pid
        · simp [phase, hpid] at hphase
        · by_cases hchild : other = child
          · subst hchild
            simp [phase, hpid] at hphase
          · simp only [phase, Function.update_of_ne hpid,
              Function.update_of_ne hchild] at hphase hserver ⊢
            exact hown.bound other hphase hserver
      · intro other hphase
        by_cases hpid : other = pid
        · simp [phase, hpid] at hphase
        · by_cases hchild : other = child
          · subst hchild
            simp [phase, hpid] at hphase
          · simp only [phase, Function.update_of_ne hpid,
              Function.update_of_ne hchild] at hphase ⊢
            exact hown.removed other hphase
  | detach pid =>
      obtain ⟨_, rfl⟩ := guarded_eq_some_iff.mp hstep
      exact hown.setPhase (by simp)
  | enterRun pid =>
      obtain ⟨hstarting, rfl⟩ := guarded_eq_some_iff.mp hstep
      have hactive : (state.phase pid).active = true := by
        rw [hstarting]
        rfl
      apply OwnSocket.of_only_active hcoherent hactive
      · intro other hne
        rw [process_setServer_of_ne _ _ hne, process_setPhase_of_ne _ _ hne]
      · simp [setServer]
      · simp
  | serve pid =>
      simp only [Instances.step, Option.ite_none_right_eq_some] at hstep
      exact OwnSocket.serveStep hcoherent hserves hstep.2
  | endServer pid =>
      obtain ⟨_, rfl⟩ := guarded_eq_some_iff.mp hstep
      constructor
      · intro other hphase hserver
        by_cases hsame : other = pid
        · simp [hsame, setServer] at hserver
        · rw [phase_setServer] at hphase
          rw [process_setServer_of_ne _ _ hsame] at hserver ⊢
          exact hown.bound other hphase hserver
      · intro other hphase
        rw [phase_setServer] at hphase
        have hsocketPath : ((state.setServer pid .ended).process
            other).socketPath = (state.process other).socketPath := by
          by_cases hsame : other = pid
          · simp [hsame, setServer]
          · rw [process_setServer_of_ne _ _ hsame]
        rw [hsocketPath]
        exact hown.removed other hphase
  | shutDown pid =>
      obtain ⟨hrunning, rfl⟩ := guarded_eq_some_iff.mp hstep
      have hactive : (state.phase pid).active = true := by
        rw [hrunning]
        rfl
      apply OwnSocket.of_only_active hcoherent hactive
      · intro other hne
        exact process_setPhase_of_ne _ _ hne
      · simp
      · intro _
        simp [Instances.setPhase, setSocket]
  | dropLock pid =>
      obtain ⟨_, rfl⟩ := guarded_eq_some_iff.mp hstep
      refine (hown.of_same_processes ?_ ?_).setPhase (by simp) <;> rfl
  | exit pid =>
      obtain ⟨_, rfl⟩ := guarded_eq_some_iff.mp hstep
      refine (hown.of_same_processes ?_ ?_).setPhase (by simp) <;> rfl

/-- A listening daemon keeps its socket file: no other instance removes it or
puts its own in its place, and the file is gone by the time the lock is. -/
theorem socket_of_listening_daemon {text : List Char}
    {socket : String → Option Pid} {actions : List InstanceAction}
    {final : Instances}
    (hserves : MeetsAlong step ServesWhileRunning (start text socket) actions)
    (hrun : LabelledRun.run step (start text socket) actions = some final) :
    (∀ pid, final.phase pid = .running →
      (final.process pid).server = .listening →
        final.socket (final.process pid).socketPath = some pid) ∧
    ∀ pid, final.phase pid = .stopping →
      final.socket (final.process pid).socketPath = none := by
  have hboth : final.Coherent ∧ final.OwnSocket := by
    apply invariant_of_run ?_ ⟨coherent_start text socket,
      ownSocket_start text socket⟩ hserves hrun
    intro state action next hstate hallowed hstep
    exact ⟨hstate.1.step hstep, hstate.2.step hstate.1 hallowed hstep⟩
  exact ⟨hboth.2.bound, hboth.2.removed⟩

/-- The socket file of a killed daemon is replaced. -/
def restartedAfterKill : List InstanceAction :=
  [.launch 7 "mesh.sock" false, .openLock 7, .flock 7, .recordPid 7,
    .recordPid 7, .recordPid 7, .enterRun 7, .serve 7, .serve 7, .exit 7,
    .launch 8 "mesh.sock" false, .openLock 8, .flock 8, .recordPid 8,
    .recordPid 8, .recordPid 8, .enterRun 8, .serve 8, .serve 8]

theorem socket_of_restarted_daemon :
    ∃ final,
      LabelledRun.run step (start [] fun _ => none) restartedAfterKill =
        some final ∧
      final.phase 8 = .running ∧ final.socket "mesh.sock" = some 8 := by
  have hrun : LabelledRun.run step (start [] fun _ => none)
      restartedAfterKill = some _ := rfl
  refine ⟨_, hrun, rfl, ?_⟩
  refine (socket_of_listening_daemon ?_ hrun).1 8 rfl rfl
  simp only [restartedAfterKill]
  repeat' constructor

end Instances

end MeshController
