import MeshController.ExternalEdits

/-!
# Reload signals

The watcher waits for a hangup signal, reloads, and waits again.  The signals
are not queued: one which comes while the watcher is busy sets a flag, and so
do ten.  An edit of the file must not get lost between them: the reload which
is under way when the signal comes may have read the file before the edit.
-/

namespace MeshController

open LabelledRun

theorem SnapshotRun.reload_proceed
    {state next : SnapshotRun} (hstep : state.step .proceed = some next) :
    next.reload = state.reload := by
  cases hscript : state.script with
  | nil =>
      simp only [SnapshotRun.step, SnapshotRun.proceed, hscript] at hstep
      contradiction
  | cons head rest =>
      rcases SnapshotRun.proceed_inversion hscript hstep with
        ⟨staleCache, _, _, rfl⟩ | ⟨staleCache, read, _, _, rfl⟩ |
        ⟨meshStep, _, _, rfl⟩ | ⟨meshConnected, selfInfo, _, rfl⟩ |
        ⟨node, _, rfl⟩ | ⟨steps, _, rfl⟩ <;> rfl

theorem EditLog.note_proceed
    (log : EditLog) (before next : SnapshotRun) :
    (log.note before .proceed next).loaded = log.loaded ∧
      (log.note before .proceed next).applied = log.applied := by
  unfold EditLog.note
  dsimp only
  split <;> exact ⟨rfl, rfl⟩

/-! ## The watcher -/

inductive WatchPhase where
  | waiting
  | reloading
  | finishing
deriving DecidableEq

/-- The task of `watch`; `pending` is the flag which a signal sets and `recv`
clears.  `signalled` records whether a signal has come since the last edit. -/
structure ReloadWatch where
  phase : WatchPhase
  pending : Bool
  signalled : Bool

/-- `returned` is the end of `reload_once`, after the brokers and once the
command queue has taken the resync. -/
inductive SignalAction where
  | hangup
  | recv
  | returned
  | daemon (action : SnapshotAction)

namespace ReloadWatch

def permits (watch : ReloadWatch) : SnapshotAction → Bool
  | .load => watch.phase = .reloading
  | _ => true

/-- A file which cannot be read ends the reload at once. -/
def after
    (watch : ReloadWatch) (next : SnapshotRun) :
    SnapshotAction → ReloadWatch
  | .load =>
      { watch with
        phase := if next.reload = .idle then .waiting else .reloading }
  | .overwrite => { watch with phase := .finishing }
  | .editFile _ => { watch with signalled := false }
  | _ => watch

end ReloadWatch

/-- The daemon, the operator and the watcher. -/
abbrev WatchRun := EditRun × ReloadWatch

namespace WatchRun

def start (daemon : Daemon) : WatchRun :=
  (.start daemon, { phase := .waiting, pending := false, signalled := false })

def step (state : WatchRun) : SignalAction → Option WatchRun
  | .hangup =>
      some (state.1, { state.2 with pending := true, signalled := true })
  | .recv =>
      if state.2.pending ∧ state.2.phase = .waiting then
        some (state.1, { state.2 with phase := .reloading, pending := false })
      else none
  | .returned =>
      if state.2.phase = .finishing then
        some (state.1, { state.2 with phase := .waiting })
      else none
  | .daemon action =>
      if state.2.permits action then
        (EditRun.step state.1 action).map fun next =>
          (next, state.2.after next.1 action)
      else none

theorem daemon_inversion
    {state next : WatchRun} {action : SnapshotAction}
    (hstep : step state (.daemon action) = some next) :
    state.2.permits action = true ∧
      ∃ edited, EditRun.step state.1 action = some edited ∧
        next = (edited, state.2.after edited.1 action) := by
  simp only [step, Option.ite_none_right_eq_some, Option.map_eq_some_iff]
    at hstep
  rcases hstep with ⟨hpermits, edited, hedited, hnext⟩
  exact ⟨hpermits, edited, hedited, hnext.symm⟩

/-- The side conditions concern the daemon and the operator. -/
def Regular (state : WatchRun) : SignalAction → Prop
  | .daemon action => state.1.Regular action
  | _ => True

def SavesApplied (state : WatchRun) : SignalAction → Prop
  | .daemon action => state.1.SavesApplied action
  | _ => True

instance decidableRegular (state : WatchRun) :
    ∀ action, Decidable (Regular state action)
  | .daemon action => EditRun.decidableRegular state.1 action
  | .hangup | .recv | .returned => isTrue trivial

instance decidableSavesApplied (state : WatchRun) :
    ∀ action, Decidable (SavesApplied state action)
  | .daemon action => EditRun.decidableSavesApplied state.1 action
  | .hangup | .recv | .returned => isTrue trivial

/-- Every signal which has come has been received, and the reload it asked for
has replaced the configuration or failed. -/
def Handled (state : WatchRun) : Prop :=
  state.2.pending = false ∧ state.2.phase ≠ .reloading

instance (state : WatchRun) : Decidable state.Handled :=
  inferInstanceAs (Decidable (_ ∧ _))

/-! ## What a reload under way still owes -/

/-- The reload under way reads the file from now on, or has read it since the
last edit. -/
def ReadsEdit (state : WatchRun) : Prop :=
  state.2.phase = .reloading ∧
    (state.1.1.reload = .idle ∨ state.1.2.loaded = true)

structure Tracked (state : WatchRun) : Prop where
  kept : state.1.Kept
  reloads : state.2.phase ≠ .reloading → state.1.1.reload = .idle
  current : state.1.2.applied = true →
    state.1.2.loaded = true ∨ state.1.1.reload = .idle
  owed : state.2.signalled = true →
    state.2.pending = true ∨ state.1.2.applied = true ∨ state.ReadsEdit

theorem tracked_start
    {daemon : Daemon} (hfile : daemon.configFile = some daemon.config) :
    (start daemon).Tracked := by
  constructor
  · exact EditRun.kept_start hfile
  · intro _
    rfl
  · intro _
    exact Or.inr rfl
  · intro hsignalled
    cases hsignalled

theorem Tracked.afterHangup
    {state : WatchRun} (htracked : state.Tracked) :
    Tracked (state.1, { state.2 with pending := true, signalled := true }) :=
  ⟨htracked.kept, htracked.reloads, htracked.current, fun _ => Or.inl rfl⟩

/-- The reload which begins has not read anything yet. -/
theorem Tracked.afterRecv
    {state : WatchRun} (htracked : state.Tracked)
    (hwaiting : state.2.phase = .waiting) :
    Tracked
      (state.1, { state.2 with phase := .reloading, pending := false }) := by
  have hidle : state.1.1.reload = .idle := by
    apply htracked.reloads
    rw [hwaiting]
    decide
  constructor
  · exact htracked.kept
  · intro hphase
    exact absurd rfl hphase
  · exact htracked.current
  · intro _
    exact Or.inr (Or.inr ⟨rfl, Or.inl hidle⟩)

theorem Tracked.afterReturned
    {state : WatchRun} (htracked : state.Tracked)
    (hfinishing : state.2.phase = .finishing) :
    Tracked (state.1, { state.2 with phase := .waiting }) := by
  have hnot : state.2.phase ≠ .reloading := by
    rw [hfinishing]
    decide
  constructor
  · exact htracked.kept
  · intro _
    exact htracked.reloads hnot
  · exact htracked.current
  · intro hsignalled
    rcases htracked.owed hsignalled with hpending | happlied | hreads
    · exact Or.inl hpending
    · exact Or.inr (Or.inl happlied)
    · exact absurd hreads.1 hnot

/-- A step of the daemon which neither edits the file nor belongs to a
reload. -/
theorem Tracked.of_unchanged
    {state : WatchRun} (htracked : state.Tracked) {edited : EditRun}
    (hkept : edited.Kept)
    (hreload : edited.1.reload = state.1.1.reload)
    (hloaded : edited.2.loaded = state.1.2.loaded)
    (happlied : edited.2.applied = state.1.2.applied) :
    Tracked (edited, state.2) := by
  constructor
  · exact hkept
  · simpa only [hreload] using htracked.reloads
  · simpa only [hreload, hloaded, happlied] using htracked.current
  · simpa only [ReadsEdit, hreload, hloaded, happlied] using htracked.owed

theorem Tracked.afterEditFile
    {state : WatchRun} (htracked : state.Tracked) {edited : EditRun}
    {configFile : Option Config} (hkept : edited.Kept)
    (hvalid : configFile.isSome = true)
    (hedited : EditRun.step state.1 (.editFile configFile) = some edited) :
    Tracked (edited, state.2.after edited.1 (.editFile configFile)) := by
  obtain ⟨config, rfl⟩ := Option.isSome_iff_exists.mp hvalid
  obtain ⟨next, hnext, rfl⟩ := observed_eq_some_iff.mp hedited
  simp only [SnapshotRun.step, Option.some.injEq] at hnext
  subst next
  constructor
  · exact hkept
  · exact htracked.reloads
  · intro happlied
    cases happlied
  · intro hsignalled
    cases hsignalled

/-- The file is as the last edit left it, so that the reload has it now. -/
theorem Tracked.afterLoad
    {state : WatchRun} (htracked : state.Tracked) {edited : EditRun}
    (hkept : edited.Kept)
    (hedited : EditRun.step state.1 .load = some edited) :
    Tracked (edited, state.2.after edited.1 .load) := by
  obtain ⟨next, hnext, rfl⟩ := observed_eq_some_iff.mp hedited
  obtain ⟨file, hfile, _⟩ := htracked.kept.file
  rcases SnapshotRun.load_inversion hnext with
    ⟨hnone, _⟩ | ⟨newConfig, _, rfl⟩
  · rw [hfile] at hnone
    contradiction
  · constructor
    · exact hkept
    · intro hother
      exact absurd rfl hother
    · intro _
      exact Or.inl rfl
    · intro hsignalled
      rcases htracked.owed hsignalled with hpending | happlied | _
      · exact Or.inl hpending
      · exact Or.inr (Or.inl happlied)
      · exact Or.inr (Or.inr ⟨rfl, Or.inr rfl⟩)

theorem Tracked.afterReadOld
    {state : WatchRun} (htracked : state.Tracked) {edited : EditRun}
    (hkept : edited.Kept)
    (hedited : EditRun.step state.1 .readOld = some edited) :
    Tracked (edited, state.2) := by
  obtain ⟨next, hnext, rfl⟩ := observed_eq_some_iff.mp hedited
  obtain ⟨newConfig, hreload, rfl⟩ := SnapshotRun.readOld_inversion hnext
  have hbusy : state.1.1.reload ≠ .idle := by
    rw [hreload]
    exact ReloadPhase.noConfusion
  constructor
  · exact hkept
  · intro hother
    exact absurd (htracked.reloads hother) hbusy
  · intro happlied
    exact Or.inl ((htracked.current happlied).resolve_right hbusy)
  · intro hsignalled
    rcases htracked.owed hsignalled with hpending | happlied | hreads
    · exact Or.inl hpending
    · exact Or.inr (Or.inl happlied)
    · exact Or.inr (Or.inr
        ⟨hreads.1, Or.inr (hreads.2.resolve_left hbusy)⟩)

theorem Tracked.afterOverwrite
    {state : WatchRun} (htracked : state.Tracked) {edited : EditRun}
    (hkept : edited.Kept)
    (hedited : EditRun.step state.1 .overwrite = some edited) :
    Tracked (edited, state.2.after edited.1 .overwrite) := by
  obtain ⟨next, hnext, rfl⟩ := observed_eq_some_iff.mp hedited
  obtain ⟨oldConfig, newConfig, hreload, rfl⟩ :=
    SnapshotRun.overwrite_inversion hnext
  have hbusy : state.1.1.reload ≠ .idle := by
    rw [hreload]
    exact ReloadPhase.noConfusion
  constructor
  · exact hkept
  · intro _
    rfl
  · intro _
    exact Or.inr rfl
  · intro hsignalled
    rcases htracked.owed hsignalled with hpending | happlied | hreads
    · exact Or.inl hpending
    · exact Or.inr (Or.inl ((htracked.current happlied).resolve_right hbusy))
    · exact Or.inr (Or.inl (hreads.2.resolve_left hbusy))

theorem Tracked.afterProceed
    {state : WatchRun} (htracked : state.Tracked) {edited : EditRun}
    (hkept : edited.Kept)
    (hedited : EditRun.step state.1 .proceed = some edited) :
    Tracked (edited, state.2) := by
  obtain ⟨next, hnext, rfl⟩ := observed_eq_some_iff.mp hedited
  have hreload : next.reload = state.1.1.reload :=
    SnapshotRun.reload_proceed hnext
  have hlog := EditLog.note_proceed state.1.2 state.1.1 next
  exact htracked.of_unchanged hkept hreload hlog.1 hlog.2

theorem Tracked.afterDaemon
    {state : WatchRun} (htracked : state.Tracked) {action : SnapshotAction}
    (hregular : state.1.Regular action)
    (hcurrent : state.1.SavesApplied action) {edited : EditRun}
    (hedited : EditRun.step state.1 action = some edited) :
    Tracked (edited, state.2.after edited.1 action) := by
  have hkept : edited.Kept :=
    htracked.kept.afterStep hregular hcurrent hedited
  cases action with
  | load => exact htracked.afterLoad hkept hedited
  | readOld => exact htracked.afterReadOld hkept hedited
  | overwrite => exact htracked.afterOverwrite hkept hedited
  | proceed => exact htracked.afterProceed hkept hedited
  | editFile configFile =>
      exact htracked.afterEditFile hkept hregular hedited
  | take work =>
      obtain ⟨next, hnext, rfl⟩ := observed_eq_some_iff.mp hedited
      rcases LabelledRun.guarded_eq_some_iff.mp hnext with ⟨_, rfl⟩
      exact htracked.of_unchanged hkept rfl rfl rfl
  | nodeChanges contacts =>
      obtain ⟨next, hnext, rfl⟩ := observed_eq_some_iff.mp hedited
      simp only [SnapshotRun.step, Option.some.injEq] at hnext
      subst next
      exact htracked.of_unchanged hkept rfl rfl rfl

theorem Tracked.afterStep
    {state next : WatchRun} {action : SignalAction} (htracked : state.Tracked)
    (hregular : state.Regular action) (hcurrent : state.SavesApplied action)
    (hstep : step state action = some next) : next.Tracked := by
  cases action with
  | hangup =>
      simp only [step, Option.some.injEq] at hstep
      exact hstep ▸ htracked.afterHangup
  | recv =>
      rcases LabelledRun.guarded_eq_some_iff.mp hstep with ⟨⟨_, hphase⟩, rfl⟩
      exact htracked.afterRecv hphase
  | returned =>
      rcases LabelledRun.guarded_eq_some_iff.mp hstep with ⟨hphase, rfl⟩
      exact htracked.afterReturned hphase
  | daemon action =>
      rcases daemon_inversion hstep with ⟨_, edited, hedited, rfl⟩
      exact htracked.afterDaemon hregular hcurrent hedited

theorem Tracked.applied_of_handled
    {state : WatchRun} (htracked : state.Tracked)
    (hsignalled : state.2.signalled = true) (hhandled : state.Handled) :
    state.1.2.applied = true := by
  rcases htracked.owed hsignalled with hpending | happlied | hreads
  · exact absurd hpending (by simp [hhandled.1])
  · exact happlied
  · exact absurd hreads.1 hhandled.2

end WatchRun

open WatchRun

/-- The region is added once the reload of the first signal has read the file,
and two more signals come before that reload is over. -/
def addsRegionDuringReload : List SignalAction :=
  connected.map .daemon ++
    [.hangup, .recv, .daemon .load, .daemon addsRegion, .hangup, .hangup,
      .daemon .readOld, .daemon .overwrite, .returned, .recv, .daemon .load,
      .daemon .readOld, .daemon .overwrite, .returned]

end MeshController
