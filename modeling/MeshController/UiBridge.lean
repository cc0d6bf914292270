import MeshController.BoundedChannel
import MeshController.TuiKeys

/-!
# Between the dashboard and the daemon

The loop of the terminal client and its background task for the connection
hand events and commands to each other through two bounded channels.  Each of
them waits where its channel is full, and does nothing else meanwhile.
-/

namespace MeshController

open LabelledRun

/-- `writing` holds the command which is being sent, `pausing` is the time
between two attempts to connect. -/
inductive IpcPhase where
  | connecting
  | serving
  | writing (command : ClientMessage)
  | pausing
deriving DecidableEq

def uiCapacity : ℕ := 256

def cmdCapacity : ℕ := 8

/-- The loop waits in `cmds` while it sends a command, the background task in
`ui` while it sends an event. -/
structure UiBridge where
  tui : Tui
  ui : BoundedChannel UiEvent uiCapacity
  cmds : BoundedChannel ClientMessage cmdCapacity
  phase : IpcPhase

/-- `connect` and `written` tell how the attempt ended. -/
inductive BridgeAction where
  | key (code : KeyCode) (view : KeyView)
  | draw (fits : Bool)
  | takeEvent
  | connect (ok : Bool)
  | forward (event : UiEvent)
  | hangUp
  | takeCommand
  | written (ok : Bool)
  | wake

/-- What comes over the connection. -/
def UiEvent.fromDaemon : UiEvent → Bool
  | .daemonConnected => false
  | .daemonDisconnected => false
  | .server _ => true
  | .repeaterDetailCategory _ => true

def IpcPhase.inHand : IpcPhase → List ClientMessage
  | .writing command => [command]
  | _ => []

/-- There is a connection, or there was one until the write which is under
way. -/
def IpcPhase.attached : IpcPhase → Bool
  | .serving => true
  | .writing _ => true
  | _ => false

namespace UiBridge

def start (filter : RepeaterFilter) : UiBridge where
  tui := Tui.start filter
  ui := .empty _ _
  cmds := .empty _ _
  phase := .connecting

/-- The loop takes keys and events. -/
def listening (bridge : UiBridge) : Bool :=
  !bridge.tui.shouldQuit && bridge.cmds.waiting.isEmpty

/-- The background task does not wait for room. -/
def relaying (bridge : UiBridge) : Bool := bridge.ui.waiting.isEmpty

def tell (bridge : UiBridge) (event : UiEvent) : UiBridge :=
  { bridge with ui := bridge.ui.send event }

/-- The connection is given up until the next attempt. -/
def giveUp (bridge : UiBridge) : UiBridge :=
  { bridge with phase := .pausing }.tell .daemonDisconnected

section Steps

variable [PanelLibrary]

def perform (bridge : UiBridge) (action : TuiAction) : UiBridge :=
  let (tui, messages) := bridge.tui.perform action
  { bridge with
    tui := tui
    cmds := messages.foldl BoundedChannel.send bridge.cmds }

/-- The client ends with its loop. -/
def step (bridge : UiBridge) (action : BridgeAction) : Option UiBridge :=
  if bridge.tui.shouldQuit then none
  else
    match action with
    | .key code view =>
        if bridge.listening = true then some (bridge.perform (.key code view))
        else none
    | .draw fits =>
        if bridge.listening = true then some (bridge.perform (.draw fits))
        else none
    | .takeEvent =>
        if bridge.listening = true then
          bridge.ui.receive.map fun (event, rest) =>
            { bridge with ui := rest }.perform (.ui event)
        else none
    | .connect ok =>
        if bridge.relaying = true ∧ bridge.phase = .connecting then
          if ok = true then
            some ({ bridge with phase := .serving }.tell .daemonConnected)
          else some bridge.giveUp
        else none
    | .forward event =>
        if bridge.relaying = true ∧ bridge.phase = .serving ∧
            event.fromDaemon = true then
          some (bridge.tell event)
        else none
    | .hangUp =>
        if bridge.relaying = true ∧ bridge.phase = .serving then
          some bridge.giveUp
        else none
    | .takeCommand =>
        if bridge.relaying = true ∧ bridge.phase = .serving then
          bridge.cmds.receive.map fun (command, rest) =>
            { bridge with cmds := rest, phase := .writing command }
        else none
    | .written ok =>
        match bridge.phase with
        | .writing _ =>
            if ok = true then some { bridge with phase := .serving }
            else some bridge.giveUp
        | _ => none
    | .wake =>
        if bridge.relaying = true ∧ bridge.phase = .pausing then
          some { bridge with phase := .connecting }
        else none

end Steps

/-! ## What a step does -/

theorem listening_iff (bridge : UiBridge) :
    bridge.listening = true ↔
      bridge.tui.shouldQuit = false ∧ bridge.cmds.occupied ≤ cmdCapacity := by
  rw [← BoundedChannel.waiting_eq_nil_iff]
  simp [listening]

theorem relaying_iff (bridge : UiBridge) :
    bridge.relaying = true ↔ bridge.ui.occupied ≤ uiCapacity := by
  rw [← BoundedChannel.waiting_eq_nil_iff]
  simp [relaying]

@[simp] theorem occupied_ui_tell (bridge : UiBridge) (event : UiEvent) :
    (bridge.tell event).ui.occupied = bridge.ui.occupied + 1 :=
  bridge.ui.occupied_send event

@[simp] theorem pending_ui_tell (bridge : UiBridge) (event : UiEvent) :
    (bridge.tell event).ui.pending = bridge.ui.pending ++ [event] :=
  bridge.ui.pending_send event

section Moves

variable [PanelLibrary]

/-- The steps, each with what it takes. -/
inductive Moved (bridge : UiBridge) : BridgeAction → UiBridge → Prop where
  | key (code : KeyCode) (view : KeyView)
      (hlistening : bridge.listening = true) :
      Moved bridge (.key code view) (bridge.perform (.key code view))
  | draw (fits : Bool) (hlistening : bridge.listening = true) :
      Moved bridge (.draw fits) (bridge.perform (.draw fits))
  | takeEvent (event : UiEvent) (rest : BoundedChannel UiEvent uiCapacity)
      (hlistening : bridge.listening = true)
      (hreceive : bridge.ui.receive = some (event, rest)) :
      Moved bridge .takeEvent
        ({ bridge with ui := rest }.perform (.ui event))
  | connected (hrelaying : bridge.relaying = true)
      (hphase : bridge.phase = .connecting) :
      Moved bridge (.connect true)
        ({ bridge with phase := .serving }.tell .daemonConnected)
  | notConnected (hrelaying : bridge.relaying = true)
      (hphase : bridge.phase = .connecting) :
      Moved bridge (.connect false) bridge.giveUp
  | forward (event : UiEvent) (hrelaying : bridge.relaying = true)
      (hphase : bridge.phase = .serving) :
      Moved bridge (.forward event) (bridge.tell event)
  | hangUp (hrelaying : bridge.relaying = true)
      (hphase : bridge.phase = .serving) :
      Moved bridge .hangUp bridge.giveUp
  | takeCommand (command : ClientMessage)
      (rest : BoundedChannel ClientMessage cmdCapacity)
      (hrelaying : bridge.relaying = true)
      (hphase : bridge.phase = .serving)
      (hreceive : bridge.cmds.receive = some (command, rest)) :
      Moved bridge .takeCommand
        { bridge with cmds := rest, phase := .writing command }
  | written (command : ClientMessage)
      (hphase : bridge.phase = .writing command) :
      Moved bridge (.written true) { bridge with phase := .serving }
  | notWritten (command : ClientMessage)
      (hphase : bridge.phase = .writing command) :
      Moved bridge (.written false) bridge.giveUp
  | wake (hrelaying : bridge.relaying = true)
      (hphase : bridge.phase = .pausing) :
      Moved bridge .wake { bridge with phase := .connecting }

theorem step_cases
    {bridge next : UiBridge} {action : BridgeAction}
    (hstep : bridge.step action = some next) :
    bridge.tui.shouldQuit = false ∧ bridge.Moved action next := by
  unfold step at hstep
  rw [Option.ite_none_left_eq_some, Bool.not_eq_true] at hstep
  obtain ⟨hgoing, hstep⟩ := hstep
  refine ⟨hgoing, ?_⟩
  cases action with
  | key code view =>
      simp only [guarded_eq_some_iff] at hstep
      obtain ⟨hlistening, rfl⟩ := hstep
      exact .key code view hlistening
  | draw fits =>
      simp only [guarded_eq_some_iff] at hstep
      obtain ⟨hlistening, rfl⟩ := hstep
      exact .draw fits hlistening
  | takeEvent =>
      simp only [Option.ite_none_right_eq_some, Option.map_eq_some_iff,
        Prod.exists] at hstep
      obtain ⟨hlistening, event, rest, hreceive, rfl⟩ := hstep
      exact .takeEvent event rest hlistening hreceive
  | connect ok =>
      simp only [Option.ite_none_right_eq_some] at hstep
      obtain ⟨⟨hrelaying, hphase⟩, hstep⟩ := hstep
      cases ok with
      | true =>
          simp only [if_true, Option.some.injEq] at hstep
          exact hstep ▸ .connected hrelaying hphase
      | false =>
          simp only [Bool.false_eq_true, if_false, Option.some.injEq] at hstep
          exact hstep ▸ .notConnected hrelaying hphase
  | forward event =>
      simp only [guarded_eq_some_iff] at hstep
      obtain ⟨⟨hrelaying, hphase, _⟩, rfl⟩ := hstep
      exact .forward event hrelaying hphase
  | hangUp =>
      simp only [guarded_eq_some_iff] at hstep
      obtain ⟨⟨hrelaying, hphase⟩, rfl⟩ := hstep
      exact .hangUp hrelaying hphase
  | takeCommand =>
      simp only [Option.ite_none_right_eq_some, Option.map_eq_some_iff,
        Prod.exists] at hstep
      obtain ⟨⟨hrelaying, hphase⟩, command, rest, hreceive, rfl⟩ := hstep
      exact .takeCommand command rest hrelaying hphase hreceive
  | written ok =>
      cases hphase : bridge.phase with
      | connecting | serving | pausing => simp [hphase] at hstep
      | writing command =>
          cases ok with
          | true =>
              simp only [hphase, if_true, Option.some.injEq] at hstep
              exact hstep ▸ .written command hphase
          | false =>
              simp only [hphase, Bool.false_eq_true, if_false,
                Option.some.injEq] at hstep
              exact hstep ▸ .notWritten command hphase
  | wake =>
      simp only [guarded_eq_some_iff] at hstep
      obtain ⟨⟨hrelaying, hphase⟩, rfl⟩ := hstep
      exact .wake hrelaying hphase

end Moves

/-! ## When the dashboard stops for good -/

/-- Neither side can go on: the loop waits for room among the commands, and
the background task waits for room among the events, or will before it can
take a command. -/
def Frozen (bridge : UiBridge) : Prop :=
  cmdCapacity < bridge.cmds.occupied ∧
    (uiCapacity < bridge.ui.occupied ∨
      bridge.ui.occupied = uiCapacity ∧ bridge.phase.attached = false)

theorem Frozen.not_listening {bridge : UiBridge} (hfrozen : bridge.Frozen) :
    ¬ bridge.listening = true := by
  rw [listening_iff]
  rintro ⟨_, hroom⟩
  have hfull := hfrozen.1
  omega

theorem Frozen.uiCapacity_le {bridge : UiBridge} (hfrozen : bridge.Frozen) :
    uiCapacity ≤ bridge.ui.occupied := by
  rcases hfrozen.2 with hmore | ⟨hexactly, _⟩
  · exact hmore.le
  · exact hexactly.ge

/-- What is told next has no room. -/
theorem Frozen.tell
    {bridge : UiBridge} (hfrozen : bridge.Frozen) (phase : IpcPhase)
    (event : UiEvent) :
    ({ bridge with phase := phase }.tell event).Frozen := by
  have hunread := hfrozen.uiCapacity_le
  constructor
  · exact hfrozen.1
  · left
    rw [occupied_ui_tell]
    exact Nat.lt_succ_of_le hunread

theorem Frozen.not_serving
    {bridge : UiBridge} (hfrozen : bridge.Frozen)
    (hrelaying : bridge.relaying = true) :
    bridge.phase.attached = false := by
  rw [relaying_iff] at hrelaying
  rcases hfrozen.2 with hmore | ⟨_, haway⟩
  · omega
  · exact haway

section Runs

variable [PanelLibrary]

theorem Frozen.step
    {bridge next : UiBridge} {action : BridgeAction} (hfrozen : bridge.Frozen)
    (hstep : bridge.step action = some next) : next.Frozen := by
  obtain ⟨_, hmoved⟩ := step_cases hstep
  cases hmoved with
  | key code view hlistening => exact absurd hlistening hfrozen.not_listening
  | draw fits hlistening => exact absurd hlistening hfrozen.not_listening
  | takeEvent event rest hlistening hreceive =>
      exact absurd hlistening hfrozen.not_listening
  | connected hrelaying hphase => exact hfrozen.tell .serving .daemonConnected
  | notConnected hrelaying hphase =>
      exact hfrozen.tell .pausing .daemonDisconnected
  | forward event hrelaying hphase => exact hfrozen.tell bridge.phase event
  | hangUp hrelaying hphase => exact hfrozen.tell .pausing .daemonDisconnected
  | takeCommand command rest hrelaying hphase hreceive =>
      have haway := hfrozen.not_serving hrelaying
      rw [hphase] at haway
      cases haway
  | written command hphase =>
      rcases hfrozen.2 with hmore | ⟨_, haway⟩
      · exact ⟨hfrozen.1, Or.inl hmore⟩
      · rw [hphase] at haway
        cases haway
  | notWritten command hphase =>
      exact hfrozen.tell .pausing .daemonDisconnected
  | wake hrelaying hphase =>
      rcases hfrozen.2 with hmore | ⟨hexactly, _⟩
      · exact ⟨hfrozen.1, Or.inl hmore⟩
      · exact ⟨hfrozen.1, Or.inr ⟨hexactly, rfl⟩⟩

theorem Frozen.run
    {bridge final : UiBridge} {actions : List BridgeAction}
    (hfrozen : bridge.Frozen)
    (hrun : LabelledRun.run UiBridge.step bridge actions = some final) :
    final.Frozen := by
  apply invariant_of_every_step ?_ hfrozen hrun
  intro state action next hstate hstep
  exact hstate.step hstep

end Runs

end UiBridge

/-! ### A dashboard which is not frozen -/

namespace Tui

variable [PanelLibrary]

theorem length_setRepeaterStatus_le (tui : Tui) (target : RepeaterStatus) :
    (tui.setRepeaterStatus target).2.length ≤ 1 := by
  unfold setRepeaterStatus
  split <;> simp

theorem length_confirmOrArmDelete_le (tui : Tui) :
    tui.confirmOrArmDelete.2.length ≤ 1 := by
  unfold confirmOrArmDelete
  cases tui.selectedContact with
  | none => simp
  | some c =>
      dsimp only
      split <;> simp

theorem length_requestRepeaterDetail_le (tui : Tui) :
    tui.requestRepeaterDetail.2.length ≤ 1 := by
  unfold requestRepeaterDetail
  split <;> simp

theorem length_dashboardKey_le (tui : Tui) (code : KeyCode) :
    (tui.dashboardKey code).2.length ≤ 1 := by
  unfold dashboardKey
  split
  case h_2 | h_3 => split <;> simp
  case h_4 | h_5 | h_6 => exact length_setRepeaterStatus_le _ _
  case h_7 => exact length_confirmOrArmDelete_le _
  case h_9 => exact length_requestRepeaterDetail_le _
  all_goals simp

theorem length_handleKey_le (tui : Tui) (view : KeyView) (code : KeyCode) :
    (tui.handleKey view code).2.length ≤ 1 := by
  unfold handleKey
  split
  case h_6 =>
    split_ifs
    · simp
    · simp
    · cases tui.page with
      | dashboard => exact length_dashboardKey_le _ _
      | packetLog => simp
  all_goals simp

/-- One key or one event makes for one command at most. -/
theorem length_perform_le (tui : Tui) (action : TuiAction) :
    (tui.perform action).2.length ≤ 1 := by
  cases action with
  | key code view =>
      unfold perform press
      dsimp only
      split <;> exact length_handleKey_le _ _ _
  | ui event =>
      cases event with
      | server message =>
          cases message with
          | event event =>
              simp only [perform, applyUiEvent, App.applyServerMessage]
              split <;> simp
          | hello version | snapshot snapshot | error reason
          | packetLog backlog | packetLogEntry entry
          | telemetryResult key telemetry => simp [perform, applyUiEvent,
              App.applyServerMessage]
      | daemonConnected | daemonDisconnected
      | repeaterDetailCategory publicKeyPrefixHex =>
          simp [perform, applyUiEvent]
  | draw fits => simp [perform]

end Tui

namespace UiBridge

variable [PanelLibrary]

theorem occupied_cmds_perform_le (bridge : UiBridge) (action : TuiAction) :
    (bridge.perform action).cmds.occupied ≤ bridge.cmds.occupied + 1 := by
  have hone := bridge.tui.length_perform_le action
  unfold perform
  generalize bridge.tui.perform action = performed at hone
  rcases performed with ⟨tui, _ | ⟨message, rest⟩⟩
  · simp
  · have hlast : rest = [] := by simpa using hone
    simp [hlast]

theorem occupied_cmds_of_run
    {filter : RepeaterFilter} {bridge : UiBridge} {actions : List BridgeAction}
    (hrun : run step (start filter) actions = some bridge) :
    bridge.cmds.occupied ≤ cmdCapacity + 1 := by
  apply invariant_of_every_step ?_ ?_ hrun
  · intro state action next hstate hstep
    obtain ⟨_, hmoved⟩ := step_cases hstep
    cases hmoved with
    | key code view hlistening =>
        have hroom := ((listening_iff state).mp hlistening).2
        have hmore := state.occupied_cmds_perform_le (.key code view)
        omega
    | draw fits hlistening =>
        have hroom := ((listening_iff state).mp hlistening).2
        have hmore := state.occupied_cmds_perform_le (.draw fits)
        omega
    | takeEvent event rest hlistening hreceive =>
        have hroom := ((listening_iff state).mp hlistening).2
        have hmore := occupied_cmds_perform_le { state with ui := rest }
          (.ui event)
        exact hmore.trans (Nat.succ_le_succ hroom)
    | takeCommand command rest hrelaying hphase hreceive =>
        have hless := BoundedChannel.occupied_of_receive hreceive
        dsimp only
        omega
    | connected | notConnected | forward | hangUp | written | notWritten
    | wake => exact hstate
  · exact Nat.zero_le _

/-! ### Getting a command through -/

/-- The background task at its connection takes the oldest command, and the
loop gets its place. -/
theorem listens_of_serving
    (bridge : UiBridge) (hgoing : bridge.tui.shouldQuit = false)
    (hone : bridge.cmds.occupied = cmdCapacity + 1)
    (hrelaying : bridge.relaying = true) (hphase : bridge.phase = .serving) :
    ∃ next, bridge.step .takeCommand = some next ∧
      next.listening = true := by
  have hpos : 0 < bridge.cmds.occupied := by omega
  obtain ⟨command, rest, hreceive⟩ :=
    BoundedChannel.exists_receive (by decide) hpos
  have hless := BoundedChannel.occupied_of_receive hreceive
  use { bridge with cmds := rest, phase := .writing command }
  constructor
  · simp [step, hgoing, hrelaying, hphase, hreceive]
  · rw [listening_iff]
    exact ⟨hgoing, by dsimp only; omega⟩

/-- As soon as a connection is made. -/
theorem listens_of_connecting
    (bridge : UiBridge) (hgoing : bridge.tui.shouldQuit = false)
    (hone : bridge.cmds.occupied = cmdCapacity + 1)
    (hroom : bridge.ui.occupied < uiCapacity)
    (hphase : bridge.phase = .connecting) :
    ∃ next, run step bridge [.connect true, .takeCommand] = some next ∧
      next.listening = true := by
  have hrelaying := (relaying_iff bridge).mpr hroom.le
  have hconnect : bridge.step (.connect true) =
      some ({ bridge with phase := .serving }.tell .daemonConnected) := by
    simp [step, hgoing, hrelaying, hphase]
  have hrelayingNext : ({ bridge with phase := .serving }.tell
      .daemonConnected).relaying = true := by
    rw [relaying_iff, occupied_ui_tell]
    exact hroom
  obtain ⟨next, hstep, hlistening⟩ := listens_of_serving
    ({ bridge with phase := .serving }.tell .daemonConnected) hgoing hone
    hrelayingNext rfl
  use next
  rw [run_cons_some hconnect, run_cons_some hstep]
  exact ⟨rfl, hlistening⟩

/-- The dashboard takes keys again, if the daemon lets it, exactly if it is
not frozen. -/
theorem listens_again_iff
    {filter : RepeaterFilter} {bridge : UiBridge} {actions : List BridgeAction}
    (hrun : run step (start filter) actions = some bridge)
    (hgoing : bridge.tui.shouldQuit = false) :
    (∃ further next, run step bridge further = some next ∧
      next.listening = true) ↔ ¬ bridge.Frozen := by
  constructor
  · rintro ⟨further, next, hfurther, hlistening⟩ hfrozen
    exact (hfrozen.run hfurther).not_listening hlistening
  · intro hthawed
    have hmost := occupied_cmds_of_run hrun
    by_cases hlistening : bridge.listening = true
    · exact ⟨[], bridge, rfl, hlistening⟩
    have hfull : ¬ bridge.cmds.occupied ≤ cmdCapacity := by
      intro hroom
      exact hlistening ((listening_iff bridge).mpr ⟨hgoing, hroom⟩)
    have hone : bridge.cmds.occupied = cmdCapacity + 1 := by omega
    have hevents : bridge.ui.occupied ≤ uiCapacity ∧
        (bridge.phase.attached = false →
          bridge.ui.occupied < uiCapacity) := by
      by_contra hcrowded
      apply hthawed
      refine ⟨by omega, ?_⟩
      rw [not_and_or] at hcrowded
      rcases hcrowded with hmore | hexactly
      · left
        omega
      · rw [Classical.not_imp] at hexactly
        by_cases hmore : uiCapacity < bridge.ui.occupied
        · exact Or.inl hmore
        · exact Or.inr ⟨by omega, hexactly.1⟩
    have hrelaying := (relaying_iff bridge).mpr hevents.1
    cases hphase : bridge.phase with
    | serving =>
        obtain ⟨next, hstep, hagain⟩ :=
          listens_of_serving bridge hgoing hone hrelaying hphase
        use [.takeCommand], next
        rw [run_cons_some hstep]
        exact ⟨rfl, hagain⟩
    | writing command =>
        have hwritten : bridge.step (.written true) =
            some { bridge with phase := .serving } := by
          simp [step, hgoing, hphase]
        obtain ⟨next, hstep, hagain⟩ := listens_of_serving
          { bridge with phase := .serving } hgoing hone hrelaying rfl
        use [.written true, .takeCommand], next
        rw [run_cons_some hwritten, run_cons_some hstep]
        exact ⟨rfl, hagain⟩
    | connecting =>
        have hroom := hevents.2 (by rw [hphase]; rfl)
        obtain ⟨next, hsteps, hagain⟩ :=
          listens_of_connecting bridge hgoing hone hroom hphase
        exact ⟨_, next, hsteps, hagain⟩
    | pausing =>
        have hroom := hevents.2 (by rw [hphase]; rfl)
        have hwake : bridge.step .wake =
            some { bridge with phase := .connecting } := by
          simp [step, hgoing, hrelaying, hphase]
        obtain ⟨next, hsteps, hagain⟩ := listens_of_connecting
          { bridge with phase := .connecting } hgoing hone hroom rfl
        use [.wake, .connect true, .takeCommand], next
        rw [run_cons_some hwake]
        exact ⟨hsteps, hagain⟩

/-! ### Without a daemon -/

/-- The reload key. -/
def reloadKey : BridgeAction := .key (.char 'r') ⟨false, none⟩

def reloading (presses : ℕ) : List BridgeAction :=
  List.replicate presses reloadKey

/-- One attempt to connect after the other fails. -/
def failingAttempts : ℕ → List BridgeAction
  | 0 => []
  | attempts + 1 => .connect false :: .wake :: failingAttempts attempts

theorem run_failingAttempts
    {bridge : UiBridge} (hgoing : bridge.tui.shouldQuit = false)
    (hphase : bridge.phase = .connecting) {attempts : ℕ}
    (hroom : bridge.ui.occupied + attempts ≤ uiCapacity) :
    ∃ after, run step bridge (failingAttempts attempts) = some after ∧
      after.ui.occupied = bridge.ui.occupied + attempts ∧
      after.cmds = bridge.cmds ∧ after.phase = .connecting := by
  induction attempts generalizing bridge with
  | zero => exact ⟨bridge, rfl, rfl, rfl, hphase⟩
  | succ attempts ih =>
      have hrelaying : bridge.relaying = true := by
        rw [relaying_iff]
        omega
      have hconnect : bridge.step (.connect false) = some bridge.giveUp := by
        simp [step, hgoing, hrelaying, hphase]
      have htold : bridge.giveUp.ui.occupied = bridge.ui.occupied + 1 :=
        bridge.ui.occupied_send .daemonDisconnected
      have hwake : bridge.giveUp.step .wake =
          some { bridge.giveUp with phase := .connecting } := by
        have hrelayingNext : bridge.giveUp.relaying = true := by
          rw [relaying_iff]
          omega
        have hpausing : bridge.giveUp.phase = .pausing := rfl
        have hgoingNext : bridge.giveUp.tui.shouldQuit = false := hgoing
        simp [step, hgoingNext, hrelayingNext, hpausing]
      obtain ⟨after, hafter, hevents, hcmds, hagain⟩ :=
        @ih { bridge.giveUp with phase := .connecting } hgoing rfl
          (by dsimp only; omega)
      use after
      rw [failingAttempts, run_cons_some hconnect, run_cons_some hwake]
      refine ⟨hafter, ?_, hcmds, hagain⟩
      dsimp only at hevents
      omega

/-! ## What gets through -/

/-- What passes the bridge: the commands of the dashboard, each attempt to
write one and how it ended, the connections made, and the events as they are
told and as they are applied. -/
structure Traffic where
  issued : List ClientMessage
  tried : List (ClientMessage × Bool)
  connections : ℕ
  told : List UiEvent
  applied : List UiEvent

namespace Traffic

def none : Traffic where
  issued := []
  tried := []
  connections := 0
  told := []
  applied := []

def afterTold (traffic : Traffic) (event : UiEvent) : Traffic :=
  { traffic with told := traffic.told ++ [event] }

def afterIssued (traffic : Traffic) (messages : List ClientMessage) :
    Traffic :=
  { traffic with issued := traffic.issued ++ messages }

def afterTried (traffic : Traffic) (phase : IpcPhase) (ok : Bool) : Traffic :=
  { traffic with
    tried := traffic.tried ++ phase.inHand.map fun command => (command, ok) }

/-- The attempts which failed. -/
def lost (traffic : Traffic) : List (ClientMessage × Bool) :=
  traffic.tried.filter fun attempt => !attempt.2

def note (traffic : Traffic) (bridge : UiBridge) (action : BridgeAction)
    (_ : UiBridge) : Traffic :=
  match action with
  | .key code view => traffic.afterIssued (bridge.tui.press view code).2
  | .draw _ => traffic
  | .takeEvent =>
      match bridge.ui.receive with
      | some (event, _) =>
          { traffic with applied := traffic.applied ++ [event] }.afterIssued
            (bridge.tui.applyUiEvent event).2
      | Option.none => traffic
  | .connect true =>
      { traffic with connections := traffic.connections + 1 }.afterTold
        .daemonConnected
  | .connect false => traffic.afterTold .daemonDisconnected
  | .forward event => traffic.afterTold event
  | .hangUp => traffic.afterTold .daemonDisconnected
  | .takeCommand => traffic
  | .written true => traffic.afterTried bridge.phase true
  | .written false =>
      (traffic.afterTried bridge.phase false).afterTold .daemonDisconnected
  | .wake => traffic

end Traffic

/-- Every command is where it has to be, in the order in which they were
issued, and so is every event. -/
structure Accounted (bridge : UiBridge) (traffic : Traffic) : Prop where
  commands : traffic.issued =
    traffic.tried.map Prod.fst ++ bridge.phase.inHand ++ bridge.cmds.pending
  lost : traffic.lost.length + bridge.phase.attached.toNat ≤
    traffic.connections
  events : traffic.told = traffic.applied ++ bridge.ui.pending

theorem Accounted.perform
    {bridge : UiBridge} {traffic : Traffic}
    (haccounted : Accounted bridge traffic) (action : TuiAction) :
    Accounted (bridge.perform action)
      (traffic.afterIssued (bridge.tui.perform action).2) where
  commands := by
    have hsent : (bridge.perform action).cmds.pending =
        bridge.cmds.pending ++ (bridge.tui.perform action).2 :=
      BoundedChannel.pending_foldl_send _ _
    rw [hsent, ← List.append_assoc]
    exact congrArg (· ++ (bridge.tui.perform action).2) haccounted.commands
  lost := haccounted.lost
  events := haccounted.events

omit [PanelLibrary] in
theorem Accounted.tell
    {bridge : UiBridge} {traffic : Traffic}
    (haccounted : Accounted bridge traffic) (event : UiEvent) :
    Accounted (bridge.tell event) (traffic.afterTold event) where
  commands := haccounted.commands
  lost := haccounted.lost
  events := by
    rw [pending_ui_tell, ← List.append_assoc]
    exact congrArg (· ++ [event]) haccounted.events

omit [PanelLibrary] in
/-- A change of phase which holds no command and makes no connection. -/
theorem Accounted.moveTo
    {bridge : UiBridge} {traffic : Traffic}
    (haccounted : Accounted bridge traffic) (phase : IpcPhase)
    (hbefore : bridge.phase.inHand = []) (hafter : phase.inHand = [])
    (hattached : phase.attached.toNat ≤ bridge.phase.attached.toNat) :
    Accounted { bridge with phase := phase } traffic where
  commands := by
    have hcommands := haccounted.commands
    rw [hbefore] at hcommands
    rw [hafter]
    exact hcommands
  lost := (Nat.add_le_add_left hattached _).trans haccounted.lost
  events := haccounted.events

omit [PanelLibrary] in
theorem Accounted.tried
    {bridge : UiBridge} {traffic : Traffic}
    (haccounted : Accounted bridge traffic) {command : ClientMessage}
    (hphase : bridge.phase = .writing command) (phase : IpcPhase) {ok : Bool}
    (hafter : phase.inHand = []) (hattached : phase.attached = ok) :
    Accounted { bridge with phase := phase }
      (traffic.afterTried bridge.phase ok) where
  commands := by
    have hinHand : (IpcPhase.writing command).inHand = [command] := rfl
    have hcommands := haccounted.commands
    rw [hphase, hinHand] at hcommands
    simp [Traffic.afterTried, hphase, hafter, hinHand, hcommands]
  lost := by
    have hlost := haccounted.lost
    simp only [hphase, IpcPhase.attached, Bool.toNat_true] at hlost
    cases ok with
    | true =>
        simpa [Traffic.lost, Traffic.afterTried, hphase, IpcPhase.inHand,
          hattached] using hlost
    | false =>
        simpa [Traffic.lost, Traffic.afterTried, hphase, IpcPhase.inHand,
          hattached] using hlost
  events := haccounted.events

theorem Accounted.step
    {bridge next : UiBridge} {traffic : Traffic} {action : BridgeAction}
    (haccounted : Accounted bridge traffic)
    (hstep : bridge.step action = some next) :
    Accounted next (traffic.note bridge action next) := by
  obtain ⟨_, hmoved⟩ := step_cases hstep
  cases hmoved with
  | key code view hlistening => exact haccounted.perform (.key code view)
  | draw fits hlistening =>
      have hdrawn := haccounted.perform (.draw fits)
      have hnothing : traffic.afterIssued [] = traffic := by
        simp [Traffic.afterIssued]
      rw [← hnothing]
      exact hdrawn
  | takeEvent event rest hlistening hreceive =>
      have htaken : Accounted { bridge with ui := rest }
          { traffic with applied := traffic.applied ++ [event] } := by
        constructor
        · exact haccounted.commands
        · exact haccounted.lost
        · rw [haccounted.events, BoundedChannel.pending_of_receive hreceive]
          simp
      have hnote : traffic.note bridge .takeEvent
          ({ bridge with ui := rest }.perform (.ui event)) =
          { traffic with applied := traffic.applied ++ [event] }.afterIssued
            (bridge.tui.applyUiEvent event).2 := by
        simp only [Traffic.note, hreceive]
      rw [hnote]
      exact htaken.perform (.ui event)
  | connected hrelaying hphase =>
      have hserving : Accounted { bridge with phase := .serving }
          { traffic with connections := traffic.connections + 1 } := by
        have hcommands := haccounted.commands
        have hlost := haccounted.lost
        rw [hphase] at hcommands hlost
        exact ⟨hcommands, Nat.succ_le_succ hlost, haccounted.events⟩
      exact hserving.tell .daemonConnected
  | notConnected hrelaying hphase =>
      have hpausing := haccounted.moveTo .pausing
        (by rw [hphase]; rfl) rfl (Nat.zero_le _)
      exact hpausing.tell .daemonDisconnected
  | forward event hrelaying hphase => exact haccounted.tell event
  | hangUp hrelaying hphase =>
      have hpausing := haccounted.moveTo .pausing
        (by rw [hphase]; rfl) rfl (Nat.zero_le _)
      exact hpausing.tell .daemonDisconnected
  | takeCommand command rest hrelaying hphase hreceive =>
      have hcommands := haccounted.commands
      have hlost := haccounted.lost
      rw [hphase, BoundedChannel.pending_of_receive hreceive] at hcommands
      rw [hphase] at hlost
      refine ⟨hcommands.trans ?_, hlost, haccounted.events⟩
      simp [IpcPhase.inHand, Traffic.note]
  | written command hphase => exact haccounted.tried hphase .serving rfl rfl
  | notWritten command hphase =>
      have hpausing := haccounted.tried hphase .pausing rfl rfl
      exact hpausing.tell .daemonDisconnected
  | wake hrelaying hphase =>
      exact haccounted.moveTo .connecting (by rw [hphase]; rfl) rfl
        (Nat.zero_le _)

/-- Whatever the daemon and the user do, the commands are handed to the
connections in the order in which they were issued, each of them to one
connection only; no more of them are lost than there were connections; and the
events are applied in the order in which they were told. -/
theorem commands_handed_over_in_order
    {filter : RepeaterFilter} {bridge : UiBridge} {traffic : Traffic}
    {actions : List BridgeAction}
    (hrun : run (observed step Traffic.note) (start filter, .none) actions =
      some (bridge, traffic)) :
    traffic.issued =
        traffic.tried.map Prod.fst ++ bridge.phase.inHand ++
          bridge.cmds.pending ∧
      traffic.lost.length ≤ traffic.connections ∧
      traffic.told = traffic.applied ++ bridge.ui.pending := by
  have hpreserved : ∀ watched action after,
      Accounted watched.1 watched.2 →
        observed step Traffic.note watched action = some after →
          Accounted after.1 after.2 := by
    intro watched action after haccounted hstep
    obtain ⟨next, hnext, rfl⟩ := observed_eq_some_iff.mp hstep
    exact haccounted.step hnext
  have hfirst : Accounted (start filter) .none := ⟨rfl, Nat.le_refl 0, rfl⟩
  have haccounted : Accounted bridge traffic :=
    invariant_of_every_step hpreserved hfirst hrun
  refine ⟨haccounted.commands, ?_, haccounted.events⟩
  have hlost := haccounted.lost
  omega

end UiBridge

section Examples

attribute [local instance] plainPanel

namespace UiBridge

/-- Nine presses without a daemon, and the tenth is taken once there is
one. -/
theorem listens_again_iff_nine_reloads :
    ∃ bridge, run step (start .default) (reloading 9) = some bridge ∧
      bridge.listening = false ∧
      ∃ further next, run step bridge further = some next ∧
        next.listening = true := by
  have hrun : run step (start .default) (reloading 9) = some _ := rfl
  refine ⟨_, hrun, rfl, ?_⟩
  rw [listens_again_iff hrun rfl]
  rintro ⟨_, hmany⟩
  revert hmany
  decide

/-- Where the daemon stays away, they are never taken. -/
theorem frozen_of_unreachable_daemon :
    ∃ bridge, run step (start .default)
      (reloading 9 ++ failingAttempts uiCapacity) = some bridge ∧
        bridge.Frozen := by
  have hrun : ∃ waiting, run step (start .default) (reloading 9) =
      some waiting ∧ waiting.tui.shouldQuit = false ∧
        waiting.phase = .connecting ∧ waiting.ui.occupied = 0 ∧
        waiting.cmds.occupied = 9 := ⟨_, rfl, rfl, rfl, rfl, rfl⟩
  obtain ⟨waiting, hwaiting, hgoing, hconnecting, hnone, hnine⟩ := hrun
  have hroom : waiting.ui.occupied + uiCapacity ≤ uiCapacity := by omega
  obtain ⟨bridge, hafter, hevents, hcmds, hphase⟩ :=
    run_failingAttempts hgoing hconnecting hroom
  use bridge
  constructor
  · rw [run_append_eq_some_iff]
    exact ⟨waiting, hwaiting, hafter⟩
  · constructor
    · rw [hcmds, hnine]
      decide
    · right
      rw [hevents, hnone, hphase, Nat.zero_add]
      exact ⟨rfl, rfl⟩

/-- A press of the reload key whose request breaks the connection. -/
theorem commands_handed_over_in_order_broken :
    ∃ bridge traffic,
      run (observed step Traffic.note) (start .default, .none)
        [.connect true, reloadKey, .takeCommand, reloadKey, .written false] =
          some (bridge, traffic) ∧
      traffic.issued = [.requestSnapshot, .requestSnapshot] ∧
      traffic.lost.length ≤ traffic.connections ∧
      traffic.told = traffic.applied ++ bridge.ui.pending := by
  have hrun : run (observed step Traffic.note) (start .default, .none)
      [.connect true, reloadKey, .takeCommand, reloadKey, .written false] =
        some _ := rfl
  have hordered := commands_handed_over_in_order hrun
  exact ⟨_, _, hrun, rfl, hordered.2⟩

end UiBridge

end Examples

end MeshController
