import MeshController.LabelledRun
import MeshController.RepeaterPanel
import MeshController.TuiApp

/-!
# The keys of the terminal client

The loop of the terminal client takes server messages and key presses in any
order, and draws in between.  Deleting a contact takes two presses of `d`, the
first of which arms a confirmation for the contact which is selected.
-/

namespace MeshController

open LabelledRun

inductive KeyCode where
  | f (number : ℕ)
  | char (c : Char)
  | esc
  | enter
  | up
  | down
  | other
deriving DecidableEq

inductive Page where
  | dashboard
  | packetLog
deriving DecidableEq

/-- What a key press finds outside of the contacts: whether a packet is
selected, and how saving the filter settings fails, if it does. -/
structure KeyView where
  packetSelected : Bool
  prefsError : Option String
deriving DecidableEq

/-- `contactsState` is the selected row; `repeaterDetail` is the contact the
popup is open for. -/
structure Tui where
  app : App
  daemonConnected : Bool
  shouldQuit : Bool
  contactsState : Option ℕ
  pendingDelete : Option (String × String)
  page : Page
  packetDetailOpen : Bool
  helpOpen : Bool
  repeaterDetail : Option (String × String)
  repeaterFilter : RepeaterFilter
  repeaterFilterOpen : Bool
  repeaterFilterCursor : ℕ

/-- The details of a contact arrive one category after the other, and are
shown in the popup only. -/
inductive UiEvent where
  | daemonConnected
  | daemonDisconnected
  | server (message : ServerMessage)
  | repeaterDetailCategory (publicKeyPrefixHex : String)

/-- A draw reaches the table unless the terminal is too small. -/
inductive TuiAction where
  | key (code : KeyCode) (view : KeyView)
  | ui (event : UiEvent)
  | draw (fits : Bool)

namespace Tui

/-- As the client starts, with the filter settings it has loaded. -/
def start (filter : RepeaterFilter) : Tui where
  app := App.new
  daemonConnected := false
  shouldQuit := false
  contactsState := none
  pendingDelete := none
  page := .dashboard
  packetDetailOpen := false
  helpOpen := false
  repeaterDetail := none
  repeaterFilter := filter
  repeaterFilterOpen := false
  repeaterFilterCursor := 0

variable [PanelLibrary]

def sortedContacts (tui : Tui) : List ContactDto :=
  MeshController.sortedContacts tui.repeaterFilter tui.app.snapshot

def selectedContact (tui : Tui) : Option ContactDto :=
  tui.contactsState.bind fun index => tui.sortedContacts[index]?

omit [PanelLibrary] in
def withStatus (tui : Tui) (text : String) : Tui :=
  { tui with app := { tui.app with lastStatus := some text } }

def selectNextContact (tui : Tui) : Tui :=
  let len := tui.sortedContacts.length
  if len = 0 then tui
  else
    { tui with
      contactsState :=
        match tui.contactsState with
        | some i => if i + 1 < len then some (i + 1) else some 0
        | none => some 0 }

def selectPrevContact (tui : Tui) : Tui :=
  let len := tui.sortedContacts.length
  if len = 0 then tui
  else
    { tui with
      contactsState :=
        match tui.contactsState with
        | some (i + 1) => some i
        | _ => some (len - 1) }

/-- Each of the three keys is a toggle of its own. -/
def setRepeaterStatus (tui : Tui) (target : RepeaterStatus) :
    Tui × List ClientMessage :=
  match tui.selectedContact with
  | none => (tui.withStatus "No repeater selected", [])
  | some c =>
      let status := if c.repeaterStatus = some target then none else some target
      let text :=
        match status with
        | some .managed => "🛰️  Marking " ++ c.name ++ " as managed…"
        | some .known => "📟 Marking " ++ c.name ++ " as known…"
        | some .supervised => "🛡️  Marking " ++ c.name ++ " as supervised…"
        | none => "Unmarking " ++ c.name ++ "…"
      (tui.withStatus text,
        [.setRepeaterStatus c.publicKeyPrefixHex c.name status])

/-- The confirmation which is armed is used up by the press. -/
def confirmOrArmDelete (tui : Tui) : Tui × List ClientMessage :=
  let taken := { tui with pendingDelete := none }
  match tui.selectedContact with
  | none => (taken.withStatus "No repeater selected", [])
  | some c =>
      let armed := tui.pendingDelete.map fun pending => pending.1
      if armed = some c.publicKeyPrefixHex then
        (taken.withStatus ("🗑️  Removing " ++ c.name ++ "…"),
          [.removeContact c.publicKeyPrefixHex])
      else
        ({ tui with
          pendingDelete := some (c.publicKeyPrefixHex, c.name) }, [])

def requestRepeaterDetail (tui : Tui) : Tui × List ClientMessage :=
  match tui.selectedContact with
  | none => (tui.withStatus "No repeater selected", [])
  | some c =>
      ({ tui with
        app := { tui.app with lastStatus := none }
        repeaterDetail := some (c.publicKeyPrefixHex, c.name) },
        [.requestRepeaterDetail c.publicKeyPrefixHex])

/-! ## The filter popup -/

omit [PanelLibrary] in
def openRepeaterFilter (tui : Tui) : Tui :=
  { tui with repeaterDetail := none, repeaterFilterOpen := true }

omit [PanelLibrary] in
def closeRepeaterFilter (tui : Tui) (view : KeyView) : Tui :=
  let closed := { tui with repeaterFilterOpen := false }
  match view.prefsError with
  | none => closed
  | some err =>
      closed.withStatus ("⚠️  failed to save repeater filter settings: " ++ err)

def repeaterFilterRowCount : ℕ := 8

omit [PanelLibrary] in
def selectNextFilterRow (tui : Tui) : Tui :=
  { tui with
    repeaterFilterCursor :=
      (tui.repeaterFilterCursor + 1) % repeaterFilterRowCount }

omit [PanelLibrary] in
def selectPrevFilterRow (tui : Tui) : Tui :=
  { tui with
    repeaterFilterCursor :=
      match tui.repeaterFilterCursor with
      | 0 => repeaterFilterRowCount - 1
      | cursor + 1 => cursor }

end Tui

def RepeaterFilter.toggleRow (filter : RepeaterFilter) : ℕ → RepeaterFilter
  | 0 => { filter with showManaged := !filter.showManaged }
  | 1 => { filter with showSupervised := !filter.showSupervised }
  | 2 => { filter with showKnown := !filter.showKnown }
  | 3 => { filter with showDiscovered := !filter.showDiscovered }
  | 4 => { filter with sort := .lastHeard }
  | 5 => { filter with sort := .name }
  | 6 => { filter with sort := .distance }
  | 7 => { filter with groupByType := !filter.groupByType }
  | _ => filter

namespace Tui

variable [PanelLibrary]

/-- The list can change shape, so the selection starts again. -/
def toggleSelectedFilterRow (tui : Tui) : Tui :=
  let toggled :=
    { tui with
      repeaterFilter :=
        tui.repeaterFilter.toggleRow tui.repeaterFilterCursor }
  { toggled with
    contactsState := if toggled.sortedContacts.isEmpty then none else some 0 }

def filterKey (tui : Tui) (view : KeyView) : KeyCode → Tui
  | .down => tui.selectNextFilterRow
  | .up => tui.selectPrevFilterRow
  | .enter => tui.toggleSelectedFilterRow
  | .char ' ' => tui.toggleSelectedFilterRow
  | .char 'f' => tui.closeRepeaterFilter view
  | _ => tui

/-! ## The keys -/

/-- With the detail popup open the arrows scroll its neighbours. -/
def dashboardKey (tui : Tui) : KeyCode → Tui × List ClientMessage
  | .char 'r' =>
      ({ tui with app := { tui.app with lastStatus := none } },
        [.requestSnapshot])
  | .down =>
      if tui.repeaterDetail.isSome then (tui, [])
      else (tui.selectNextContact, [])
  | .up =>
      if tui.repeaterDetail.isSome then (tui, [])
      else (tui.selectPrevContact, [])
  | .char 'm' => tui.setRepeaterStatus .managed
  | .char 'k' => tui.setRepeaterStatus .known
  | .char 's' => tui.setRepeaterStatus .supervised
  | .char 'd' => tui.confirmOrArmDelete
  | .char 'f' => (tui.openRepeaterFilter, [])
  | .enter => tui.requestRepeaterDetail
  | _ => (tui, [])

omit [PanelLibrary] in
def packetLogKey (tui : Tui) (view : KeyView) : KeyCode → Tui
  | .enter =>
      if view.packetSelected then
        { tui with packetDetailOpen := !tui.packetDetailOpen }
      else tui
  | _ => tui

omit [PanelLibrary] in
def toggleHelp (tui : Tui) : Tui :=
  { tui with
    helpOpen := !tui.helpOpen
    packetDetailOpen := tui.helpOpen && tui.packetDetailOpen }

omit [PanelLibrary] in
/-- The topmost popup is closed. -/
def escape (tui : Tui) (view : KeyView) : Tui :=
  if tui.helpOpen then { tui with helpOpen := false }
  else if tui.repeaterFilterOpen then tui.closeRepeaterFilter view
  else if tui.packetDetailOpen then { tui with packetDetailOpen := false }
  else if tui.repeaterDetail.isSome then { tui with repeaterDetail := none }
  else { tui with shouldQuit := true }

/-- Page switches, help and quit work from anywhere. -/
def handleKey (tui : Tui) (view : KeyView) :
    KeyCode → Tui × List ClientMessage
  | .f 1 => (tui.toggleHelp, [])
  | .f 2 => ({ tui with page := .dashboard }, [])
  | .f 3 => ({ tui with page := .packetLog }, [])
  | .char 'q' => ({ tui with shouldQuit := true }, [])
  | .esc => (tui.escape view, [])
  | code =>
      if tui.helpOpen then (tui, [])
      else if tui.repeaterFilterOpen then (tui.filterKey view code, [])
      else
        match tui.page with
        | .dashboard => tui.dashboardKey code
        | .packetLog => (tui.packetLogKey view code, [])

/-- Any key but `d` cancels a confirmation which is armed. -/
def press (tui : Tui) (view : KeyView) (code : KeyCode) :
    Tui × List ClientMessage :=
  if code = .char 'd' then tui.handleKey view code
  else { tui with pendingDelete := none }.handleKey view code

omit [PanelLibrary] in
def applyUiEvent (tui : Tui) : UiEvent → Tui × List ClientMessage
  | .daemonConnected => ({ tui with daemonConnected := true }, [])
  | .daemonDisconnected => ({ tui with daemonConnected := false }, [])
  | .server message =>
      let (app, requests) := tui.app.applyServerMessage message
      ({ tui with app := app }, requests)
  | .repeaterDetailCategory _ => (tui, [])

def draw (tui : Tui) (fits : Bool) : Tui :=
  if tui.page = .dashboard ∧ fits = true then
    { tui with
      contactsState := PanelLibrary.drawnSelection tui.contactsState
        tui.sortedContacts.length }
  else tui

/-- The new state, and what is sent to the daemon. -/
def perform (tui : Tui) : TuiAction → Tui × List ClientMessage
  | .key code view => tui.press view code
  | .ui event => tui.applyUiEvent event
  | .draw fits => (tui.draw fits, [])

def step (tui : Tui) (action : TuiAction) : Option Tui :=
  if tui.shouldQuit then none else some (tui.perform action).1

end Tui

/-! ## The keys of the dashboard -/

namespace Tui

/-- The dashboard takes the keys: no popup which takes them is open. -/
def onDashboard (tui : Tui) : Bool :=
  tui.page = .dashboard && !tui.helpOpen && !tui.repeaterFilterOpen

end Tui

/-- The keys which act on the selected contact. -/
def KeyCode.actsOnContact : KeyCode → Bool
  | .char 'd' => true
  | .char 'm' => true
  | .char 'k' => true
  | .char 's' => true
  | _ => false

namespace Tui

variable [PanelLibrary]

theorem handleKey_of_actsOnContact
    (tui : Tui) (view : KeyView) {code : KeyCode}
    (hkey : code.actsOnContact = true) :
    tui.handleKey view code =
      if tui.onDashboard = true then tui.dashboardKey code else (tui, []) := by
  unfold KeyCode.actsOnContact at hkey
  split at hkey
  case h_5 => cases hkey
  all_goals
    unfold handleKey onDashboard
    cases tui.helpOpen with
    | true => simp
    | false =>
        cases tui.repeaterFilterOpen with
        | true => simp [filterKey]
        | false => cases tui.page <;> simp [packetLogKey]

end Tui

/-! ## Server messages and draws -/

namespace Tui

/-- What server messages and draws leave alone. -/
structure SameKeys (tui next : Tui) : Prop where
  pendingDelete : next.pendingDelete = tui.pendingDelete
  onDashboard : next.onDashboard = tui.onDashboard
  repeaterFilter : next.repeaterFilter = tui.repeaterFilter

theorem SameKeys.trans
    {first second third : Tui} (hearlier : first.SameKeys second)
    (hlater : second.SameKeys third) : first.SameKeys third where
  pendingDelete := hlater.pendingDelete.trans hearlier.pendingDelete
  onDashboard := hlater.onDashboard.trans hearlier.onDashboard
  repeaterFilter := hlater.repeaterFilter.trans hearlier.repeaterFilter

theorem sameKeys_applyUiEvent (tui : Tui) (event : UiEvent) :
    tui.SameKeys (tui.applyUiEvent event).1 := by
  cases event with
  | server message | daemonConnected | daemonDisconnected
  | repeaterDetailCategory publicKeyPrefixHex => exact ⟨rfl, rfl, rfl⟩

variable [PanelLibrary]

theorem sameKeys_draw (tui : Tui) (fits : Bool) :
    tui.SameKeys (tui.draw fits) := by
  unfold draw
  split_ifs <;> exact ⟨rfl, rfl, rfl⟩

end Tui

def TuiAction.isKey : TuiAction → Bool
  | .key .. => true
  | _ => false

namespace Tui

variable [PanelLibrary]

theorem sameKeys_of_run
    {tui after : Tui} {actions : List TuiAction}
    (hactions : ∀ action ∈ actions, action.isKey = false)
    (hrun : run step tui actions = some after) : tui.SameKeys after := by
  apply invariant_of_run ?_ ⟨rfl, rfl, rfl⟩
    (MeetsAlong.of_mem hactions tui) hrun
  intro state action next hsame hother hstep
  simp only [step, Option.ite_none_left_eq_some, Option.some.injEq] at hstep
  obtain ⟨_, rfl⟩ := hstep
  cases action with
  | key code view => cases hother
  | ui event => exact hsame.trans (state.sameKeys_applyUiEvent event)
  | draw fits => exact hsame.trans (state.sameKeys_draw fits)

end Tui

/-! ## A panel -/

/-- A panel on a terminal on which a table moves a selection past its end to
the last row. -/
@[reducible] def plainPanel : PanelLibrary where
  toLowercase text := String.ofList (asciiLowercase text)
  haversineKm p q := |p.1 - q.1| + |p.2 - q.2|
  drawnSelection selected rows :=
    if rows = 0 then none else selected.map fun row => min row (rows - 1)

/-- A repeater as it is shown. -/
def shownRepeater (publicKeyPrefixHex : String) (lastAdvertUnix : ℕ) :
    ContactDto where
  name := "repeater " ++ publicKeyPrefixHex
  publicKeyPrefixHex := publicKeyPrefixHex
  lastAdvertUnix := lastAdvertUnix
  lat := 0
  lon := 0
  registered := true
  managed := false
  repeaterStatus := none
  contactType := 2
  lastTelemetry := none

def Snapshot.showing (contacts : List ContactDto) : Snapshot :=
  { Snapshot.default with contacts := contacts }

/-- A key press which finds no packet and no trouble with the settings. -/
def TuiAction.pressed (code : KeyCode) : TuiAction :=
  .key code ⟨false, none⟩

end MeshController
