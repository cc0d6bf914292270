import MeshController.HiddenSteps
import MeshController.PacketGroups
import MeshController.ScrollLock
import MeshController.TuiKeys

/-!
# The packet page under scroll lock

The whole of the client's state which the packet page shows, with the keys of
the packet page.  While the view is locked, what the page shows is that of a
pager over the groups which were listed when it was locked: server messages
and draws change nothing about it.
-/

namespace MeshController

open LabelledRun HiddenSteps

/-- `packetTableState` is the selected row, `packetDetail` what the popup
shows. -/
structure Screen where
  tui : Tui
  lockedView : Option (List PacketLogEntry)
  packetTableState : Option ℕ
  packetDetail : Option PacketGroup

inductive ScreenAction where
  | key (code : KeyCode) (prefsError : Option String)
  | ui (event : UiEvent)
  | draw (fits : Bool)

/-- The row below, or the first one again. -/
def nextRow (selected : Option ℕ) (len : ℕ) : Option ℕ :=
  if len = 0 then selected
  else
    match selected with
    | some i => if i + 1 < len then some (i + 1) else some 0
    | none => some 0

def prevRow (selected : Option ℕ) (len : ℕ) : Option ℕ :=
  if len = 0 then selected
  else
    match selected with
    | some (i + 1) => some i
    | _ => some (len - 1)

namespace Screen

def start (filter : RepeaterFilter) : Screen where
  tui := Tui.start filter
  lockedView := none
  packetTableState := none
  packetDetail := none

def packetPage (screen : Screen) : PacketPage :=
  ⟨screen.tui.app, screen.lockedView⟩

def visiblePackets (screen : Screen) : List PacketLogEntry :=
  match screen.lockedView with
  | some frozen => frozen
  | none => screen.tui.app.packets

def packetGroups (screen : Screen) : List PacketGroup :=
  groupPackets screen.visiblePackets

def selectedGroup (screen : Screen) : Option PacketGroup :=
  screen.packetTableState.bind fun index => screen.packetGroups[index]?

def selectNextPacket (screen : Screen) : Screen :=
  { screen with
    packetTableState :=
      nextRow screen.packetTableState screen.packetGroups.length }

def selectPrevPacket (screen : Screen) : Screen :=
  { screen with
    packetTableState :=
      prevRow screen.packetTableState screen.packetGroups.length }

def toggleScrollLock (screen : Screen) : Screen :=
  { screen with
    lockedView := screen.packetPage.toggleScrollLock.lockedView }

def openPacketDetail (screen : Screen) : Screen :=
  { screen with packetDetail := screen.selectedGroup }

def closePacketDetail (screen : Screen) : Screen :=
  { screen with packetDetail := none }

def packetLogKey (screen : Screen) : KeyCode → Screen
  | .down =>
      if screen.packetDetail.isNone then screen.selectNextPacket else screen
  | .up =>
      if screen.packetDetail.isNone then screen.selectPrevPacket else screen
  | .char 'l' => screen.toggleScrollLock
  | .enter =>
      if screen.selectedGroup.isSome then
        if screen.packetDetail.isSome then screen.closePacketDetail
        else screen.openPacketDetail
      else screen
  | _ => screen

/-- What a key does to the packet page; the rest of its effect is on `tui`. -/
def packetKey (screen : Screen) : KeyCode → Screen
  | .f 1 =>
      if screen.tui.helpOpen then screen else screen.closePacketDetail
  | .f 2 => screen
  | .f 3 => screen
  | .char 'q' => screen
  | .esc =>
      if screen.tui.helpOpen then screen
      else if screen.tui.repeaterFilterOpen then screen
      else screen.closePacketDetail
  | code =>
      if screen.tui.helpOpen then screen
      else if screen.tui.repeaterFilterOpen then screen
      else
        match screen.tui.page with
        | .dashboard => screen
        | .packetLog => screen.packetLogKey code

def keyView (screen : Screen) (prefsError : Option String) : KeyView where
  packetSelected := screen.selectedGroup.isSome
  prefsError := prefsError

variable [PanelLibrary]

def press (screen : Screen) (code : KeyCode) (prefsError : Option String) :
    Screen :=
  { screen.packetKey code with
    tui := (screen.tui.press (screen.keyView prefsError) code).1 }

def draw (screen : Screen) (fits : Bool) : Screen :=
  { screen with
    tui := screen.tui.draw fits
    packetTableState :=
      if screen.tui.page = .packetLog ∧ fits = true then
        PanelLibrary.drawnSelection screen.packetTableState
          screen.packetGroups.length
      else screen.packetTableState }

def perform (screen : Screen) : ScreenAction → Screen
  | .key code prefsError => screen.press code prefsError
  | .ui event => { screen with tui := (screen.tui.applyUiEvent event).1 }
  | .draw fits => screen.draw fits

def step (screen : Screen) (action : ScreenAction) : Option Screen :=
  if screen.tui.shouldQuit then none else some (screen.perform action)

end Screen

/-! ## Where the keys go -/

/-- What decides which part of the client takes a key. -/
structure Navigation where
  page : Page
  helpOpen : Bool
  filterOpen : Bool
deriving DecidableEq

namespace Navigation

def escape (navigation : Navigation) : Navigation :=
  if navigation.helpOpen then { navigation with helpOpen := false }
  else { navigation with filterOpen := false }

def filterKey (navigation : Navigation) : Navigation :=
  if navigation.helpOpen then navigation
  else if navigation.filterOpen then { navigation with filterOpen := false }
  else
    { navigation with filterOpen := decide (navigation.page = .dashboard) }

def press (navigation : Navigation) : KeyCode → Navigation
  | .f 1 => { navigation with helpOpen := !navigation.helpOpen }
  | .f 2 => { navigation with page := .dashboard }
  | .f 3 => { navigation with page := .packetLog }
  | .esc => navigation.escape
  | .char 'f' => navigation.filterKey
  | _ => navigation

end Navigation

namespace Tui

def navigation (tui : Tui) : Navigation :=
  ⟨tui.page, tui.helpOpen, tui.repeaterFilterOpen⟩

/-- The part of the state the packet page has a say in. -/
def focus (tui : Tui) : Navigation × Bool :=
  (tui.navigation, tui.packetDetailOpen)

@[simp] theorem focus_applyUiEvent (tui : Tui) (event : UiEvent) :
    (tui.applyUiEvent event).1.focus = tui.focus := by
  cases event <;> rfl

@[simp] theorem focus_withStatus (tui : Tui) (text : String) :
    (tui.withStatus text).focus = tui.focus := rfl

theorem focus_closeRepeaterFilter (tui : Tui) (view : KeyView) :
    (tui.closeRepeaterFilter view).focus =
      ({ tui.navigation with filterOpen := false }, tui.packetDetailOpen) := by
  unfold closeRepeaterFilter
  cases view.prefsError <;> rfl

theorem focus_escape (tui : Tui) (view : KeyView) :
    (tui.escape view).focus =
      (tui.navigation.escape,
        (tui.helpOpen || tui.repeaterFilterOpen) && tui.packetDetailOpen) := by
  unfold escape Navigation.escape
  cases hhelp : tui.helpOpen with
  | true => simp [focus, navigation, hhelp]
  | false =>
      cases hfilter : tui.repeaterFilterOpen with
      | true =>
          simp only [Bool.false_eq_true, if_false, if_true,
            focus_closeRepeaterFilter]
          simp [navigation, hhelp]
      | false =>
          simp only [Bool.false_eq_true, if_false]
          split_ifs with hdetail <;>
            simp_all [focus, navigation]

variable [PanelLibrary]

@[simp] theorem focus_draw (tui : Tui) (fits : Bool) :
    (tui.draw fits).focus = tui.focus := by
  unfold draw
  split_ifs <;> rfl

@[simp] theorem focus_selectNextContact (tui : Tui) :
    tui.selectNextContact.focus = tui.focus := by
  unfold selectNextContact
  dsimp only
  split_ifs <;> rfl

@[simp] theorem focus_selectPrevContact (tui : Tui) :
    tui.selectPrevContact.focus = tui.focus := by
  unfold selectPrevContact
  dsimp only
  split_ifs <;> rfl

@[simp] theorem focus_setRepeaterStatus (tui : Tui) (target : RepeaterStatus) :
    (tui.setRepeaterStatus target).1.focus = tui.focus := by
  unfold setRepeaterStatus
  cases tui.selectedContact <;> rfl

@[simp] theorem focus_confirmOrArmDelete (tui : Tui) :
    tui.confirmOrArmDelete.1.focus = tui.focus := by
  unfold confirmOrArmDelete
  cases tui.selectedContact with
  | none => rfl
  | some c =>
      dsimp only
      split_ifs <;> rfl

@[simp] theorem focus_requestRepeaterDetail (tui : Tui) :
    tui.requestRepeaterDetail.1.focus = tui.focus := by
  unfold requestRepeaterDetail
  cases tui.selectedContact <;> rfl

theorem focus_dashboardKey
    (tui : Tui) {code : KeyCode} (hfilter : code ≠ .char 'f') :
    (tui.dashboardKey code).1.focus = tui.focus := by
  unfold dashboardKey
  split
  case h_2 | h_3 => split_ifs <;> simp
  case h_8 => exact absurd rfl hfilter
  all_goals first
    | rfl
    | simp

theorem focus_filterKey
    (tui : Tui) (view : KeyView) {code : KeyCode}
    (hfilter : code ≠ .char 'f') :
    (tui.filterKey view code).focus = tui.focus := by
  unfold filterKey
  split
  all_goals first
    | rfl
    | exact absurd rfl hfilter

/-- Whether the packet popup is open after a key. -/
def detailOpenAfter (tui : Tui) (packetSelected : Bool) : KeyCode → Bool
  | .f 1 => tui.helpOpen && tui.packetDetailOpen
  | .esc => (tui.helpOpen || tui.repeaterFilterOpen) && tui.packetDetailOpen
  | .enter =>
      if !tui.helpOpen && !tui.repeaterFilterOpen &&
          tui.page = .packetLog && packetSelected then !tui.packetDetailOpen
      else tui.packetDetailOpen
  | _ => tui.packetDetailOpen

theorem focus_handleKey_filter (tui : Tui) (view : KeyView) :
    (tui.handleKey view (.char 'f')).1.focus =
      (tui.navigation.filterKey, tui.packetDetailOpen) := by
  cases hhelp : tui.helpOpen with
  | true => simp [handleKey, hhelp, focus, navigation, Navigation.filterKey]
  | false =>
      cases hfilter : tui.repeaterFilterOpen with
      | true =>
          simp [handleKey, hhelp, hfilter, filterKey,
            focus_closeRepeaterFilter, navigation, Navigation.filterKey]
      | false =>
          cases hpage : tui.page <;>
            simp [handleKey, hhelp, hfilter, hpage, dashboardKey, packetLogKey,
              openRepeaterFilter, focus, navigation, Navigation.filterKey]

theorem focus_handleKey_enter (tui : Tui) (view : KeyView) :
    (tui.handleKey view .enter).1.focus =
      (tui.navigation, tui.detailOpenAfter view.packetSelected .enter) := by
  cases hhelp : tui.helpOpen with
  | true => simp [handleKey, hhelp, focus, detailOpenAfter]
  | false =>
      cases hfilter : tui.repeaterFilterOpen with
      | true =>
          simp [handleKey, hhelp, hfilter, focus_filterKey, detailOpenAfter]
          rfl
      | false =>
          cases hpage : tui.page with
          | dashboard =>
              simp [handleKey, hhelp, hfilter, hpage, focus_dashboardKey,
                detailOpenAfter]
              rfl
          | packetLog =>
              cases hselected : view.packetSelected <;>
                simp [handleKey, hhelp, hfilter, hpage, packetLogKey,
                  hselected, detailOpenAfter, focus, navigation]

omit [PanelLibrary] in
theorem focus_packetLogKey
    (tui : Tui) (view : KeyView) {code : KeyCode} (henter : code ≠ .enter) :
    (tui.packetLogKey view code).focus = tui.focus := by
  unfold packetLogKey
  split
  · exact absurd rfl henter
  · rfl

/-- The other keys leave the popups and the page as they are. -/
theorem focus_handleKey_of_quiet
    (tui : Tui) (view : KeyView) {code : KeyCode}
    (hpage : ∀ number, code = .f number → 3 < number ∨ number = 0)
    (hescape : code ≠ .esc) (henter : code ≠ .enter)
    (hfilter : code ≠ .char 'f') :
    (tui.handleKey view code).1.focus = tui.focus := by
  unfold handleKey
  split
  case h_1 | h_2 | h_3 =>
    have hnumber := hpage _ rfl
    omega
  case h_4 => rfl
  case h_5 => exact absurd rfl hescape
  case h_6 =>
    cases tui.helpOpen with
    | true => rfl
    | false =>
        cases tui.repeaterFilterOpen with
        | true => exact focus_filterKey tui view hfilter
        | false =>
            cases tui.page with
            | dashboard => exact focus_dashboardKey tui hfilter
            | packetLog => exact focus_packetLogKey tui view henter

theorem focus_handleKey (tui : Tui) (view : KeyView) (code : KeyCode) :
    (tui.handleKey view code).1.focus =
      (tui.navigation.press code,
        tui.detailOpenAfter view.packetSelected code) := by
  cases code with
  | f number =>
      rcases number with _ | _ | _ | _ | number
      · exact focus_handleKey_of_quiet tui view (by simp) (by simp) (by simp)
          (by simp)
      · rfl
      · rfl
      · rfl
      · exact focus_handleKey_of_quiet tui view (by simp) (by simp)
          (by simp) (by simp)
  | char c =>
      by_cases hfilter : c = 'f'
      · subst hfilter
        exact focus_handleKey_filter tui view
      · have hpress : tui.navigation.press (.char c) = tui.navigation := by
          unfold Navigation.press
          split <;> simp_all
        rw [hpress]
        exact focus_handleKey_of_quiet tui view (by simp) (by simp) (by simp)
          (by simpa using hfilter)
  | esc => exact focus_escape tui view
  | enter => exact focus_handleKey_enter tui view
  | up | down | other =>
      exact focus_handleKey_of_quiet tui view (by simp) (by simp) (by simp)
        (by simp)

theorem focus_press (tui : Tui) (view : KeyView) (code : KeyCode) :
    (tui.press view code).1.focus =
      (tui.navigation.press code,
        tui.detailOpenAfter view.packetSelected code) := by
  unfold press
  split_ifs
  · exact focus_handleKey tui view code
  · exact focus_handleKey _ view code

end Tui

/-! ## The popup of the two models -/

namespace Screen

/-- The flag of the popup tells whether it shows a packet. -/
def PopupAgrees (screen : Screen) : Prop :=
  screen.tui.packetDetailOpen = screen.packetDetail.isSome

theorem packetDetail_packetLogKey
    (screen : Screen) {code : KeyCode} (henter : code ≠ .enter) :
    (screen.packetLogKey code).packetDetail = screen.packetDetail := by
  unfold packetLogKey
  split
  case h_1 | h_2 => split_ifs <;> rfl
  case h_4 => exact absurd rfl henter
  all_goals rfl

theorem packetDetail_packetKey_of_quiet
    (screen : Screen) {code : KeyCode} (hhelp : code ≠ .f 1)
    (hescape : code ≠ .esc) (henter : code ≠ .enter) :
    (screen.packetKey code).packetDetail = screen.packetDetail := by
  unfold packetKey
  split
  case h_1 => exact absurd rfl hhelp
  case h_5 => exact absurd rfl hescape
  case h_6 =>
    split_ifs
    · rfl
    · rfl
    · cases screen.tui.page with
      | dashboard => rfl
      | packetLog => exact packetDetail_packetLogKey screen henter
  all_goals rfl

theorem packetDetail_enter (screen : Screen) (prefsError : Option String)
    (hagrees : screen.PopupAgrees) :
    (screen.packetKey .enter).packetDetail.isSome =
      screen.tui.detailOpenAfter (screen.keyView prefsError).packetSelected
        .enter := by
  unfold PopupAgrees at hagrees
  cases hhelp : screen.tui.helpOpen with
  | true => simp [packetKey, Tui.detailOpenAfter, hhelp, hagrees]
  | false =>
      cases hfilter : screen.tui.repeaterFilterOpen with
      | true => simp [packetKey, Tui.detailOpenAfter, hhelp, hfilter, hagrees]
      | false =>
          cases hpage : screen.tui.page with
          | dashboard =>
              simp [packetKey, Tui.detailOpenAfter, hhelp, hfilter, hpage,
                hagrees]
          | packetLog =>
              cases hselected : screen.selectedGroup.isSome with
              | false =>
                  simp [packetKey, packetLogKey, Tui.detailOpenAfter, hhelp,
                    hfilter, hpage, keyView, hselected, hagrees]
              | true =>
                  cases hopen : screen.packetDetail.isSome <;>
                    simp [packetKey, packetLogKey, Tui.detailOpenAfter, hhelp,
                      hfilter, hpage, keyView, hselected, hagrees, hopen,
                      openPacketDetail, closePacketDetail]

theorem packetDetail_packetKey (screen : Screen) (prefsError : Option String)
    (hagrees : screen.PopupAgrees) (code : KeyCode) :
    (screen.packetKey code).packetDetail.isSome =
      screen.tui.detailOpenAfter (screen.keyView prefsError).packetSelected
        code := by
  by_cases hhelp : code = .f 1
  · subst hhelp
    unfold PopupAgrees at hagrees
    cases hopen : screen.tui.helpOpen <;>
      simp [packetKey, Tui.detailOpenAfter, hopen, hagrees, closePacketDetail]
  · by_cases hescape : code = .esc
    · subst hescape
      unfold PopupAgrees at hagrees
      cases hopen : screen.tui.helpOpen <;>
        cases hfilter : screen.tui.repeaterFilterOpen <;>
          simp [packetKey, Tui.detailOpenAfter, hopen, hfilter, hagrees,
            closePacketDetail]
    · by_cases henter : code = .enter
      · subst henter
        exact packetDetail_enter screen prefsError hagrees
      · rw [packetDetail_packetKey_of_quiet screen hhelp hescape henter,
          ← hagrees]
        unfold Tui.detailOpenAfter
        split
        · exact absurd rfl hhelp
        · exact absurd rfl hescape
        · exact absurd rfl henter
        · rfl

variable [PanelLibrary]

/-- The flag follows the popup through every action, so the keys of the
dashboard may be judged by the flag alone. -/
theorem PopupAgrees.perform {screen : Screen} (hagrees : screen.PopupAgrees)
    (action : ScreenAction) : (screen.perform action).PopupAgrees := by
  cases action with
  | key code prefsError =>
      have hfocus := Tui.focus_press screen.tui (screen.keyView prefsError) code
      have hflag := congrArg Prod.snd hfocus
      have hpopup := packetDetail_packetKey screen prefsError hagrees code
      exact hflag.trans hpopup.symm
  | ui event =>
      have hflag := congrArg Prod.snd (Tui.focus_applyUiEvent screen.tui event)
      exact hflag.trans hagrees
  | draw fits =>
      have hflag := congrArg Prod.snd (Tui.focus_draw screen.tui fits)
      exact hflag.trans hagrees

end Screen

/-! ## The key machine below -/

/-- Forgets whether a packet was selected. -/
def TuiAction.onScreen : TuiAction → ScreenAction
  | .key code view => .key code view.prefsError
  | .ui event => .ui event
  | .draw fits => .draw fits

namespace Screen

def onTui (screen : Screen) : ScreenAction → TuiAction
  | .key code prefsError => .key code (screen.keyView prefsError)
  | .ui event => .ui event
  | .draw fits => .draw fits

@[simp] theorem onScreen_onTui (screen : Screen) (action : ScreenAction) :
    (screen.onTui action).onScreen = action := by
  cases action <;> rfl

variable [PanelLibrary]

theorem tui_perform (screen : Screen) (action : ScreenAction) :
    (screen.perform action).tui =
      (screen.tui.perform (screen.onTui action)).1 := by
  cases action <;> rfl

/-- The key machine is told whether a packet is selected; each run of the
whole client is one of its runs, told what the packet page shows. -/
theorem exists_tui_run {screen final : Screen} {actions : List ScreenAction}
    (hagrees : screen.PopupAgrees)
    (hrun : run step screen actions = some final) :
    ∃ below, below.map TuiAction.onScreen = actions ∧
      run Tui.step screen.tui below = some final.tui ∧
      final.PopupAgrees := by
  induction actions generalizing screen with
  | nil =>
      rw [run_nil, Option.some.injEq] at hrun
      rw [← hrun]
      exact ⟨[], rfl, rfl, hagrees⟩
  | cons action rest ih =>
      obtain ⟨next, hstep, hrest⟩ := run_cons_eq_some_iff.mp hrun
      simp only [step, Option.ite_none_left_eq_some,
        Option.some.injEq] at hstep
      obtain ⟨hgoing, rfl⟩ := hstep
      obtain ⟨below, hbelow, hlater, hfinal⟩ :=
        ih (hagrees.perform action) hrest
      have hstepBelow : Tui.step screen.tui (screen.onTui action) =
          some (screen.perform action).tui := by
        rw [tui_perform, Tui.step, if_neg hgoing]
      refine ⟨screen.onTui action :: below, ?_, ?_, hfinal⟩
      · rw [List.map_cons, onScreen_onTui, hbelow]
      · rw [run_cons_some hstepBelow]
        exact hlater

end Screen

/-! ## The pager -/

/-- What a locked packet page is: a cursor over groups which do not change,
and a popup for one of them. -/
structure Pager where
  navigation : Navigation
  groups : List PacketGroup
  selection : Option ℕ
  detail : Option PacketGroup

namespace Pager

def takesKeys (pager : Pager) : Bool :=
  !pager.navigation.helpOpen && !pager.navigation.filterOpen &&
    pager.navigation.page = .packetLog

def selected (pager : Pager) : Option PacketGroup :=
  pager.selection.bind fun index => pager.groups[index]?

/-- The cursor moves while no popup is in front of it. -/
def moved (pager : Pager) : KeyCode → Option ℕ
  | .down =>
      if pager.takesKeys && pager.detail.isNone then
        nextRow pager.selection pager.groups.length
      else pager.selection
  | .up =>
      if pager.takesKeys && pager.detail.isNone then
        prevRow pager.selection pager.groups.length
      else pager.selection
  | _ => pager.selection

def shown (pager : Pager) : KeyCode → Option PacketGroup
  | .f 1 => if pager.navigation.helpOpen then pager.detail else none
  | .esc =>
      if pager.navigation.helpOpen || pager.navigation.filterOpen then
        pager.detail
      else none
  | .enter =>
      if pager.takesKeys && pager.selected.isSome then
        if pager.detail.isSome then none else pager.selected
      else pager.detail
  | _ => pager.detail

def press (pager : Pager) (code : KeyCode) : Pager where
  navigation := pager.navigation.press code
  groups := pager.groups
  selection := pager.moved code
  detail := pager.shown code

end Pager

theorem nextRow_lt {selected : Option ℕ} {len : ℕ}
    (hselected : ∀ i ∈ selected, i < len) :
    ∀ i ∈ nextRow selected len, i < len := by
  unfold nextRow
  split_ifs with hempty
  · exact hselected
  · cases selected with
    | none =>
        simp only [Option.mem_def, Option.some.injEq]
        omega
    | some i =>
        dsimp only
        split_ifs with hbelow <;> simp only [Option.mem_def, Option.some.injEq]
          <;> omega

theorem prevRow_lt {selected : Option ℕ} {len : ℕ}
    (hselected : ∀ i ∈ selected, i < len) :
    ∀ i ∈ prevRow selected len, i < len := by
  unfold prevRow
  split_ifs with hempty
  · exact hselected
  · rcases selected with _ | _ | i
    · simp only [Option.mem_def, Option.some.injEq]
      omega
    · simp only [Option.mem_def, Option.some.injEq]
      omega
    · have hi := hselected (i + 1) rfl
      simp only [Option.mem_def, Option.some.injEq]
      omega

namespace Screen

def pager (screen : Screen) : Pager where
  navigation := screen.tui.navigation
  groups := screen.packetGroups
  selection := screen.packetTableState
  detail := screen.packetDetail

@[simp] theorem groups_pager (screen : Screen) :
    screen.pager.groups = screen.packetGroups := rfl

@[simp] theorem selection_pager (screen : Screen) :
    screen.pager.selection = screen.packetTableState := rfl

@[simp] theorem detail_pager (screen : Screen) :
    screen.pager.detail = screen.packetDetail := rfl

@[simp] theorem selected_pager (screen : Screen) :
    screen.pager.selected = screen.selectedGroup := rfl

theorem lockedView_packetKey
    (screen : Screen) {code : KeyCode} (hlock : code ≠ .char 'l') :
    (screen.packetKey code).lockedView = screen.lockedView := by
  have hbelow : (screen.packetLogKey code).lockedView =
      screen.lockedView := by
    unfold packetLogKey
    split
    case h_1 | h_2 => split_ifs <;> rfl
    case h_3 => exact absurd rfl hlock
    case h_4 => split_ifs <;> rfl
    case h_5 => rfl
  unfold packetKey
  split
  case h_1 => split_ifs <;> rfl
  case h_5 => split_ifs <;> rfl
  case h_6 =>
    split_ifs
    · rfl
    · rfl
    · cases screen.tui.page with
      | dashboard => rfl
      | packetLog => exact hbelow
  all_goals rfl

theorem packetGroups_of_locked
    {screen next : Screen} (hlocked : screen.lockedView.isSome = true)
    (hsame : next.lockedView = screen.lockedView) :
    next.packetGroups = screen.packetGroups := by
  obtain ⟨frozen, hfrozen⟩ := Option.isSome_iff_exists.mp hlocked
  rw [hfrozen] at hsame
  simp only [packetGroups, visiblePackets, hfrozen, hsame]

/-- A key which is taken by no popup reaches the page. -/
theorem packetKey_of_takesKeys
    (screen : Screen) {code : KeyCode} (hhelp : code ≠ .f 1)
    (hdashboard : code ≠ .f 2) (hpacketLog : code ≠ .f 3)
    (hquit : code ≠ .char 'q') (hescape : code ≠ .esc) :
    screen.packetKey code =
      if screen.pager.takesKeys = true then screen.packetLogKey code
      else screen := by
  unfold packetKey
  split
  case h_1 => exact absurd rfl hhelp
  case h_2 => exact absurd rfl hdashboard
  case h_3 => exact absurd rfl hpacketLog
  case h_4 => exact absurd rfl hquit
  case h_5 => exact absurd rfl hescape
  case h_6 =>
    unfold Pager.takesKeys
    cases hhelpOpen : screen.tui.helpOpen <;>
      cases hfilter : screen.tui.repeaterFilterOpen <;>
        cases hpage : screen.tui.page <;>
          simp [pager, Tui.navigation, hhelpOpen, hfilter, hpage]

theorem packetTableState_packetLogKey
    (screen : Screen) {code : KeyCode} (hdown : code ≠ .down)
    (hup : code ≠ .up) :
    (screen.packetLogKey code).packetTableState = screen.packetTableState := by
  unfold packetLogKey
  split
  case h_1 => exact absurd rfl hdown
  case h_2 => exact absurd rfl hup
  case h_4 => split_ifs <;> rfl
  all_goals rfl

theorem packetTableState_packetKey_of_quiet
    (screen : Screen) {code : KeyCode} (hdown : code ≠ .down)
    (hup : code ≠ .up) :
    (screen.packetKey code).packetTableState = screen.packetTableState := by
  unfold packetKey
  split
  case h_1 => split_ifs <;> rfl
  case h_5 => split_ifs <;> rfl
  case h_6 =>
    split_ifs
    · rfl
    · rfl
    · cases screen.tui.page with
      | dashboard => rfl
      | packetLog => exact packetTableState_packetLogKey screen hdown hup
  all_goals rfl

theorem moved_pager (screen : Screen) (code : KeyCode) :
    (screen.packetKey code).packetTableState = screen.pager.moved code := by
  by_cases hdown : code = .down
  · subst hdown
    rw [packetKey_of_takesKeys screen (by simp) (by simp) (by simp) (by simp)
      (by simp)]
    cases htakes : screen.pager.takesKeys <;>
      cases hopen : screen.packetDetail <;>
        simp [Pager.moved, htakes, packetLogKey, hopen, selectNextPacket]
  · by_cases hup : code = .up
    · subst hup
      rw [packetKey_of_takesKeys screen (by simp) (by simp) (by simp)
        (by simp) (by simp)]
      cases htakes : screen.pager.takesKeys <;>
        cases hopen : screen.packetDetail <;>
          simp [Pager.moved, htakes, packetLogKey, hopen, selectPrevPacket]
    · rw [packetTableState_packetKey_of_quiet screen hdown hup]
      unfold Pager.moved
      split
      · exact absurd rfl hdown
      · exact absurd rfl hup
      · rfl

theorem shown_pager (screen : Screen) (code : KeyCode) :
    (screen.packetKey code).packetDetail = screen.pager.shown code := by
  by_cases hhelp : code = .f 1
  · subst hhelp
    cases hopen : screen.tui.helpOpen <;>
      simp [packetKey, Pager.shown, pager, Tui.navigation, hopen,
        closePacketDetail]
  · by_cases hescape : code = .esc
    · subst hescape
      cases hopen : screen.tui.helpOpen <;>
        cases hfilter : screen.tui.repeaterFilterOpen <;>
          simp [packetKey, Pager.shown, pager, Tui.navigation, hopen, hfilter,
            closePacketDetail]
    · by_cases henter : code = .enter
      · subst henter
        rw [packetKey_of_takesKeys screen (by simp) (by simp) (by simp)
          (by simp) (by simp), Pager.shown, selected_pager, detail_pager,
          packetLogKey]
        cases screen.pager.takesKeys with
        | false => rfl
        | true =>
            cases hsome : screen.selectedGroup.isSome <;>
              cases hopen : screen.packetDetail.isSome <;>
                simp [openPacketDetail, closePacketDetail]
      · rw [packetDetail_packetKey_of_quiet screen hhelp hescape henter]
        unfold Pager.shown
        split
        · exact absurd rfl hhelp
        · exact absurd rfl hescape
        · exact absurd rfl henter
        · rfl

variable [PanelLibrary]

/-- The view is locked, and the row which is selected exists. -/
structure Locked (screen : Screen) : Prop where
  locked : screen.lockedView.isSome = true
  selected : ∀ i ∈ screen.packetTableState, i < screen.packetGroups.length

def heardKey : ScreenAction → Option KeyCode
  | .key code _ => some code
  | _ => none

/-- Drawing a table leaves a selection alone which is one of its rows, and
puts any other back into them. -/
structure DrawsRows : Prop where
  keeps : ∀ (selected : Option ℕ) (rows : ℕ), (∀ i ∈ selected, i < rows) →
    PanelLibrary.drawnSelection selected rows = selected
  drawn_lt : ∀ (selected : Option ℕ) (rows : ℕ),
    ∀ i ∈ PanelLibrary.drawnSelection selected rows, i < rows

theorem pager_press (screen : Screen) {code : KeyCode}
    (prefsError : Option String) (hlocked : screen.Locked)
    (hlock : code ≠ .char 'l') :
    (screen.press code prefsError).pager = screen.pager.press code := by
  have hfocus := Tui.focus_press screen.tui (screen.keyView prefsError) code
  have hgroups : (screen.press code prefsError).packetGroups =
      screen.packetGroups :=
    packetGroups_of_locked hlocked.locked
      (lockedView_packetKey screen hlock)
  rw [Pager.press, ← moved_pager, ← shown_pager, groups_pager, ← hgroups]
  exact congrArg
    (fun navigation => Pager.mk navigation _ _ _)
    (congrArg Prod.fst hfocus)

theorem Locked.press {screen : Screen} {code : KeyCode}
    (prefsError : Option String) (hlocked : screen.Locked)
    (hlock : code ≠ .char 'l') : (screen.press code prefsError).Locked := by
  have hsame : (screen.press code prefsError).lockedView =
      screen.lockedView := lockedView_packetKey screen hlock
  constructor
  · rw [hsame]
    exact hlocked.locked
  · rw [packetGroups_of_locked hlocked.locked hsame]
    have hmoved : (screen.press code prefsError).packetTableState =
        screen.pager.moved code := moved_pager screen code
    rw [hmoved]
    unfold Pager.moved
    split
    · split_ifs
      · exact nextRow_lt hlocked.selected
      · exact hlocked.selected
    · split_ifs
      · exact prevRow_lt hlocked.selected
      · exact hlocked.selected
    · exact hlocked.selected

/-- Everything but a key leaves a locked page as it is. -/
theorem pager_perform_of_unheard (hdrawn : DrawsRows) {screen : Screen}
    (hlocked : screen.Locked) {action : ScreenAction}
    (hunheard : heardKey action = none) :
    (screen.perform action).Locked ∧
      (screen.perform action).pager = screen.pager := by
  cases action with
  | key code prefsError => cases hunheard
  | ui event =>
      have hgroups : (screen.perform (.ui event)).packetGroups =
          screen.packetGroups :=
        packetGroups_of_locked hlocked.locked rfl
      constructor
      · constructor
        · exact hlocked.locked
        · rw [hgroups]
          exact hlocked.selected
      · have hfocus := Tui.focus_applyUiEvent screen.tui event
        rw [pager, hgroups]
        exact congrArg
          (fun navigation => Pager.mk navigation _ _ _)
          (congrArg Prod.fst hfocus)
  | draw fits =>
      have hgroups : (screen.perform (.draw fits)).packetGroups =
          screen.packetGroups :=
        packetGroups_of_locked hlocked.locked rfl
      have hrow : (screen.perform (.draw fits)).packetTableState =
          screen.packetTableState := by
        simp only [perform, draw]
        split_ifs
        · exact hdrawn.keeps _ _ hlocked.selected
        · rfl
      constructor
      · constructor
        · exact hlocked.locked
        · rw [hgroups, hrow]
          exact hlocked.selected
      · have hfocus := Tui.focus_draw screen.tui fits
        rw [pager, hgroups, hrow]
        exact congrArg
          (fun navigation => Pager.mk navigation _ _ _)
          (congrArg Prod.fst hfocus)

theorem follows_pager (hdrawn : DrawsRows) :
    Follows step (fun _ action => heardKey action ≠ some (.char 'l')) Locked
      heardKey pager Pager.press where
  hidden := by
    intro screen action next hlocked _ hunheard hstep
    simp only [step, Option.ite_none_left_eq_some,
      Option.some.injEq] at hstep
    rw [← hstep.2]
    exact pager_perform_of_unheard hdrawn hlocked hunheard
  heard := by
    intro screen action code next hlocked hallowed hheard hstep
    simp only [step, Option.ite_none_left_eq_some,
      Option.some.injEq] at hstep
    rw [← hstep.2]
    cases action with
    | key pressed prefsError =>
        simp only [heardKey, Option.some.injEq] at hheard
        subst hheard
        have hlock : pressed ≠ .char 'l' := by simpa [heardKey] using hallowed
        constructor
        · exact hlocked.press prefsError hlock
        · exact pager_press screen prefsError hlocked hlock
    | ui event => cases hheard
    | draw fits => cases hheard

theorem packetGroups_draw (screen : Screen) (fits : Bool) :
    (screen.draw fits).packetGroups = screen.packetGroups := by
  have happ : (screen.tui.draw fits).app = screen.tui.app := by
    unfold Tui.draw
    split_ifs <;> rfl
  simp only [packetGroups, visiblePackets, draw, happ]

/-- Locking a page which has just been drawn changes nothing of what it
shows. -/
theorem lock_drawn_page (hdrawn : DrawsRows) {screen : Screen}
    (hunlocked : screen.lockedView = none)
    (hpage : screen.pager.takesKeys = true) (prefsError : Option String) :
    ((screen.draw true).press (.char 'l') prefsError).Locked ∧
      ((screen.draw true).press (.char 'l') prefsError).pager =
        (screen.draw true).pager := by
  generalize hbefore : screen.draw true = before
  have hfocus := Tui.focus_draw screen.tui true
  have hsame : before.tui.focus = screen.tui.focus := by
    rw [← hbefore]
    exact hfocus
  have hnavigation : before.tui.navigation = screen.tui.navigation :=
    congrArg Prod.fst hsame
  have htakes : before.pager.takesKeys = true := by
    have hsamePlace : before.pager.navigation = screen.pager.navigation :=
      hnavigation
    rw [← hpage, Pager.takesKeys, Pager.takesKeys, hsamePlace]
  have hopen : before.lockedView = none := by
    rw [← hbefore]
    exact hunlocked
  have hkey : before.packetKey (.char 'l') = before.toggleScrollLock := by
    rw [packetKey_of_takesKeys before (by simp) (by simp) (by simp) (by simp)
      (by simp), if_pos htakes]
    rfl
  have hview : (before.press (.char 'l') prefsError).lockedView =
      some before.tui.app.packets := by
    have hlockedView := congrArg Screen.lockedView hkey
    simp only [toggleScrollLock, PacketPage.toggleScrollLock, packetPage,
      hopen] at hlockedView
    exact hlockedView
  have hgroups : (before.press (.char 'l') prefsError).packetGroups =
      before.packetGroups := by
    simp only [packetGroups, visiblePackets, hview, hopen]
  have hrow : (before.press (.char 'l') prefsError).packetTableState =
      before.packetTableState := by
    change (before.packetKey (.char 'l')).packetTableState = _
    rw [hkey]
    rfl
  have hdetail : (before.press (.char 'l') prefsError).packetDetail =
      before.packetDetail := by
    change (before.packetKey (.char 'l')).packetDetail = _
    rw [hkey]
    rfl
  constructor
  · constructor
    · rw [hview]
      rfl
    · have hpacketLog : screen.tui.page = .packetLog := by
        simp only [Pager.takesKeys, Bool.and_eq_true,
          decide_eq_true_eq] at hpage
        exact hpage.2
      rw [hgroups, hrow, ← hbefore, packetGroups_draw]
      simp only [draw, hpacketLog, true_and, if_true]
      exact hdrawn.drawn_lt _ _
  · have hpressed := Tui.focus_press before.tui (before.keyView prefsError)
      (.char 'l')
    rw [pager, hgroups, hrow, hdetail]
    exact congrArg (fun navigation => Pager.mk navigation _ _ _)
      (congrArg Prod.fst hpressed)

/-- Under scroll lock the packet page is a pager over the groups drawn when
it was locked: whatever the daemon sends from then on, the groups are the same
and the selected row and the popup are those the keys alone lead to. -/
theorem locked_page_is_pager (hdrawn : DrawsRows)
    {screen final : Screen} {prefsError : Option String}
    {actions : List ScreenAction}
    (hunlocked : screen.lockedView = none)
    (hpage : screen.pager.takesKeys = true)
    (hstays : ∀ action ∈ actions, heardKey action ≠ some (.char 'l'))
    (hrun : run step screen
      (.draw true :: .key (.char 'l') prefsError :: actions) = some final) :
    final.pager = (actions.filterMap heardKey).foldl Pager.press
      (screen.draw true).pager := by
  obtain ⟨drawn, hdraw, hrun⟩ := run_cons_eq_some_iff.mp hrun
  obtain ⟨locked, hlock, hrun⟩ := run_cons_eq_some_iff.mp hrun
  simp only [step, Option.ite_none_left_eq_some, Option.some.injEq] at hdraw
  obtain ⟨_, rfl⟩ := hdraw
  simp only [step, Option.ite_none_left_eq_some, Option.some.injEq] at hlock
  obtain ⟨_, rfl⟩ := hlock
  have hlocked := lock_drawn_page hdrawn hunlocked hpage prefsError
  rw [← hlocked.2]
  have hmeets : MeetsAlong step
      (fun _ action => heardKey action ≠ some (.char 'l'))
      ((screen.draw true).press (.char 'l') prefsError) actions :=
    MeetsAlong.of_mem hstays _
  exact (follows_pager hdrawn).view_run hlocked.1 hmeets hrun

end Screen

section Example

attribute [local instance] plainPanel

namespace Screen

theorem drawsRows_plainPanel : DrawsRows := by
  constructor
  · intro selected rows hselected
    simp only [PanelLibrary.drawnSelection]
    cases selected with
    | none => simp
    | some row =>
        have hrow := hselected row rfl
        have hlast : min row (rows - 1) = row := by omega
        rw [if_neg (by omega), Option.map_some, hlast]
  · intro selected rows i hi
    simp only [PanelLibrary.drawnSelection] at hi
    split_ifs at hi with hempty
    · cases hi
    · cases selected with
      | none => cases hi
      | some row =>
          simp only [Option.map_some, Option.mem_def, Option.some.injEq] at hi
          omega

/-- The packet page with the second of two packets selected. -/
def onSecondPacket : Screen :=
  { start .default with
    tui :=
      { Tui.start .default with
        page := .packetLog
        app :=
          { App.new with
            packets :=
              [heardPacket 2 120 "Ack" "01",
                heardPacket 1 100 "TextMsg" "aabb"] } }
    packetTableState := some 1 }

/-- A packet arrives while the view is locked, and the user opens the packet
he had selected. -/
theorem locked_page_is_pager_packet_arrives :
    ∃ final,
      run step onSecondPacket
        [.draw true, .key (.char 'l') none,
          .ui (.server (.packetLogEntry (heardPacket 3 130 "Ack" "02"))),
          .draw true, .key .enter none] = some final ∧
      final.pager = [KeyCode.enter].foldl Pager.press
        (onSecondPacket.draw true).pager := by
  have hrun : run step onSecondPacket
      [.draw true, .key (.char 'l') none,
        .ui (.server (.packetLogEntry (heardPacket 3 130 "Ack" "02"))),
        .draw true, .key .enter none] = some _ := rfl
  refine ⟨_, hrun, ?_⟩
  exact locked_page_is_pager drawsRows_plainPanel rfl rfl (by simp [heardKey])
    hrun

end Screen

end Example

end MeshController
