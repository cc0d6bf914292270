import MeshController.TuiKeys

/-!
# Deleting a contact takes two presses

A press of `d` arms a confirmation for the selected contact, which the next key
press uses up.  An observer writes down each key press with the contact which
was selected at it and what it removed.
-/

namespace MeshController

open LabelledRun

/-! ## What removes a contact -/

/-- The contacts the messages ask to remove. -/
def removals (messages : List ClientMessage) : List String :=
  messages.filterMap fun message =>
    match message with
    | .removeContact publicKeyPrefixHex => some publicKeyPrefixHex
    | _ => none

namespace Tui

/-- Neither removes a contact nor touches the confirmation. -/
def LeavesDelete (tui : Tui) (outcome : Tui × List ClientMessage) : Prop :=
  outcome.1.pendingDelete = tui.pendingDelete ∧ removals outcome.2 = []

theorem removals_applyUiEvent (tui : Tui) (event : UiEvent) :
    removals (tui.applyUiEvent event).2 = [] := by
  cases event with
  | server message =>
      cases message with
      | event announced =>
          simp only [applyUiEvent, App.applyServerMessage]
          split <;> rfl
      | hello version | snapshot snapshot | packetLog backlog
      | packetLogEntry entry | error message
      | telemetryResult key telemetry => rfl
  | daemonConnected | daemonDisconnected
  | repeaterDetailCategory publicKeyPrefixHex => rfl

variable [PanelLibrary]

theorem leavesDelete_setRepeaterStatus (tui : Tui) (target : RepeaterStatus) :
    tui.LeavesDelete (tui.setRepeaterStatus target) := by
  unfold setRepeaterStatus
  cases tui.selectedContact with
  | none => exact ⟨rfl, rfl⟩
  | some c => exact ⟨rfl, rfl⟩

theorem leavesDelete_requestRepeaterDetail (tui : Tui) :
    tui.LeavesDelete tui.requestRepeaterDetail := by
  unfold requestRepeaterDetail
  cases tui.selectedContact with
  | none => exact ⟨rfl, rfl⟩
  | some c => exact ⟨rfl, rfl⟩

omit [PanelLibrary] in
@[simp] theorem pendingDelete_closeRepeaterFilter
    (tui : Tui) (view : KeyView) :
    (tui.closeRepeaterFilter view).pendingDelete = tui.pendingDelete := by
  unfold closeRepeaterFilter
  cases view.prefsError <;> rfl

omit [PanelLibrary] in
@[simp] theorem pendingDelete_escape (tui : Tui) (view : KeyView) :
    (tui.escape view).pendingDelete = tui.pendingDelete := by
  unfold escape
  split_ifs <;> simp

theorem pendingDelete_filterKey
    (tui : Tui) (view : KeyView) (code : KeyCode) :
    (tui.filterKey view code).pendingDelete = tui.pendingDelete := by
  unfold filterKey
  split
  · rfl
  · rfl
  · rfl
  · rfl
  · exact pendingDelete_closeRepeaterFilter tui view
  · rfl

omit [PanelLibrary] in
theorem pendingDelete_packetLogKey
    (tui : Tui) (view : KeyView) (code : KeyCode) :
    (tui.packetLogKey view code).pendingDelete = tui.pendingDelete := by
  unfold packetLogKey
  split
  · split_ifs <;> rfl
  · rfl

theorem leavesDelete_dashboardKey
    (tui : Tui) {code : KeyCode} (hcode : code ≠ .char 'd') :
    tui.LeavesDelete (tui.dashboardKey code) := by
  unfold dashboardKey
  split
  · exact ⟨rfl, rfl⟩
  · split_ifs
    · exact ⟨rfl, rfl⟩
    · refine ⟨?_, rfl⟩
      unfold selectNextContact
      dsimp only
      split_ifs <;> rfl
  · split_ifs
    · exact ⟨rfl, rfl⟩
    · refine ⟨?_, rfl⟩
      unfold selectPrevContact
      dsimp only
      split_ifs <;> rfl
  · exact tui.leavesDelete_setRepeaterStatus .managed
  · exact tui.leavesDelete_setRepeaterStatus .known
  · exact tui.leavesDelete_setRepeaterStatus .supervised
  · exact absurd rfl hcode
  · exact ⟨rfl, rfl⟩
  · exact tui.leavesDelete_requestRepeaterDetail
  · exact ⟨rfl, rfl⟩

theorem leavesDelete_handleKey
    (tui : Tui) (view : KeyView) {code : KeyCode} (hcode : code ≠ .char 'd') :
    tui.LeavesDelete (tui.handleKey view code) := by
  unfold handleKey
  split
  · exact ⟨rfl, rfl⟩
  · exact ⟨rfl, rfl⟩
  · exact ⟨rfl, rfl⟩
  · exact ⟨rfl, rfl⟩
  · exact ⟨pendingDelete_escape tui view, rfl⟩
  · split_ifs
    · exact ⟨rfl, rfl⟩
    · exact ⟨pendingDelete_filterKey tui view _, rfl⟩
    · split
      · exact tui.leavesDelete_dashboardKey hcode
      · exact ⟨pendingDelete_packetLogKey tui view _, rfl⟩

/-- A press of `d` finds no contact, or removes the one which is armed, or
arms the one which is selected. -/
theorem confirmOrArmDelete_cases (tui : Tui) :
    (removals tui.confirmOrArmDelete.2 = [] ∧
        tui.confirmOrArmDelete.1.pendingDelete = none) ∨
      (∃ c name, tui.selectedContact = some c ∧
        tui.pendingDelete = some (c.publicKeyPrefixHex, name) ∧
        removals tui.confirmOrArmDelete.2 = [c.publicKeyPrefixHex] ∧
        tui.confirmOrArmDelete.1.pendingDelete = none) ∨
      (∃ c, tui.selectedContact = some c ∧
        removals tui.confirmOrArmDelete.2 = [] ∧
        tui.confirmOrArmDelete.1 =
          { tui with
            pendingDelete := some (c.publicKeyPrefixHex, c.name) }) := by
  unfold confirmOrArmDelete
  cases hselected : tui.selectedContact with
  | none => exact Or.inl ⟨rfl, rfl⟩
  | some c =>
      dsimp only
      split_ifs with harmed
      · obtain ⟨⟨armed, name⟩, hpending, hsame⟩ :=
          Option.map_eq_some_iff.mp harmed
        refine Or.inr (Or.inl ⟨c, name, rfl, ?_, rfl, rfl⟩)
        rw [hpending, ← hsame]
      · exact Or.inr (Or.inr ⟨c, rfl, rfl, rfl⟩)

end Tui

/-! ## The confirmation -/

/-- A key press, the contact which was selected at it and what it removed. -/
structure KeyPress where
  code : KeyCode
  selected : Option String
  removed : List String
deriving DecidableEq

/-- The key presses, newest first, and what was removed without one. -/
structure KeyLog where
  presses : List KeyPress
  unprompted : List String

/-- A press which removes a contact, and the one it confirms. -/
structure Confirms (earlier later : KeyPress) : Prop where
  armed : earlier.code = .char 'd' ∧ earlier.removed = []
  pressed : later.code = .char 'd'
  same : ∃ p, earlier.selected = some p ∧ later.selected = some p ∧
    later.removed = [p]

/-- Every press which removed something confirmed the press before it. -/
def AllConfirmed : List KeyPress → Prop
  | [] => True
  | [press] => press.removed = []
  | later :: earlier :: rest =>
      (later.removed = [] ∨ Confirms earlier later) ∧
        AllConfirmed (earlier :: rest)

theorem AllConfirmed.cons_of_nil
    {press : KeyPress} {presses : List KeyPress}
    (hconfirmed : AllConfirmed presses) (hremoved : press.removed = []) :
    AllConfirmed (press :: presses) := by
  cases presses with
  | nil => exact hremoved
  | cons earlier rest => exact ⟨Or.inl hremoved, hconfirmed⟩

namespace KeyLog

def empty : KeyLog where
  presses := []
  unprompted := []

variable [PanelLibrary]

def note (log : KeyLog) (tui : Tui) (action : TuiAction) (_ : Tui) : KeyLog :=
  let removed := removals (tui.perform action).2
  match action with
  | .key code _ =>
      { log with
        presses :=
          { code := code
            selected := tui.selectedContact.map fun c => c.publicKeyPrefixHex
            removed := removed } :: log.presses }
  | _ => { log with unprompted := log.unprompted ++ removed }

/-- A confirmation which is armed was armed by the last press. -/
structure Guards (log : KeyLog) (tui : Tui) : Prop where
  confirmed : AllConfirmed log.presses
  unprompted : log.unprompted = []
  armed : ∀ pending, tui.pendingDelete = some pending →
    tui.onDashboard = true ∧
      ∃ press rest, log.presses = press :: rest ∧
        press.code = .char 'd' ∧ press.removed = [] ∧
        press.selected = some pending.1

omit [PanelLibrary] in
theorem guards_start (filter : RepeaterFilter) :
    empty.Guards (Tui.start filter) where
  confirmed := trivial
  unprompted := rfl
  armed := by
    intro pending hpending
    cases hpending

theorem Guards.afterIdlePress
    {log : KeyLog} {tui : Tui} (hguards : log.Guards tui)
    {code : KeyCode} {view : KeyView}
    (hremoved : removals (tui.press view code).2 = [])
    (hpending : (tui.press view code).1.pendingDelete = none) :
    (log.note tui (.key code view) (tui.press view code).1).Guards
      (tui.press view code).1 where
  confirmed := hguards.confirmed.cons_of_nil hremoved
  unprompted := hguards.unprompted
  armed := by
    intro pending harmed
    rw [hpending] at harmed
    cases harmed

theorem Guards.afterDelete
    {log : KeyLog} {tui : Tui} (hguards : log.Guards tui)
    (hopen : tui.onDashboard = true) {view : KeyView}
    (hpress : tui.press view (.char 'd') = tui.confirmOrArmDelete) :
    (log.note tui (.key (.char 'd') view)
      (tui.press view (.char 'd')).1).Guards
      (tui.press view (.char 'd')).1 := by
  rcases tui.confirmOrArmDelete_cases with ⟨hremoved, hpending⟩ |
    ⟨c, name, hselected, harmed, hremoved, hpending⟩ |
    ⟨c, hselected, hremoved, hafter⟩
  · apply hguards.afterIdlePress
    · rw [hpress]
      exact hremoved
    · rw [hpress]
      exact hpending
  · obtain ⟨_, press, rest, hpresses, hcode, hnothing, hsame⟩ :=
      hguards.armed _ harmed
    refine ⟨?_, hguards.unprompted, ?_⟩
    · have hconfirmed := hguards.confirmed
      simp only [note, Tui.perform, hpress, hpresses, hselected, hremoved,
        Option.map_some]
      rw [hpresses] at hconfirmed
      exact ⟨Or.inr ⟨⟨hcode, hnothing⟩, rfl, _, hsame, rfl, rfl⟩, hconfirmed⟩
    · intro pending hleft
      rw [hpress, hpending] at hleft
      cases hleft
  · refine ⟨?_, hguards.unprompted, ?_⟩
    · apply hguards.confirmed.cons_of_nil
      simpa only [Tui.perform, hpress] using hremoved
    · intro pending hleft
      rw [hpress, hafter, Option.some.injEq] at hleft
      rw [hpress, hafter]
      refine ⟨hopen, _, log.presses, rfl, rfl, ?_, ?_⟩
      · simpa only [Tui.perform, hpress] using hremoved
      · simp [hselected, ← hleft]

theorem Guards.afterPress
    {log : KeyLog} {tui : Tui} (hguards : log.Guards tui)
    (code : KeyCode) (view : KeyView) :
    (log.note tui (.key code view) (tui.press view code).1).Guards
      (tui.press view code).1 := by
  by_cases hcode : code = .char 'd'
  · subst hcode
    have hpress : tui.press view (.char 'd') =
        if tui.onDashboard = true then tui.confirmOrArmDelete
        else (tui, []) := by
      rw [Tui.press, if_pos rfl, Tui.handleKey_of_actsOnContact tui view rfl]
      rfl
    by_cases hopen : tui.onDashboard = true
    · rw [if_pos hopen] at hpress
      exact hguards.afterDelete hopen hpress
    · rw [if_neg hopen] at hpress
      have hnone : tui.pendingDelete = none := by
        rw [Option.eq_none_iff_forall_ne_some]
        intro pending hpending
        exact hopen (hguards.armed pending hpending).1
      apply hguards.afterIdlePress
      · rw [hpress]
        rfl
      · rw [hpress]
        exact hnone
  · have hpress : tui.press view code =
        { tui with pendingDelete := none }.handleKey view code := by
      rw [Tui.press, if_neg hcode]
    obtain ⟨hpending, hremoved⟩ :=
      Tui.leavesDelete_handleKey { tui with pendingDelete := none } view hcode
    apply hguards.afterIdlePress
    · rw [hpress]
      exact hremoved
    · rw [hpress]
      exact hpending

omit [PanelLibrary] in
theorem Guards.afterOther
    {log : KeyLog} {tui next : Tui} (hguards : log.Guards tui)
    (hsame : tui.SameKeys next) : log.Guards next := by
  refine ⟨hguards.confirmed, hguards.unprompted, ?_⟩
  rw [hsame.pendingDelete, hsame.onDashboard]
  exact hguards.armed

theorem Guards.afterStep
    {log : KeyLog} {tui next : Tui} (hguards : log.Guards tui)
    {action : TuiAction} (hstep : tui.step action = some next) :
    (log.note tui action next).Guards next := by
  simp only [Tui.step, Option.ite_none_left_eq_some, Option.some.injEq]
    at hstep
  obtain ⟨_, rfl⟩ := hstep
  cases action with
  | key code view => exact hguards.afterPress code view
  | ui event =>
      have hsame := hguards.afterOther (tui.sameKeys_applyUiEvent event)
      refine ⟨hsame.confirmed, ?_, hsame.armed⟩
      simp [note, Tui.perform, Tui.removals_applyUiEvent, hguards.unprompted]
  | draw fits =>
      have hsame := hguards.afterOther (tui.sameKeys_draw fits)
      refine ⟨hsame.confirmed, ?_, hsame.armed⟩
      simp [note, Tui.perform, removals, hguards.unprompted]

/-- A client with a log which is right about it. -/
def Follows (watched : Tui × KeyLog) : Prop :=
  watched.2.Guards watched.1

end KeyLog

open Tui

/-- In every run, a press which removed a contact was one of `d` right after
another one of `d` which removed nothing and found the same contact selected,
and nothing but a key press removed a contact. -/
theorem delete_confirmed_by_second_press
    [PanelLibrary] {filter : RepeaterFilter} {actions : List TuiAction}
    {final : Tui} (hrun : run step (start filter) actions = some final) :
    ∃ log, run (observed step KeyLog.note) (start filter, .empty) actions =
        some (final, log) ∧
      AllConfirmed log.presses ∧ log.unprompted = [] := by
  have hobserved : ∃ log,
      run (observed step KeyLog.note) (start filter, .empty) actions =
        some (final, log) := exists_run_observed hrun KeyLog.empty
  obtain ⟨log, hlog⟩ := hobserved
  refine ⟨log, hlog, ?_⟩
  have hguards : KeyLog.Follows (final, log) := by
    apply invariant_of_every_step ?_ ?_ hlog
    · intro watched action after hguards hwatched
      obtain ⟨next, hstep, rfl⟩ := observed_eq_some_iff.mp hwatched
      exact KeyLog.Guards.afterStep hguards hstep
    · exact KeyLog.guards_start filter
  exact ⟨hguards.confirmed, hguards.unprompted⟩

section Example

attribute [local instance] plainPanel

theorem delete_confirmed_by_second_press_hilltop :
    ∃ final log, run (observed step KeyLog.note) (start .default, .empty)
        [.ui (.server (.snapshot (.showing [shownRepeater "abab" 5]))),
          .draw true, .pressed .down, .pressed (.char 'd'),
          .ui (.server (.snapshot (.showing [shownRepeater "abab" 9]))),
          .pressed (.char 'd')] = some (final, log) ∧
      log.presses.map (fun press => press.removed) = [["abab"], [], []] ∧
      AllConfirmed log.presses := by
  obtain ⟨log, hlog, hconfirmed, _⟩ :=
    @delete_confirmed_by_second_press plainPanel .default
      [.ui (.server (.snapshot (.showing [shownRepeater "abab" 5]))),
        .draw true, .pressed .down, .pressed (.char 'd'),
        .ui (.server (.snapshot (.showing [shownRepeater "abab" 9]))),
        .pressed (.char 'd')] _ rfl
  have hremoved : (run (observed step KeyLog.note) (start .default, .empty)
      [.ui (.server (.snapshot (.showing [shownRepeater "abab" 5]))),
        .draw true, .pressed .down, .pressed (.char 'd'),
        .ui (.server (.snapshot (.showing [shownRepeater "abab" 9]))),
        .pressed (.char 'd')]).map
          (fun watched => watched.2.presses.map fun press => press.removed) =
        some [["abab"], [], []] := rfl
  rw [hlog, Option.map_some, Option.some.injEq] at hremoved
  exact ⟨_, log, hlog, hremoved, hconfirmed⟩

end Example

end MeshController
