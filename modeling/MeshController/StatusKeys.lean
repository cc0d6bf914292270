import MeshController.TuiKeys

/-!
# Which repeater a status key is for

The selection of the Repeaters panel is a row, and a snapshot can move the
contact which was selected to another row.  A status key is for the selected
contact exactly if the contact belongs into the selected row in the newest
snapshot.
-/

namespace MeshController

open LabelledRun

def KeyCode.status : KeyCode → Option RepeaterStatus
  | .char 'm' => some .managed
  | .char 'k' => some .known
  | .char 's' => some .supervised
  | _ => none

namespace Tui

variable [PanelLibrary]

/-- The press asks for a status of the contact with the prefix, and for
nothing else. -/
def SetsStatusOf (publicKeyPrefixHex : String)
    (outcome : Tui × List ClientMessage) : Prop :=
  ∃ name status,
    outcome.2 = [.setRepeaterStatus publicKeyPrefixHex name status]

theorem setsStatusOf_setRepeaterStatus_iff
    (tui : Tui) (target : RepeaterStatus) (publicKeyPrefixHex : String) :
    SetsStatusOf publicKeyPrefixHex (tui.setRepeaterStatus target) ↔
      ∃ c, tui.selectedContact = some c ∧
        c.publicKeyPrefixHex = publicKeyPrefixHex := by
  unfold setRepeaterStatus
  cases tui.selectedContact with
  | none => simp [SetsStatusOf]
  | some c => simp [SetsStatusOf]

theorem press_of_status
    (tui : Tui) (view : KeyView) {code : KeyCode} {target : RepeaterStatus}
    (hcode : code.status = some target) :
    tui.press view code =
      if tui.onDashboard = true then
        { tui with pendingDelete := none }.setRepeaterStatus target
      else ({ tui with pendingDelete := none }, []) := by
  unfold KeyCode.status at hcode
  split at hcode
  case h_4 => cases hcode
  all_goals
    cases hcode
    rw [press, if_neg (by decide), handleKey_of_actsOnContact _ view rfl]
    rfl

/-- The selected row holds the contact which belongs into it. -/
theorem selectedContact_iff
    (tui : Tui) (publicKeyPrefixHex : String) :
    (∃ c, tui.selectedContact = some c ∧
        c.publicKeyPrefixHex = publicKeyPrefixHex) ↔
      ∃ row, tui.contactsState = some row ∧
        BelongsInRow tui.repeaterFilter tui.app.snapshot publicKeyPrefixHex
          row := by
  simp only [belongsInRow_iff, selectedContact, Option.bind_eq_some_iff]
  constructor
  · rintro ⟨c, ⟨row, hrow, hc⟩, hname⟩
    exact ⟨row, hrow, c, hc, hname⟩
  · rintro ⟨row, hrow, c, hc, hname⟩
    exact ⟨c, ⟨row, hrow, hc⟩, hname⟩

end Tui

open Tui

section Example

attribute [local instance] plainPanel

/-- The two repeaters of the panel, with the times they were last heard. -/
def TuiAction.showsPair (first second : ℕ) : TuiAction :=
  .ui (.server (.snapshot (.showing
    [shownRepeater "abab" first, shownRepeater "cdcd" second])))

/-- The first of the two is selected. -/
def firstSelected : Tui :=
  ((((start .default).perform (.showsPair 9 5)).1.perform
    (.draw true)).1.perform (.pressed .down)).1

theorem isKey_of_messages (first second : ℕ) :
    ∀ action ∈ [TuiAction.showsPair first second, .draw true],
      action.isKey = false := by
  simp [TuiAction.showsPair, TuiAction.isKey]

end Example

end MeshController
