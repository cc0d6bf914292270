import MeshController.LabelledRun
import MeshController.RepeaterDetail

/-!
# The neighbour selected in the detail popup

The popup lists the neighbours of a repeater, and the arrow keys move a
selection through them while the other categories are still coming in.  Each
update decides by what the popup has accumulated, and not by what the update
brought, whether the selection goes back to the first neighbour.
-/

namespace MeshController

open LabelledRun

structure RepeaterDetailView where
  publicKeyPrefixHex : String
  name : String
  detail : RepeaterDetailDto

/-- `repeaterDetail` is `none` while the popup is closed, and
`neighboursListState` is the selected row. -/
structure DetailPopup where
  repeaterDetail : Option RepeaterDetailView
  neighboursListState : Option ℕ

namespace DetailPopup

def start : DetailPopup where
  repeaterDetail := none
  neighboursListState := none

def openRepeaterDetailPending
    (_popup : DetailPopup) (publicKeyPrefixHex name : String) :
    DetailPopup where
  repeaterDetail := some
    { publicKeyPrefixHex := publicKeyPrefixHex
      name := name
      detail := RepeaterDetailDto.fresh }
  neighboursListState := none

def applyRepeaterDetailCategory
    (popup : DetailPopup) (publicKeyPrefixHex : String)
    (category : RepeaterDetailCategory) : DetailPopup :=
  match popup.repeaterDetail with
  | none => popup
  | some view =>
      if view.publicKeyPrefixHex ≠ publicKeyPrefixHex then popup
      else
        let detail := view.detail.applyCategory category
        let hasNeighbours :=
          (detail.neighbours.map fun n => !n.neighbours.isEmpty).getD false
        { repeaterDetail := some { view with detail := detail }
          neighboursListState :=
            if hasNeighbours then some 0 else popup.neighboursListState }

def closeRepeaterDetail (popup : DetailPopup) : DetailPopup :=
  { popup with repeaterDetail := none }

def neighbourCount (popup : DetailPopup) : ℕ :=
  ((popup.repeaterDetail.bind fun v => v.detail.neighbours).map
    fun n => n.neighbours.length).getD 0

def selectNextNeighbour (popup : DetailPopup) : DetailPopup :=
  let len := popup.neighbourCount
  if len = 0 then popup
  else
    { popup with
      neighboursListState :=
        match popup.neighboursListState with
        | some i => if i + 1 < len then some (i + 1) else some 0
        | none => some 0 }

def selectPrevNeighbour (popup : DetailPopup) : DetailPopup :=
  let len := popup.neighbourCount
  if len = 0 then popup
  else
    { popup with
      neighboursListState :=
        match popup.neighboursListState with
        | some (i + 1) => some i
        | _ => some (len - 1) }

end DetailPopup

/-- The key which opens the popup works in it too, for the same contact or,
after a snapshot, for another. -/
inductive PopupAction where
  | enter (publicKeyPrefixHex name : String)
  | esc
  | down
  | up
  | update (publicKeyPrefixHex : String) (category : RepeaterDetailCategory)

namespace DetailPopup

/-- The arrow keys are the popup's own only while it is open. -/
def step : Machine DetailPopup PopupAction
  | popup, .enter publicKeyPrefixHex name =>
      some (popup.openRepeaterDetailPending publicKeyPrefixHex name)
  | popup, .esc => some popup.closeRepeaterDetail
  | popup, .down =>
      if popup.repeaterDetail.isSome then some popup.selectNextNeighbour
      else none
  | popup, .up =>
      if popup.repeaterDetail.isSome then some popup.selectPrevNeighbour
      else none
  | popup, .update publicKeyPrefixHex category =>
      some (popup.applyRepeaterDetailCategory publicKeyPrefixHex category)

end DetailPopup

/-! ## What a late category may do to the selection -/

def RepeaterDetailCategory.isNeighbours : RepeaterDetailCategory → Bool
  | .neighbours _ => true
  | _ => false

namespace DetailPopup

def shows (popup : DetailPopup) (publicKeyPrefixHex : String) : Bool :=
  popup.repeaterDetail.any fun v =>
    v.publicKeyPrefixHex == publicKeyPrefixHex

def NeighbourInRange (popup : DetailPopup) : Prop :=
  popup.repeaterDetail.isSome →
    ∀ selected ∈ popup.neighboursListState, selected < popup.neighbourCount

/-- The selection is in range after the step, and an update leaves it alone
unless it brings the neighbours of the contact which is shown. -/
structure CursorKept
    (popup : DetailPopup) (action : PopupAction) (next : DetailPopup) :
    Prop where
  inRange : next.NeighbourInRange
  unmoved : ∀ publicKeyPrefixHex category,
    action = .update publicKeyPrefixHex category →
    ¬ (category.isNeighbours ∧ popup.shows publicKeyPrefixHex) →
      next.neighboursListState = popup.neighboursListState

/-- Another category comes while there is no neighbour to reset the selection
to, or the first one is selected already; and a list without neighbours comes
while none is selected. -/
def SparesCursor (popup : DetailPopup) : PopupAction → Prop
  | .update publicKeyPrefixHex category =>
      popup.shows publicKeyPrefixHex →
        match category with
        | .neighbours (.ok n) =>
            n.neighbours ≠ [] ∨ popup.neighboursListState = none
        | .neighbours (.error _) => True
        | _ =>
            popup.neighbourCount = 0 ∨ popup.neighboursListState = some 0
  | _ => True

/-! ## What an update changes -/

theorem NeighbourInRange.selected_eq_none {popup : DetailPopup}
    (hgood : popup.NeighbourInRange) (hopen : popup.repeaterDetail.isSome)
    (hempty : popup.neighbourCount = 0) :
    popup.neighboursListState = none := by
  cases hnow : popup.neighboursListState with
  | none => rfl
  | some i =>
      have hi : i < popup.neighbourCount := hgood hopen i hnow
      omega

section Updates

variable {popup : DetailPopup} {publicKeyPrefixHex : String}

theorem apply_of_not_shows
    (hother : popup.shows publicKeyPrefixHex = false)
    (category : RepeaterDetailCategory) :
    popup.applyRepeaterDetailCategory publicKeyPrefixHex category =
      popup := by
  unfold applyRepeaterDetailCategory
  cases hview : popup.repeaterDetail with
  | none => rfl
  | some view =>
      have hprefix : view.publicKeyPrefixHex ≠ publicKeyPrefixHex := by
        simpa [shows, hview] using hother
      exact if_pos hprefix

theorem view_of_shows (hshown : popup.shows publicKeyPrefixHex) :
    ∃ view, popup.repeaterDetail = some view ∧
      view.publicKeyPrefixHex = publicKeyPrefixHex := by
  unfold shows at hshown
  cases hview : popup.repeaterDetail with
  | none =>
      rw [hview] at hshown
      contradiction
  | some view =>
      rw [hview] at hshown
      exact ⟨view, rfl, eq_of_beq hshown⟩

theorem isSome_of_shows (hshown : popup.shows publicKeyPrefixHex) :
    popup.repeaterDetail.isSome := by
  rcases view_of_shows hshown with ⟨view, hview, _⟩
  rw [hview]
  rfl

theorem isSome_apply_of_shows
    (hshown : popup.shows publicKeyPrefixHex)
    (category : RepeaterDetailCategory) :
    (popup.applyRepeaterDetailCategory publicKeyPrefixHex
      category).repeaterDetail.isSome := by
  rcases view_of_shows hshown with ⟨view, hview, hprefix⟩
  simp [applyRepeaterDetailCategory, hview, hprefix]

/-- The detail accumulates, and the first neighbour is selected whenever
there are neighbours in it. -/
theorem selected_apply_of_shows
    (hshown : popup.shows publicKeyPrefixHex)
    (category : RepeaterDetailCategory) :
    (popup.applyRepeaterDetailCategory publicKeyPrefixHex
        category).neighboursListState =
      if (popup.applyRepeaterDetailCategory publicKeyPrefixHex
          category).neighbourCount = 0 then popup.neighboursListState
      else some 0 := by
  rcases view_of_shows hshown with ⟨view, hview, hprefix⟩
  simp only [applyRepeaterDetailCategory, hview, hprefix, neighbourCount,
    ne_eq, not_true_eq_false, if_false, Option.bind_some]
  cases (view.detail.applyCategory category).neighbours with
  | none => rfl
  | some n => cases hlist : n.neighbours <;> simp [hlist]

theorem neighbourCount_apply_of_shows
    (hshown : popup.shows publicKeyPrefixHex)
    (category : RepeaterDetailCategory) :
    (popup.applyRepeaterDetailCategory publicKeyPrefixHex
        category).neighbourCount =
      match category with
      | .neighbours (.ok n) => n.neighbours.length
      | _ => popup.neighbourCount := by
  rcases view_of_shows hshown with ⟨view, hview, hprefix⟩
  simp only [applyRepeaterDetailCategory, hview, hprefix, neighbourCount,
    ne_eq, not_true_eq_false, if_false, Option.bind_some]
  cases category with
  | status outcome => cases outcome <;> rfl
  | telemetry outcome => cases outcome <;> rfl
  | neighbours outcome => cases outcome <;> rfl
  | regions outcome => cases outcome <;> rfl

end Updates

/-! ## What a key changes -/

theorem NeighbourInRange.afterDown {popup : DetailPopup}
    (hgood : popup.NeighbourInRange) :
    popup.selectNextNeighbour.NeighbourInRange := by
  unfold selectNextNeighbour
  by_cases hempty : popup.neighbourCount = 0
  · simpa only [hempty, if_true] using hgood
  · simp only [hempty, if_false]
    intro _ selected hselected
    change selected < popup.neighbourCount
    cases hnow : popup.neighboursListState with
    | none =>
        simp only [hnow, Option.mem_some_iff] at hselected
        omega
    | some i =>
        simp only [hnow] at hselected
        split at hselected
        · simp only [Option.mem_some_iff] at hselected
          omega
        · simp only [Option.mem_some_iff] at hselected
          omega

theorem NeighbourInRange.afterUp {popup : DetailPopup}
    (hgood : popup.NeighbourInRange) :
    popup.selectPrevNeighbour.NeighbourInRange := by
  unfold selectPrevNeighbour
  by_cases hempty : popup.neighbourCount = 0
  · simpa only [hempty, if_true] using hgood
  · simp only [hempty, if_false]
    intro hopen selected hselected
    change selected < popup.neighbourCount
    cases hnow : popup.neighboursListState with
    | none =>
        simp only [hnow, Option.mem_some_iff] at hselected
        omega
    | some i =>
        have hi : i < popup.neighbourCount := hgood hopen i hnow
        cases i with
        | zero =>
            simp only [hnow, Option.mem_some_iff] at hselected
            omega
        | succ i =>
            simp only [hnow, Option.mem_some_iff] at hselected
            omega

/-! ## The condition is exact -/

theorem cursorKept_of_no_update
    {popup next : DetailPopup} {action : PopupAction}
    (hkey : ∀ publicKeyPrefixHex category,
      action ≠ .update publicKeyPrefixHex category)
    (hrange : next.NeighbourInRange) : CursorKept popup action next := by
  constructor
  · exact hrange
  · intro publicKeyPrefixHex category haction
    exact absurd haction (hkey publicKeyPrefixHex category)

section Exactness

variable {popup : DetailPopup} {publicKeyPrefixHex : String}

/-- An update leaves the selection in range unless it takes the neighbours away
from under it. -/
theorem neighbourInRange_apply_iff
    (hshown : popup.shows publicKeyPrefixHex)
    (category : RepeaterDetailCategory) :
    (popup.applyRepeaterDetailCategory publicKeyPrefixHex
        category).NeighbourInRange ↔
      (popup.applyRepeaterDetailCategory publicKeyPrefixHex
        category).neighbourCount ≠ 0 ∨ popup.neighboursListState = none := by
  have hselected := selected_apply_of_shows hshown category
  constructor
  · intro hrange
    by_cases hempty : (popup.applyRepeaterDetailCategory publicKeyPrefixHex
        category).neighbourCount = 0
    · right
      rw [if_pos hempty] at hselected
      rw [← hselected]
      exact hrange.selected_eq_none (isSome_apply_of_shows hshown category)
        hempty
    · exact Or.inl hempty
  · intro hkept _ selected hnow
    rw [hselected] at hnow
    split at hnow
    next hempty =>
      rw [hkept.resolve_left (absurd hempty)] at hnow
      contradiction
    next hfilled =>
      simp only [Option.mem_some_iff] at hnow
      omega

/-- A category other than the neighbours adds none and takes none away. -/
theorem cursorKept_other_iff
    (hgood : popup.NeighbourInRange)
    (hshown : popup.shows publicKeyPrefixHex)
    {category : RepeaterDetailCategory}
    (hother : category.isNeighbours = false) :
    CursorKept popup (.update publicKeyPrefixHex category)
        (popup.applyRepeaterDetailCategory publicKeyPrefixHex category) ↔
      popup.neighbourCount = 0 ∨ popup.neighboursListState = some 0 := by
  have hopen := isSome_of_shows hshown
  have hselected := selected_apply_of_shows hshown category
  have hcount : (popup.applyRepeaterDetailCategory publicKeyPrefixHex
      category).neighbourCount = popup.neighbourCount := by
    rw [neighbourCount_apply_of_shows hshown category]
    cases category with
    | neighbours outcome => contradiction
    | status outcome | telemetry outcome | regions outcome => rfl
  rw [hcount] at hselected
  constructor
  · intro hkept
    have hunmoved := hkept.unmoved publicKeyPrefixHex category rfl
      (by simp [hother])
    by_cases hempty : popup.neighbourCount = 0
    · exact Or.inl hempty
    · rw [hselected, if_neg hempty] at hunmoved
      exact Or.inr hunmoved.symm
  · intro hspared
    constructor
    · rw [neighbourInRange_apply_iff hshown, hcount]
      by_cases hempty : popup.neighbourCount = 0
      · exact Or.inr (hgood.selected_eq_none hopen hempty)
      · exact Or.inl hempty
    · intro otherKey otherCategory haction _
      cases haction
      rw [hselected]
      rcases hspared with hempty | hfirst
      · rw [if_pos hempty]
      · rw [hfirst, ite_self]

theorem cursorKept_neighbours_iff
    (hgood : popup.NeighbourInRange)
    (hshown : popup.shows publicKeyPrefixHex)
    (outcome : Except String NeighboursDto) :
    CursorKept popup (.update publicKeyPrefixHex (.neighbours outcome))
        (popup.applyRepeaterDetailCategory publicKeyPrefixHex
          (.neighbours outcome)) ↔
      popup.SparesCursor
        (.update publicKeyPrefixHex (.neighbours outcome)) := by
  have hinRange : CursorKept popup
      (.update publicKeyPrefixHex (.neighbours outcome))
      (popup.applyRepeaterDetailCategory publicKeyPrefixHex
        (.neighbours outcome)) ↔
      (popup.applyRepeaterDetailCategory publicKeyPrefixHex
        (.neighbours outcome)).NeighbourInRange := by
    constructor
    · intro hkept
      exact hkept.inRange
    · intro hrange
      constructor
      · exact hrange
      · intro otherKey otherCategory haction hmissed
        cases haction
        exact absurd ⟨rfl, hshown⟩ hmissed
  rw [hinRange, neighbourInRange_apply_iff hshown,
    neighbourCount_apply_of_shows hshown]
  cases outcome with
  | error err =>
      constructor
      · intro _ _
        trivial
      · intro _
        by_cases hempty : popup.neighbourCount = 0
        · exact Or.inr
            (hgood.selected_eq_none (isSome_of_shows hshown) hempty)
        · exact Or.inl hempty
  | ok n =>
      simp only [SparesCursor, hshown, true_implies, ne_eq,
        List.length_eq_zero_iff]

end Exactness

theorem cursorKept_iff_sparesCursor
    {popup next : DetailPopup} {action : PopupAction}
    (hgood : popup.NeighbourInRange)
    (hstep : step popup action = some next) :
    CursorKept popup action next ↔ popup.SparesCursor action := by
  cases action with
  | enter publicKeyPrefixHex name =>
      simp only [step, Option.some.injEq] at hstep
      have hnone : next.NeighbourInRange := by
        intro _ selected hselected
        rw [← hstep] at hselected
        contradiction
      apply iff_of_true ?_ trivial
      exact cursorKept_of_no_update (by simp) hnone
  | esc =>
      simp only [step, Option.some.injEq] at hstep
      have hclosed : next.NeighbourInRange := by
        intro hopen
        rw [← hstep] at hopen
        contradiction
      apply iff_of_true ?_ trivial
      exact cursorKept_of_no_update (by simp) hclosed
  | down =>
      rcases guarded_eq_some_iff.mp hstep with ⟨_, rfl⟩
      apply iff_of_true ?_ trivial
      exact cursorKept_of_no_update (by simp) hgood.afterDown
  | up =>
      rcases guarded_eq_some_iff.mp hstep with ⟨_, rfl⟩
      apply iff_of_true ?_ trivial
      exact cursorKept_of_no_update (by simp) hgood.afterUp
  | update publicKeyPrefixHex category =>
      simp only [step, Option.some.injEq] at hstep
      rw [← hstep]
      by_cases hshown : popup.shows publicKeyPrefixHex = true
      · cases category with
        | neighbours outcome =>
            exact cursorKept_neighbours_iff hgood hshown outcome
        | status outcome | telemetry outcome | regions outcome =>
            rw [cursorKept_other_iff hgood hshown rfl]
            simp only [SparesCursor, hshown, true_implies]
      · have hother : popup.shows publicKeyPrefixHex = false := by
          simpa using hshown
        rw [apply_of_not_shows hother category]
        constructor
        · intro _ hshownNow
          exact absurd hshownNow hshown
        · intro _
          constructor
          · exact hgood
          · intro _ _ _ _
            rfl

/-- The selection stays in range, and the late categories leave it alone, in
a run of updates and keys if and only if each update of the run spares it. -/
theorem cursor_kept_iff_spared
    {actions : List PopupAction} {final : DetailPopup}
    (hrun : run step start actions = some final) :
    AtEveryStep step CursorKept start actions ↔
      MeetsAlong step SparesCursor start actions := by
  have hstart : start.NeighbourInRange := by
    intro hopen
    contradiction
  symm
  apply meetsAlong_iff_atEveryStep ?_ ?_ hstart hrun
  · intro popup action next hgood hstep
    exact cursorKept_iff_sparesCursor hgood hstep
  · intro popup action next hkept
    exact hkept.inRange

def heardNeighbour (publicKeyPrefixHex : String) : NeighbourDto where
  publicKeyPrefixHex := publicKeyPrefixHex
  secsAgo := 5
  snr := 1

def heardNeighbours (neighbours : List NeighbourDto) :
    RepeaterDetailCategory :=
  .neighbours (.ok ⟨0, 2, neighbours⟩)

def twoNeighbours : RepeaterDetailCategory :=
  heardNeighbours
    [heardNeighbour "112233445566", heardNeighbour "778899aabbcc"]

theorem cursor_kept_second_neighbour :
    AtEveryStep step CursorKept start
      [.enter "aabbccddeeff" "Repeater A",
        .update "aabbccddeeff" (.status (.error "timed out")),
        .update "aabbccddeeff" twoNeighbours, .down,
        .update "001122334455" (.regions (.error "timed out"))] := by
  apply (cursor_kept_iff_spared rfl).mpr
  refine ⟨trivial, ?_, ?_, trivial, ?_, trivial⟩
  · intro _
    exact Or.inl rfl
  · intro _
    exact Or.inr rfl
  · intro hshown
    contradiction

/-- The regions come after the neighbours, and put the selection back to the
first one; and a second request can find no neighbour where there were some. -/
theorem not_cursor_kept_regions_after_down :
    (¬ AtEveryStep step CursorKept start
      [.enter "aabbccddeeff" "Repeater A",
        .update "aabbccddeeff" twoNeighbours, .down,
        .update "aabbccddeeff" (.regions (.error "timed out"))]) ∧
    ¬ AtEveryStep step CursorKept start
      [.enter "aabbccddeeff" "Repeater A",
        .update "aabbccddeeff" twoNeighbours,
        .update "aabbccddeeff" (heardNeighbours [])] := by
  constructor
  · intro hall
    have hkept := hall
      [.enter "aabbccddeeff" "Repeater A",
        .update "aabbccddeeff" twoNeighbours, .down]
      (.update "aabbccddeeff" (.regions (.error "timed out")))
      _ _ (List.prefix_refl _) rfl rfl
    have hunmoved := hkept.unmoved _ _ rfl (by
      rintro ⟨hneighbours, _⟩
      contradiction)
    cases hunmoved
  · intro hall
    have hkept := hall
      [.enter "aabbccddeeff" "Repeater A",
        .update "aabbccddeeff" twoNeighbours]
      (.update "aabbccddeeff" (heardNeighbours []))
      _ _ (List.prefix_refl _) rfl rfl
    have hrange := hkept.inRange rfl 0 rfl
    cases hrange

end DetailPopup

end MeshController
