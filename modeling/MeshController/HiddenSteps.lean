import MeshController.LabelledRun

/-!
# Runs seen by an observer

An observer sees a view of the state, and hears some of the labels.  Where the
labels he does not hear never change what he sees, and his view after each of
the others follows from his view before it, all he ever sees follows from what
he hears.
-/

namespace HiddenSteps

open LabelledRun

variable {State Action Heard View : Type*}

/-- `hear` gives what is heard of a label, `respond` what it does to the
view. -/
structure Follows (step : Machine State Action)
    (Allowed : State → Action → Prop) (Inv : State → Prop)
    (hear : Action → Option Heard) (view : State → View)
    (respond : View → Heard → View) : Prop where
  hidden : ∀ ⦃state action next⦄, Inv state → Allowed state action →
    hear action = none → step state action = some next →
      Inv next ∧ view next = view state
  heard : ∀ ⦃state action heard next⦄, Inv state → Allowed state action →
    hear action = some heard → step state action = some next →
      Inv next ∧ view next = respond (view state) heard

variable {step : Machine State Action} {Allowed : State → Action → Prop}
  {Inv : State → Prop} {hear : Action → Option Heard} {view : State → View}
  {respond : View → Heard → View}

theorem Follows.view_run
    (hfollows : Follows step Allowed Inv hear view respond)
    {state final : State} {actions : List Action} (hinv : Inv state)
    (hallowed : MeetsAlong step Allowed state actions)
    (hrun : run step state actions = some final) :
    view final = (actions.filterMap hear).foldl respond (view state) := by
  induction actions generalizing state with
  | nil =>
      rw [run_nil, Option.some.injEq] at hrun
      rw [← hrun]
      rfl
  | cons action rest ih =>
      obtain ⟨next, hstep, hrest⟩ := run_cons_eq_some_iff.mp hrun
      obtain ⟨hfirst, hlater⟩ := hallowed
      rw [hstep] at hlater
      cases hhear : hear action with
      | none =>
          obtain ⟨hnext, hsame⟩ :=
            hfollows.hidden hinv hfirst hhear hstep
          rw [ih hnext hlater hrest, hsame, List.filterMap_cons_none hhear]
      | some heard =>
          obtain ⟨hnext, hview⟩ :=
            hfollows.heard hinv hfirst hhear hstep
          rw [ih hnext hlater hrest, hview, List.filterMap_cons_some hhear,
            List.foldl_cons]

end HiddenSteps
