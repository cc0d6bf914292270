import Mathlib.Tactic

/-!
# Runs of a labelled machine

A concurrent system is presented as a partial step function: the label names
which party moves and fixes everything that party's environment may choose.
A run is then a list of labels, and quantifying over all lists of labels is
quantifying over all interleavings.

A law which holds only while a side condition is met is stated for the runs
whose every step meets it, see `MeetsAlong`.
-/

namespace LabelledRun

variable {State Action : Type*}

/-- The step function of a machine; `none` means the label is not enabled. -/
abbrev Machine (State Action : Type*) := State → Action → Option State

def run (step : Machine State Action) : State → List Action → Option State
  | state, [] => some state
  | state, action :: rest =>
      match step state action with
      | some next => run step next rest
      | none => none

/-- A guarded label is enabled, and leads where it is said to lead. -/
theorem guarded_eq_some_iff
    {enabled : Prop} [Decidable enabled] {target next : State} :
    (if enabled then some target else none) = some next ↔
      enabled ∧ next = target := by
  rw [Option.ite_none_right_eq_some, Option.some.injEq]
  exact and_congr_right' eq_comm

/-- Every step of the run is taken in a state which allows its label. -/
def MeetsAlong (step : Machine State Action)
    (Allowed : State → Action → Prop) : State → List Action → Prop
  | _, [] => True
  | state, action :: rest =>
      Allowed state action ∧
        match step state action with
        | some next => MeetsAlong step Allowed next rest
        | none => True

variable {step : Machine State Action} {Allowed : State → Action → Prop}

@[simp] theorem run_nil (state : State) : run step state [] = some state := rfl

theorem run_cons_some
    {state next : State} {action : Action} {rest : List Action}
    (hstep : step state action = some next) :
    run step state (action :: rest) = run step next rest := by
  simp [run, hstep]

theorem run_cons_eq_some_iff
    {state final : State} {action : Action} {rest : List Action} :
    run step state (action :: rest) = some final ↔
      ∃ next, step state action = some next ∧
        run step next rest = some final := by
  cases hstep : step state action with
  | none => simp [run, hstep]
  | some next => simp [run, hstep]

theorem run_append
    (state : State) (before after : List Action) :
    run step state (before ++ after) =
      (run step state before).bind fun middle => run step middle after := by
  induction before generalizing state with
  | nil => rfl
  | cons action rest ih =>
      cases hstep : step state action with
      | none => simp [run, hstep]
      | some next => simpa [run, hstep] using ih next

theorem run_append_eq_some_iff
    {state final : State} {before after : List Action} :
    run step state (before ++ after) = some final ↔
      ∃ middle, run step state before = some middle ∧
        run step middle after = some final := by
  rw [run_append, Option.bind_eq_some_iff]

theorem exists_run_of_prefix
    {state final : State} {actions before : List Action}
    (hrun : run step state actions = some final)
    (hbefore : before <+: actions) :
    ∃ middle, run step state before = some middle := by
  rcases hbefore with ⟨after, rfl⟩
  rcases run_append_eq_some_iff.mp hrun with ⟨middle, hmiddle, _⟩
  exact ⟨middle, hmiddle⟩

theorem MeetsAlong.of_forall
    (hall : ∀ state action, Allowed state action)
    (state : State) (actions : List Action) :
    MeetsAlong step Allowed state actions := by
  induction actions generalizing state with
  | nil => trivial
  | cons action rest ih =>
      refine ⟨hall state action, ?_⟩
      cases hstep : step state action with
      | none => trivial
      | some next => exact ih next

theorem MeetsAlong.of_mem
    {Permitted : Action → Prop} {actions : List Action}
    (hall : ∀ action ∈ actions, Permitted action) (state : State) :
    MeetsAlong step (fun _ action => Permitted action) state actions := by
  induction actions generalizing state with
  | nil => trivial
  | cons action rest ih =>
      have hrest : ∀ other ∈ rest, Permitted other := by
        intro other hmem
        exact hall other (List.mem_cons_of_mem _ hmem)
      constructor
      · exact hall action List.mem_cons_self
      · cases hstep : step state action with
        | none => trivial
        | some next => exact ih hrest next

theorem meetsAlong_append
    {state middle : State} {before after : List Action}
    (hbefore : run step state before = some middle) :
    MeetsAlong step Allowed state (before ++ after) ↔
      MeetsAlong step Allowed state before ∧
        MeetsAlong step Allowed middle after := by
  induction before generalizing state with
  | nil =>
      rw [run_nil, Option.some.injEq] at hbefore
      simp [MeetsAlong, hbefore]
  | cons action rest ih =>
      obtain ⟨next, hstep, hrest⟩ := run_cons_eq_some_iff.mp hbefore
      simp only [List.cons_append, MeetsAlong, hstep, ih hrest, and_assoc]

theorem MeetsAlong.and
    {Other : State → Action → Prop} {state : State} {actions : List Action}
    (hfirst : MeetsAlong step Allowed state actions)
    (hsecond : MeetsAlong step Other state actions) :
    MeetsAlong step
      (fun state action => Allowed state action ∧ Other state action)
      state actions := by
  induction actions generalizing state with
  | nil => trivial
  | cons action rest ih =>
      rcases hfirst with ⟨hallowed, hlater⟩
      rcases hsecond with ⟨hother, hrest⟩
      constructor
      · exact ⟨hallowed, hother⟩
      · cases hstep : step state action with
        | none => trivial
        | some next =>
            rw [hstep] at hlater hrest
            exact ih hlater hrest

/-- The invariant rule: what every allowed step preserves holds after every
run whose steps are all allowed. -/
theorem invariant_of_run
    {Inv : State → Prop}
    (hpreserved : ∀ state action next, Inv state → Allowed state action →
      step state action = some next → Inv next)
    {state final : State} {actions : List Action}
    (hinit : Inv state)
    (hmeets : MeetsAlong step Allowed state actions)
    (hrun : run step state actions = some final) :
    Inv final := by
  induction actions generalizing state with
  | nil =>
      simp only [run_nil, Option.some.injEq] at hrun
      exact hrun ▸ hinit
  | cons action rest ih =>
      obtain ⟨next, hstep, hrest⟩ := run_cons_eq_some_iff.mp hrun
      obtain ⟨hallowed, hlater⟩ := hmeets
      rw [hstep] at hlater
      exact ih (hpreserved state action next hinit hallowed hstep)
        hlater hrest

/-- A machine which is never stuck while the invariant holds takes any
actions. -/
theorem exists_run_of_invariant
    {Inv : State → Prop}
    (hstep : ∀ state action, Inv state →
      ∃ next, step state action = some next ∧ Inv next)
    {start : State} (hstart : Inv start) (actions : List Action) :
    ∃ final, run step start actions = some final ∧ Inv final := by
  induction actions generalizing start with
  | nil => exact ⟨start, rfl, hstart⟩
  | cons action rest ih =>
      rcases hstep start action hstart with ⟨next, hnext, hinv⟩
      rw [run_cons_some hnext]
      exact ih hinv

theorem invariant_of_every_step
    {Inv : State → Prop}
    (hpreserved : ∀ state action next, Inv state →
      step state action = some next → Inv next)
    {state final : State} {actions : List Action}
    (hinit : Inv state)
    (hrun : run step state actions = some final) :
    Inv final := by
  have hmeets : MeetsAlong step (fun _ _ => True) state actions :=
    MeetsAlong.of_forall (fun _ _ => trivial) state actions
  apply invariant_of_run ?_ hinit hmeets hrun
  intro state action next hinv _ hstep
  exact hpreserved state action next hinv hstep

/-- Where a side condition is exactly what keeps a property, a run meets the
condition if and only if the property holds all along it.  Of the run itself
only regular steps are asked for. -/
theorem meetsAlong_iff_holds_along_of_regular
    {Inv Holds : State → Prop} {Regular : State → Action → Prop}
    (hexact : ∀ state action next, Inv state → Holds state →
      Regular state action → step state action = some next →
        Inv next ∧ (Holds next ↔ Allowed state action))
    {state final : State} {actions : List Action}
    (hinit : Inv state) (hholds : Holds state)
    (hregular : MeetsAlong step Regular state actions)
    (hrun : run step state actions = some final) :
    MeetsAlong step Allowed state actions ↔
      ∀ before middle, before <+: actions →
        run step state before = some middle → Holds middle := by
  induction actions generalizing state with
  | nil =>
      refine ⟨?_, fun _ => trivial⟩
      intro _ before middle hbefore hmiddle
      rw [List.prefix_nil.mp hbefore, run_nil, Option.some.injEq] at hmiddle
      exact hmiddle ▸ hholds
  | cons action rest ih =>
      obtain ⟨next, hstep, hrest⟩ := run_cons_eq_some_iff.mp hrun
      obtain ⟨hfirst, hothers⟩ := hregular
      rw [hstep] at hothers
      obtain ⟨hinv, hkept⟩ :=
        hexact state action next hinit hholds hfirst hstep
      rw [MeetsAlong, hstep]
      constructor
      · rintro ⟨hallowed, hlater⟩ before middle hbefore hmiddle
        have hnext : Holds next := hkept.mpr hallowed
        cases before with
        | nil =>
            rw [run_nil, Option.some.injEq] at hmiddle
            exact hmiddle ▸ hholds
        | cons first others =>
            obtain ⟨rfl, hrestBefore⟩ := List.cons_prefix_cons.mp hbefore
            rw [run_cons_some hstep] at hmiddle
            exact (ih hinv hnext hothers hrest).mp hlater others middle
              hrestBefore hmiddle
      · intro hall
        have hnext : Holds next := by
          apply hall [action] next
          · exact List.cons_prefix_cons.mpr ⟨rfl, List.nil_prefix⟩
          · rw [run_cons_some hstep, run_nil]
        refine ⟨hkept.mp hnext, (ih hinv hnext hothers hrest).mpr ?_⟩
        intro before middle hbefore hmiddle
        apply hall (action :: before) middle
        · exact List.cons_prefix_cons.mpr ⟨rfl, hbefore⟩
        · rw [run_cons_some hstep]
          exact hmiddle

theorem meetsAlong_iff_holds_along
    {Inv Holds : State → Prop}
    (hexact : ∀ state action next, Inv state → Holds state →
      step state action = some next →
        Inv next ∧ (Holds next ↔ Allowed state action))
    {state final : State} {actions : List Action}
    (hinit : Inv state) (hholds : Holds state)
    (hrun : run step state actions = some final) :
    MeetsAlong step Allowed state actions ↔
      ∀ before middle, before <+: actions →
        run step state before = some middle → Holds middle := by
  have hregular : MeetsAlong step (fun _ _ => True) state actions :=
    MeetsAlong.of_forall (fun _ _ => trivial) state actions
  apply meetsAlong_iff_holds_along_of_regular ?_ hinit hholds hregular hrun
  intro state action next hinv hnow _ hstep
  exact hexact state action next hinv hnow hstep

/-- What is said of the states around a step holds at every step of the
run. -/
def AtEveryStep (step : Machine State Action)
    (Keeps : State → Action → State → Prop)
    (start : State) (actions : List Action) : Prop :=
  ∀ before action middle next, before ++ [action] <+: actions →
    run step start before = some middle →
      step middle action = some next → Keeps middle action next

theorem atEveryStep_nil
    {Keeps : State → Action → State → Prop} {start : State} :
    AtEveryStep step Keeps start [] := by
  intro before action middle next hbefore
  have hempty := List.prefix_nil.mp hbefore
  simp at hempty

theorem atEveryStep_cons
    {Keeps : State → Action → State → Prop} {state next : State}
    {action : Action} {rest : List Action}
    (hstep : step state action = some next) :
    AtEveryStep step Keeps state (action :: rest) ↔
      Keeps state action next ∧ AtEveryStep step Keeps next rest := by
  constructor
  · intro hall
    constructor
    · apply hall [] action state next
      · exact List.cons_prefix_cons.mpr ⟨rfl, List.nil_prefix⟩
      · rfl
      · exact hstep
    · intro before other middle last hbefore hmiddle hlast
      apply hall (action :: before) other middle last
      · exact List.cons_prefix_cons.mpr ⟨rfl, hbefore⟩
      · rw [run_cons_some hstep]
        exact hmiddle
      · exact hlast
  · rintro ⟨hfirst, hlater⟩ before other middle last hbefore hmiddle hlast
    cases before with
    | nil =>
        rw [run_nil, Option.some.injEq] at hmiddle
        rcases List.cons_prefix_cons.mp hbefore with ⟨rfl, _⟩
        subst hmiddle
        rw [hstep, Option.some.injEq] at hlast
        exact hlast ▸ hfirst
    | cons first others =>
        rcases List.cons_prefix_cons.mp hbefore with ⟨rfl, hothers⟩
        rw [run_cons_some hstep] at hmiddle
        exact hlater others other middle last hothers hmiddle hlast

/-- Where a side condition is exactly what a step needs to keep a relation, a
run meets the condition if and only if every step of it keeps the relation. -/
theorem meetsAlong_iff_atEveryStep
    {Inv : State → Prop} {Keeps : State → Action → State → Prop}
    (hexact : ∀ state action next, Inv state →
      step state action = some next →
        (Keeps state action next ↔ Allowed state action))
    (hpreserved : ∀ state action next, Keeps state action next → Inv next)
    {state final : State} {actions : List Action}
    (hinit : Inv state) (hrun : run step state actions = some final) :
    MeetsAlong step Allowed state actions ↔
      AtEveryStep step Keeps state actions := by
  induction actions generalizing state with
  | nil =>
      constructor
      · intro _
        exact atEveryStep_nil
      · intro _
        trivial
  | cons action rest ih =>
      obtain ⟨next, hstep, hrest⟩ := run_cons_eq_some_iff.mp hrun
      rw [atEveryStep_cons hstep, MeetsAlong, hstep,
        hexact state action next hinit hstep]
      apply and_congr_right
      intro hallowed
      have hkept := (hexact state action next hinit hstep).mpr hallowed
      exact ih (hpreserved state action next hkept) hrest

/-! ### Observers -/

section Observers

variable {Log : Type*} {note : Log → State → Action → State → Log}

/-- The machine with an observer beside it, who sees every step. -/
def observed (step : Machine State Action)
    (note : Log → State → Action → State → Log) :
    Machine (State × Log) Action :=
  fun watched action =>
    (step watched.1 action).map fun next =>
      (next, note watched.2 watched.1 action next)

theorem observed_eq_some_iff
    {watched after : State × Log} {action : Action} :
    observed step note watched action = some after ↔
      ∃ next, step watched.1 action = some next ∧
        (next, note watched.2 watched.1 action next) = after := by
  simp [observed]

/-- Observing a machine restricts none of its runs. -/
theorem exists_run_observed
    {state final : State} {actions : List Action}
    (hrun : run step state actions = some final) (log : Log) :
    ∃ noted, run (observed step note) (state, log) actions =
      some (final, noted) := by
  induction actions generalizing state log with
  | nil =>
      rw [run_nil, Option.some.injEq] at hrun
      exact ⟨log, by rw [run_nil, hrun]⟩
  | cons action rest ih =>
      obtain ⟨next, hstep, hrest⟩ := run_cons_eq_some_iff.mp hrun
      obtain ⟨noted, hnoted⟩ := ih hrest (note log state action next)
      refine ⟨noted, ?_⟩
      rw [run_cons_some (observed_eq_some_iff.mpr ⟨next, hstep, rfl⟩)]
      exact hnoted

end Observers

instance decidableMeetsAlong [∀ state action, Decidable (Allowed state action)]
    (state : State) (actions : List Action) :
    Decidable (MeetsAlong step Allowed state actions) :=
  match actions with
  | [] => isTrue trivial
  | action :: rest =>
      have : Decidable
          (match step state action with
          | some next => MeetsAlong step Allowed next rest
          | none => True) :=
        match step state action with
        | some next => decidableMeetsAlong next rest
        | none => isTrue trivial
      inferInstanceAs (Decidable (_ ∧ _))

end LabelledRun
