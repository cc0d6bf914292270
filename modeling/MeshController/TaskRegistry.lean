import MeshController.KeyedStore

/-!
# Tasks with a handle for each key

A registry runs tasks and keeps the handle of a task under the key of what the
task was started with.  Two tasks of one key share one entry, so that the
handle of the first is lost; as long as this never happens, the tasks follow a
list of specifications from one version to the next.
-/

namespace TaskRegistry

variable {Spec Key : Type*}

/-- A task which was spawned, and never aborted. -/
structure Task (Spec : Type*) where
  id : ℕ
  spec : Spec
deriving DecidableEq

structure Registry (Spec Key : Type*) where
  nextId : ℕ
  live : List (Task Spec)
  handles : Key → Option ℕ

def Registry.empty : Registry Spec Key where
  nextId := 0
  live := []
  handles := fun _ => none

def Registry.specs (registry : Registry Spec Key) : List Spec :=
  registry.live.map Task.spec

section Invariant

variable (key : Spec → Key)

/-- Every handle belongs to a running task of its key. -/
structure Sound (registry : Registry Spec Key) : Prop where
  nodup : (registry.live.map Task.id).Nodup
  fresh : ∀ task ∈ registry.live, task.id < registry.nextId
  running : ∀ k id, registry.handles k = some id →
    ∃ task ∈ registry.live, task.id = id ∧ key task.spec = k

/-- Every running task is the one whose handle is kept under its key. -/
def Tracked (registry : Registry Spec Key) : Prop :=
  ∀ task ∈ registry.live, registry.handles (key task.spec) = some task.id

/-- One tracked task runs for each specification of the list. -/
structure Follows
    (registry : Registry Spec Key) (specs : List Spec) : Prop where
  perm : registry.specs.Perm specs
  tracked : Tracked key registry

variable {key} {registry : Registry Spec Key}

theorem sound_empty : Sound key (Registry.empty : Registry Spec Key) := by
  refine ⟨List.nodup_nil, ?_, ?_⟩
  · simp [Registry.empty]
  · simp [Registry.empty]

theorem tracked_empty : Tracked key (Registry.empty : Registry Spec Key) := by
  simp [Tracked, Registry.empty]

/-- Tracked tasks have different keys, as they have different handles. -/
theorem nodup_keys_of_tracked
    (hsound : Sound key registry) (htracked : Tracked key registry) :
    (registry.specs.map key).Nodup := by
  have hhandles : (registry.specs.map key).map registry.handles =
      (registry.live.map Task.id).map some := by
    simp only [Registry.specs, List.map_map]
    exact List.map_congr_left htracked
  have hnodup : ((registry.specs.map key).map registry.handles).Nodup := by
    rw [hhandles]
    exact hsound.nodup.map (Option.some_injective _)
  exact hnodup.of_map _

theorem Follows.nodup_keys
    {specs : List Spec} (hsound : Sound key registry)
    (hfollows : Follows key registry specs) : (specs.map key).Nodup :=
  (hfollows.perm.map key).nodup_iff.mp
    (nodup_keys_of_tracked hsound hfollows.tracked)

end Invariant

variable [DecidableEq Key]

/-- Aborts the task whose handle is kept under a key, if there is one. -/
def stop (registry : Registry Spec Key) (k : Key) : Registry Spec Key :=
  match registry.handles k with
  | none => registry
  | some id =>
      { registry with
        live := registry.live.filter fun task => task.id ≠ id
        handles := Function.update registry.handles k none }

variable (key : Spec → Key)

/-- Spawns a task and keeps its handle. -/
def start (registry : Registry Spec Key) (spec : Spec) :
    Registry Spec Key where
  nextId := registry.nextId + 1
  live := registry.live ++ [⟨registry.nextId, spec⟩]
  handles :=
    Function.update registry.handles (key spec) (some registry.nextId)

def restart (registry : Registry Spec Key) (spec : Spec) :
    Registry Spec Key :=
  start key (stop registry (key spec)) spec

variable {key} {registry : Registry Spec Key}

/-! ## Stopping -/

theorem Sound.afterStop (hsound : Sound key registry) (k : Key) :
    Sound key (stop registry k) := by
  unfold stop
  cases hhandle : registry.handles k with
  | none => exact hsound
  | some id =>
      refine ⟨?_, ?_, ?_⟩
      · exact hsound.nodup.sublist (List.filter_sublist.map _)
      · intro task hmem
        exact hsound.fresh task (List.mem_of_mem_filter hmem)
      · intro other otherId hother
        change Function.update registry.handles k none other = _ at hother
        by_cases hsame : other = k
        · simp [hsame] at hother
        · rw [Function.update_of_ne hsame] at hother
          obtain ⟨task, hmem, hid, hkey⟩ := hsound.running other otherId hother
          obtain ⟨stopped, hstopped, hstoppedId, hstoppedKey⟩ :=
            hsound.running k id hhandle
          refine ⟨task, ?_, hid, hkey⟩
          rw [List.mem_filter, decide_eq_true_eq]
          refine ⟨hmem, ?_⟩
          intro hclash
          have hequal : task = stopped := by
            apply List.inj_on_of_nodup_map hsound.nodup hmem hstopped
            rw [hclash, hstoppedId]
          exact hsame (by rw [← hkey, ← hstoppedKey, hequal])

theorem live_stop
    (hsound : Sound key registry) (htracked : Tracked key registry) (k : Key) :
    (stop registry k).live =
      registry.live.filter fun task => key task.spec ≠ k := by
  unfold stop
  cases hhandle : registry.handles k with
  | none =>
      have hall : ∀ task ∈ registry.live, key task.spec ≠ k := by
        intro task hmem hkey
        rw [← hkey, htracked task hmem] at hhandle
        contradiction
      symm
      simpa [List.filter_eq_self] using hall
  | some id =>
      apply List.filter_congr
      intro task hmem
      obtain ⟨stopped, hstopped, hid, hkey⟩ := hsound.running k id hhandle
      have hiff : task.id = id ↔ key task.spec = k := by
        constructor
        · intro hclash
          have hequal : task = stopped := by
            apply List.inj_on_of_nodup_map hsound.nodup hmem hstopped
            rw [hclash, hid]
          rw [hequal, hkey]
        · intro hsame
          have hown := htracked task hmem
          rw [hsame, hhandle] at hown
          exact (Option.some.inj hown).symm
      simp [hiff]

theorem Tracked.afterStop
    (hsound : Sound key registry) (htracked : Tracked key registry) (k : Key) :
    Tracked key (stop registry k) := by
  intro task hmem
  rw [live_stop hsound htracked] at hmem
  simp only [List.mem_filter, decide_eq_true_eq] at hmem
  unfold stop
  cases hhandle : registry.handles k with
  | none => exact htracked task hmem.1
  | some id =>
      simp only [Function.update_of_ne hmem.2]
      exact htracked task hmem.1

theorem mem_specs_stop
    (hsound : Sound key registry) (htracked : Tracked key registry) {k : Key}
    {spec : Spec} :
    spec ∈ (stop registry k).specs ↔
      spec ∈ registry.specs ∧ key spec ≠ k := by
  simp only [Registry.specs, List.mem_map, live_stop hsound htracked,
    List.mem_filter, decide_eq_true_eq]
  constructor
  · rintro ⟨task, ⟨hmem, hkey⟩, rfl⟩
    exact ⟨⟨task, hmem, rfl⟩, hkey⟩
  · rintro ⟨⟨task, hmem, rfl⟩, hkey⟩
    exact ⟨task, ⟨hmem, hkey⟩, rfl⟩

/-! ## Starting -/

theorem Sound.afterStart (hsound : Sound key registry) (spec : Spec) :
    Sound key (start key registry spec) := by
  refine ⟨?_, ?_, ?_⟩
  · simp only [start, List.map_append, List.map_cons, List.map_nil]
    rw [List.nodup_append]
    refine ⟨hsound.nodup, List.nodup_singleton _, ?_⟩
    intro id hid other hother hsame
    rcases List.mem_map.mp hid with ⟨task, hmem, rfl⟩
    have hlt := hsound.fresh task hmem
    rw [List.mem_singleton.mp hother] at hsame
    omega
  · intro task hmem
    simp only [start, List.mem_append, List.mem_singleton] at hmem
    change task.id < registry.nextId + 1
    rcases hmem with hold | hnew
    · have hlt := hsound.fresh task hold
      omega
    · simp [hnew]
  · intro k id hhandle
    simp only [start] at hhandle ⊢
    by_cases hsame : k = key spec
    · subst hsame
      rw [Function.update_self] at hhandle
      exact ⟨⟨registry.nextId, spec⟩, by simp, Option.some.inj hhandle, rfl⟩
    · rw [Function.update_of_ne hsame] at hhandle
      obtain ⟨task, hmem, hid, hkey⟩ := hsound.running k id hhandle
      exact ⟨task, by simp [hmem], hid, hkey⟩

theorem Tracked.afterStart
    (htracked : Tracked key registry) {spec : Spec}
    (hnew : ∀ other ∈ registry.specs, key other ≠ key spec) :
    Tracked key (start key registry spec) := by
  intro task hmem
  simp only [start, List.mem_append, List.mem_singleton] at hmem ⊢
  rcases hmem with hold | hfresh
  · have hother : key task.spec ≠ key spec :=
      hnew task.spec (List.mem_map_of_mem hold)
    rw [Function.update_of_ne hother]
    exact htracked task hold
  · rw [hfresh, Function.update_self]

theorem specs_start (registry : Registry Spec Key) (spec : Spec) :
    (start key registry spec).specs = registry.specs ++ [spec] := by
  simp [Registry.specs, start]

theorem specs_restart
    (hsound : Sound key registry) (htracked : Tracked key registry)
    (spec : Spec) :
    (restart key registry spec).specs =
      (registry.specs.filter fun other => key other ≠ key spec) ++ [spec] := by
  rw [restart, specs_start]
  congr 1
  rw [Registry.specs, live_stop hsound htracked, Registry.specs,
    List.filter_map]
  rfl

theorem Sound.afterRestart (hsound : Sound key registry) (spec : Spec) :
    Sound key (restart key registry spec) :=
  (hsound.afterStop (key spec)).afterStart spec

theorem Tracked.afterRestart
    (hsound : Sound key registry) (htracked : Tracked key registry)
    (spec : Spec) : Tracked key (restart key registry spec) := by
  apply (htracked.afterStop hsound (key spec)).afterStart
  intro other hmem
  exact ((mem_specs_stop hsound htracked).mp hmem).2

/-! ## Several tasks -/

theorem Sound.afterStops (hsound : Sound key registry) (ks : List Key) :
    Sound key (ks.foldl stop registry) := by
  induction ks generalizing registry with
  | nil => exact hsound
  | cons k rest ih => exact ih (hsound.afterStop k)

theorem Tracked.afterStops
    (hsound : Sound key registry) (htracked : Tracked key registry)
    (ks : List Key) : Tracked key (ks.foldl stop registry) := by
  induction ks generalizing registry with
  | nil => exact htracked
  | cons k rest ih =>
      exact ih (hsound.afterStop k) (htracked.afterStop hsound k)

theorem mem_specs_stops
    (hsound : Sound key registry) (htracked : Tracked key registry)
    {ks : List Key} {spec : Spec} :
    spec ∈ (ks.foldl stop registry).specs ↔
      spec ∈ registry.specs ∧ key spec ∉ ks := by
  induction ks generalizing registry with
  | nil => simp
  | cons k rest ih =>
      rw [List.foldl_cons, ih (hsound.afterStop k)
        (htracked.afterStop hsound k), mem_specs_stop hsound htracked,
        List.mem_cons, not_or, and_assoc]

theorem Sound.afterStarts (hsound : Sound key registry) (specs : List Spec) :
    Sound key (specs.foldl (start key) registry) := by
  induction specs generalizing registry with
  | nil => exact hsound
  | cons spec rest ih => exact ih (hsound.afterStart spec)

theorem specs_starts (registry : Registry Spec Key) (specs : List Spec) :
    (specs.foldl (start key) registry).specs = registry.specs ++ specs := by
  induction specs generalizing registry with
  | nil => simp
  | cons spec rest ih => simp [ih, specs_start]

theorem Tracked.afterStarts
    (htracked : Tracked key registry) {specs : List Spec}
    (hdistinct : ((registry.specs ++ specs).map key).Nodup) :
    Tracked key (specs.foldl (start key) registry) := by
  induction specs generalizing registry with
  | nil => exact htracked
  | cons spec rest ih =>
      apply ih
      · apply htracked.afterStart
        intro other hmem hsame
        rw [List.map_append, List.nodup_append] at hdistinct
        exact hdistinct.2.2 (key other) (List.mem_map_of_mem hmem) (key spec)
          (by simp) hsame
      · simpa [specs_start] using hdistinct

theorem Sound.afterRestarts
    (hsound : Sound key registry) (specs : List Spec) :
    Sound key (specs.foldl (restart key) registry) := by
  induction specs generalizing registry with
  | nil => exact hsound
  | cons spec rest ih => exact ih (hsound.afterRestart spec)

theorem Tracked.afterRestarts
    (hsound : Sound key registry) (htracked : Tracked key registry)
    (specs : List Spec) :
    Tracked key (specs.foldl (restart key) registry) := by
  induction specs generalizing registry with
  | nil => exact htracked
  | cons spec rest ih =>
      exact ih (hsound.afterRestart spec) (htracked.afterRestart hsound spec)

theorem mem_specs_restarts
    (hsound : Sound key registry) (htracked : Tracked key registry)
    {specs : List Spec} (hdistinct : (specs.map key).Nodup) {spec : Spec} :
    spec ∈ (specs.foldl (restart key) registry).specs ↔
      spec ∈ specs ∨ spec ∈ registry.specs ∧ key spec ∉ specs.map key := by
  induction specs generalizing registry with
  | nil => simp
  | cons first rest ih =>
      rw [List.map_cons, List.nodup_cons] at hdistinct
      rw [List.foldl_cons, ih (hsound.afterRestart first)
        (htracked.afterRestart hsound first) hdistinct.2,
        specs_restart hsound htracked]
      simp only [List.mem_append, List.mem_filter, List.mem_cons,
        List.not_mem_nil, or_false, decide_eq_true_eq, List.map_cons, not_or]
      constructor
      · rintro (hrest | ⟨⟨hold, hother⟩ | rfl, hnot⟩)
        · exact Or.inl (Or.inr hrest)
        · exact Or.inr ⟨hold, hother, hnot⟩
        · exact Or.inl (Or.inl rfl)
      · rintro ((rfl | hrest) | ⟨hold, hother, hnot⟩)
        · exact Or.inr ⟨Or.inr rfl, hdistinct.1⟩
        · exact Or.inl hrest
        · exact Or.inr ⟨Or.inl ⟨hold, hother⟩, hnot⟩

/-! ## Following a list of specifications -/

theorem follows_starts
    {specs : List Spec} (hdistinct : (specs.map key).Nodup) :
    Follows key (specs.foldl (start key) Registry.empty) specs := by
  refine ⟨?_, tracked_empty.afterStarts ?_⟩
  · rw [specs_starts]
    exact List.Perm.refl _
  · simpa [Registry.specs, Registry.empty] using hdistinct

section Diff

variable (key) (old new : List Spec)

/-- What is new under its key. -/
def added : List Spec :=
  new.filter fun spec => (KeyedStore.get key old (key spec)).isNone

def removed : List Key :=
  (old.filter fun spec => !new.any fun other => key other = key spec).map key

variable {key old new}

theorem mem_removed_iff {k : Key} :
    k ∈ removed key old new ↔
      (∃ spec ∈ old, key spec = k) ∧ ∀ other ∈ new, key other ≠ k := by
  simp only [removed, List.mem_map, List.mem_filter, Bool.not_eq_true',
    List.any_eq_false, decide_eq_true_eq]
  constructor
  · rintro ⟨spec, ⟨hmem, hgone⟩, rfl⟩
    exact ⟨⟨spec, hmem, rfl⟩, hgone⟩
  · rintro ⟨⟨spec, hmem, rfl⟩, hgone⟩
    exact ⟨spec, ⟨hmem, hgone⟩, rfl⟩

variable [DecidableEq Spec] (key) (old new)

/-- What differs from the old specification of its key. -/
def changed : List Spec :=
  new.filter fun spec =>
    (KeyedStore.get key old (key spec)).any fun oldSpec => oldSpec ≠ spec

/-- Stops what is gone, and restarts what is changed or new. -/
def update (registry : Registry Spec Key) : Registry Spec Key :=
  (changed key old new ++ added key old new).foldl (restart key)
    ((removed key old new).foldl stop registry)

variable {key old new}

theorem Sound.afterUpdate (hsound : Sound key registry) :
    Sound key (update key old new registry) :=
  (hsound.afterStops _).afterRestarts _

theorem mem_changed_or_added_iff
    (hold : (old.map key).Nodup) {spec : Spec} :
    spec ∈ changed key old new ++ added key old new ↔
      spec ∈ new ∧ spec ∉ old := by
  simp only [List.mem_append, changed, added, List.mem_filter]
  cases hget : KeyedStore.get key old (key spec) with
  | none =>
      have hnot : spec ∉ old := by
        intro hmem
        rw [KeyedStore.get_of_mem hold hmem] at hget
        contradiction
      simp [hnot]
  | some oldSpec =>
      have hiff : oldSpec = spec ↔ spec ∈ old := by
        constructor
        · rintro rfl
          exact KeyedStore.mem_of_get hget
        · intro hmem
          rw [KeyedStore.get_of_mem hold hmem] at hget
          exact (Option.some.inj hget).symm
      simp [← hiff]

theorem nodup_changed_and_added
    (hnew : (new.map key).Nodup) :
    ((changed key old new ++ added key old new).map key).Nodup := by
  have hchanged : ((changed key old new).map key).Nodup :=
    hnew.sublist (List.filter_sublist.map _)
  have hadded : ((added key old new).map key).Nodup :=
    hnew.sublist (List.filter_sublist.map _)
  rw [List.map_append, List.nodup_append]
  refine ⟨hchanged, hadded, ?_⟩
  intro k hk other hother hsame
  rcases List.mem_map.mp hk with ⟨first, hfirst, rfl⟩
  rcases List.mem_map.mp hother with ⟨second, hsecond, rfl⟩
  simp only [changed, List.mem_filter] at hfirst
  simp only [added, List.mem_filter] at hsecond
  rw [hsame, Option.isNone_iff_eq_none.mp hsecond.2] at hfirst
  exact absurd hfirst.2 (by simp)

/-- A specification which stays as it is has its key in no part of the
diff. -/
theorem key_untouched_of_unchanged
    (hold : (old.map key).Nodup) (hnew : (new.map key).Nodup)
    {spec : Spec} (hmemOld : spec ∈ old) (hmemNew : spec ∈ new) :
    key spec ∉ removed key old new ∧
      key spec ∉ (changed key old new ++ added key old new).map key := by
  constructor
  · intro hgone
    exact (mem_removed_iff.mp hgone).2 spec hmemNew rfl
  · intro htouched
    rcases List.mem_map.mp htouched with ⟨other, hother, hsame⟩
    rw [mem_changed_or_added_iff hold] at hother
    have hequal : other = spec :=
      List.inj_on_of_nodup_map hnew hother.1 hmemNew hsame
    exact hother.2 (hequal ▸ hmemOld)

/-- What is changed or new, and what is left of the old, make up the new. -/
theorem changed_or_kept_iff
    (hold : (old.map key).Nodup) (hnew : (new.map key).Nodup) {spec : Spec} :
    spec ∈ changed key old new ++ added key old new ∨
      (spec ∈ old ∧ key spec ∉ removed key old new) ∧
        key spec ∉ (changed key old new ++ added key old new).map key ↔
    spec ∈ new := by
  rw [mem_changed_or_added_iff hold]
  constructor
  · rintro (⟨hmem, _⟩ | ⟨⟨hmem, hkept⟩, huntouched⟩)
    · exact hmem
    · by_contra hgone
      apply hkept
      refine mem_removed_iff.mpr ⟨⟨spec, hmem, rfl⟩, ?_⟩
      intro other hother hsame
      apply huntouched
      rw [← hsame]
      apply List.mem_map_of_mem
      refine (mem_changed_or_added_iff hold).mpr ⟨hother, ?_⟩
      intro hotherOld
      have hequal := List.inj_on_of_nodup_map hold hotherOld hmem hsame
      exact hgone (hequal ▸ hother)
  · intro hmem
    by_cases hspecOld : spec ∈ old
    · have huntouched := key_untouched_of_unchanged hold hnew hspecOld hmem
      exact Or.inr ⟨⟨hspecOld, huntouched.1⟩, huntouched.2⟩
    · exact Or.inl ⟨hmem, hspecOld⟩

theorem Follows.afterUpdate
    (hsound : Sound key registry) (hfollows : Follows key registry old)
    (hnew : (new.map key).Nodup) :
    Follows key (update key old new registry) new := by
  have hold : (old.map key).Nodup := hfollows.nodup_keys hsound
  have hstops := hsound.afterStops (removed key old new)
  have hstopsTracked :=
    hfollows.tracked.afterStops hsound (removed key old new)
  have htracked : Tracked key (update key old new registry) :=
    hstopsTracked.afterRestarts hstops _
  have hsoundNew : Sound key (update key old new registry) :=
    hsound.afterUpdate
  have hnodup : (update key old new registry).specs.Nodup :=
    (nodup_keys_of_tracked hsoundNew htracked).of_map _
  refine ⟨?_, htracked⟩
  rw [List.perm_ext_iff_of_nodup hnodup (hnew.of_map _)]
  intro spec
  unfold update
  rw [mem_specs_restarts hstops hstopsTracked (nodup_changed_and_added hnew),
    mem_specs_stops hsound hfollows.tracked, hfollows.perm.mem_iff]
  exact changed_or_kept_iff hold hnew

end Diff

end TaskRegistry
