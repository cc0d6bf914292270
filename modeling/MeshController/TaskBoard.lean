import MeshController.TaskRegistry

/-!
# A board on which tasks report under their keys

The tasks of a registry report to a board, each under the key of its
specification.  A task which has been aborted may still be on its way to the
point where it stops, and may report on that way.  What is shown under a key
is the report of the task which runs for it, exactly as long as no task on its
way out reports anything else under a key which is in use.
-/

namespace TaskRegistry.Reports

variable {Spec Key Value : Type*}

/-- What a task has to report, what it reported last, and what was shown under
its key when it was started. -/
structure Notes (Value : Type*) where
  due : Option Value
  said : Option Value
  found : Value

structure Board (Spec Key Value : Type*) where
  registry : Registry Spec Key
  leaving : List (Task Spec)
  notes : ℕ → Notes Value
  reports : Key → Option Value

inductive Change (Spec Key : Type*) where
  | abort (k : Key)
  | clear (k : Key)
  | spawn (spec : Spec)

def Board.empty (initial : Value) : Board Spec Key Value where
  registry := Registry.empty
  leaving := []
  notes := fun _ => ⟨none, none, initial⟩
  reports := fun _ => none

/-- What the board tells about a key; `initial` is told of an empty slot. -/
def Board.shown (board : Board Spec Key Value) (initial : Value) (k : Key) :
    Value :=
  (board.reports k).getD initial

/-- What a task stands for: its last report or, before its first one, what it
found on the board. -/
def Board.own (board : Board Spec Key Value) (task : Task Spec) : Value :=
  (board.notes task.id).said.getD (board.notes task.id).found

variable (key : Spec → Key)

/-- Every running task is shown for what it stands for. -/
def Board.Agrees (board : Board Spec Key Value) (initial : Value) : Prop :=
  ∀ task ∈ board.registry.live,
    board.shown initial (key task.spec) = board.own task

/-- Running tasks are tracked, and none of them is on its way out. -/
structure Board.Sound (board : Board Spec Key Value) : Prop where
  sound : TaskRegistry.Sound key board.registry
  tracked : Tracked key board.registry
  known : ∀ task ∈ board.leaving, task.id < board.registry.nextId
  apart : ∀ task ∈ board.leaving, ∀ current ∈ board.registry.live,
    task.id ≠ current.id

variable {key} {board : Board Spec Key Value} {initial : Value}

theorem sound_empty :
    (Board.empty initial : Board Spec Key Value).Sound key := by
  constructor
  · exact TaskRegistry.sound_empty
  · exact tracked_empty
  · simp [Board.empty]
  · simp [Board.empty]

theorem agrees_empty :
    (Board.empty initial : Board Spec Key Value).Agrees key initial := by
  simp [Board.Agrees, Board.empty, Registry.empty]

/-- A key without a handle has no running task. -/
theorem Board.Sound.key_ne_of_no_handle
    (hsound : board.Sound key) {k : Key}
    (hfree : board.registry.handles k = none)
    {task : Task Spec} (hmem : task ∈ board.registry.live) :
    key task.spec ≠ k := by
  intro hkey
  have hhandle := hsound.tracked task hmem
  rw [hkey, hfree] at hhandle
  contradiction

/-- Running tasks of one key are one task. -/
theorem Board.Sound.eq_of_key_eq
    (hsound : board.Sound key) {task other : Task Spec}
    (hmem : task ∈ board.registry.live)
    (hother : other ∈ board.registry.live)
    (hkey : key task.spec = key other.spec) : task = other := by
  have hhandle := hsound.tracked task hmem
  rw [hkey, hsound.tracked other hother, Option.some.injEq] at hhandle
  exact List.inj_on_of_nodup_map hsound.sound.nodup hmem hother hhandle.symm

/-! ## Reports -/

def Board.learn (board : Board Spec Key Value) (id : ℕ) (value : Value) :
    Board Spec Key Value :=
  { board with
    notes := Function.update board.notes id
      { board.notes id with due := some value } }

def Board.leave (board : Board Spec Key Value) (task : Task Spec)
    [DecidableEq Spec] : Board Spec Key Value :=
  { board with leaving := board.leaving.filter (· ≠ task) }

theorem own_learn (id : ℕ) (value : Value) (task : Task Spec) :
    (board.learn id value).own task = board.own task := by
  by_cases hid : task.id = id
  · simp [Board.own, Board.learn, hid]
  · simp [Board.own, Board.learn, Function.update_of_ne hid]

theorem agrees_learn (id : ℕ) (value : Value) :
    (board.learn id value).Agrees key initial ↔
      board.Agrees key initial := by
  simp only [Board.Agrees, own_learn]
  rfl

theorem Board.Sound.afterLearn
    (hsound : board.Sound key) (id : ℕ) (value : Value) :
    (board.learn id value).Sound key :=
  ⟨hsound.sound, hsound.tracked, hsound.known, hsound.apart⟩

theorem Board.Sound.afterLeave [DecidableEq Spec]
    (hsound : board.Sound key) (task : Task Spec) :
    (board.leave task).Sound key := by
  refine ⟨hsound.sound, hsound.tracked, ?_, ?_⟩
  · intro other hmem
    exact hsound.known other (List.mem_of_mem_filter hmem)
  · intro other hmem
    exact hsound.apart other (List.mem_of_mem_filter hmem)

variable [DecidableEq Key] (key)

/-- The task writes what it has to report. -/
def Board.report (board : Board Spec Key Value) (task : Task Spec) :
    Board Spec Key Value :=
  { board with
    notes := Function.update board.notes task.id
      { board.notes task.id with
        due := none
        said := (board.notes task.id).due }
    reports := Function.update board.reports (key task.spec)
      (board.notes task.id).due }

variable {key}

theorem Board.Sound.afterReport
    (hsound : board.Sound key) (task : Task Spec) :
    (board.report key task).Sound key :=
  ⟨hsound.sound, hsound.tracked, hsound.known, hsound.apart⟩

theorem own_report_of_ne
    {task other : Task Spec} (hid : other.id ≠ task.id) :
    (board.report key task).own other = board.own other := by
  simp [Board.own, Board.report, Function.update_of_ne hid]

theorem own_report_self
    {task : Task Spec} {value : Value}
    (hdue : (board.notes task.id).due = some value) :
    (board.report key task).own task = value := by
  simp [Board.own, Board.report, hdue]

theorem shown_report
    {task : Task Spec} {value : Value}
    (hdue : (board.notes task.id).due = some value) (k : Key) :
    (board.report key task).shown initial k =
      if k = key task.spec then value else board.shown initial k := by
  by_cases hkey : k = key task.spec
  · simp [Board.shown, Board.report, hkey, hdue]
  · simp [Board.shown, Board.report, hkey]

theorem Board.Agrees.afterReport
    (hagrees : board.Agrees key initial) (hsound : board.Sound key)
    {task : Task Spec} (hmem : task ∈ board.registry.live) {value : Value}
    (hdue : (board.notes task.id).due = some value) :
    (board.report key task).Agrees key initial := by
  intro other hother
  rw [shown_report hdue]
  by_cases hkey : key other.spec = key task.spec
  · obtain rfl := hsound.eq_of_key_eq hother hmem hkey
    rw [if_pos rfl, own_report_self hdue]
  · have hid : other.id ≠ task.id := by
      intro hclash
      have hsame := List.inj_on_of_nodup_map hsound.sound.nodup hother hmem
        hclash
      exact hkey (by rw [hsame])
    rw [if_neg hkey, own_report_of_ne hid]
    exact hagrees other hother

/-- A report on the way out does no harm exactly if it says what the running
task of its key stands for. -/
theorem agrees_report_iff_of_leaving
    (hagrees : board.Agrees key initial) (hsound : board.Sound key)
    {task : Task Spec} (hleaving : task ∈ board.leaving) {value : Value}
    (hdue : (board.notes task.id).due = some value) :
    (board.report key task).Agrees key initial ↔
      ∀ current ∈ board.registry.live,
        key current.spec = key task.spec → board.own current = value := by
  have hown : ∀ current ∈ board.registry.live,
      (board.report key task).own current = board.own current := by
    intro current hcurrent
    exact own_report_of_ne (hsound.apart task hleaving current hcurrent).symm
  constructor
  · intro hafter current hcurrent hkey
    have hshown := hafter current hcurrent
    rw [shown_report hdue, if_pos hkey, hown current hcurrent] at hshown
    exact hshown.symm
  · intro hharmless current hcurrent
    rw [shown_report hdue, hown current hcurrent]
    by_cases hkey : key current.spec = key task.spec
    · rw [if_pos hkey, hharmless current hcurrent hkey]
    · rw [if_neg hkey]
      exact hagrees current hcurrent

/-! ## Changes of the registry -/

variable (key)

def Board.change (board : Board Spec Key Value) (initial : Value) :
    Change Spec Key → Board Spec Key Value
  | .abort k =>
      { board with
        registry := stop board.registry k
        leaving := board.leaving ++ board.registry.live.filter fun task =>
          board.registry.handles k = some task.id }
  | .clear k =>
      { board with reports := Function.update board.reports k none }
  | .spawn spec =>
      { board with
        registry := start key board.registry spec
        notes := Function.update board.notes board.registry.nextId
          ⟨none, none, board.shown initial (key spec)⟩ }

/-- The part of a change which the registry sees. -/
def Change.onRegistry (registry : Registry Spec Key) :
    Change Spec Key → Registry Spec Key
  | .abort k => stop registry k
  | .clear _ => registry
  | .spawn spec => start key registry spec

/-- Slots are cleared, and tasks started, only under keys not in use. -/
def Change.Permitted (registry : Registry Spec Key) :
    Change Spec Key → Prop
  | .abort _ => True
  | .clear k => registry.handles k = none
  | .spawn spec => registry.handles (key spec) = none

/-- Every change of the list is permitted when its turn comes. -/
def AllPermitted : Registry Spec Key → List (Change Spec Key) → Prop
  | _, [] => True
  | registry, change :: rest =>
      change.Permitted key registry ∧
        AllPermitted (change.onRegistry key registry) rest

variable {key}

theorem registry_change (change : Change Spec Key) :
    (board.change key initial change).registry =
      change.onRegistry key board.registry := by
  cases change <;> rfl

theorem mem_live_of_mem_stop
    {registry : Registry Spec Key} {k : Key} {task : Task Spec}
    (hmem : task ∈ (stop registry k).live) :
    task ∈ registry.live ∧ registry.handles k ≠ some task.id := by
  unfold stop at hmem
  cases hhandle : registry.handles k with
  | none =>
      rw [hhandle] at hmem
      exact ⟨hmem, by simp⟩
  | some id =>
      simp only [hhandle, List.mem_filter, decide_eq_true_eq] at hmem
      refine ⟨hmem.1, ?_⟩
      rw [ne_eq, Option.some.injEq]
      exact Ne.symm hmem.2

theorem nextId_stop (registry : Registry Spec Key) (k : Key) :
    (stop registry k).nextId = registry.nextId := by
  unfold stop
  split <;> rfl

theorem Board.Sound.afterChange
    (hsound : board.Sound key) {change : Change Spec Key}
    (hpermitted : change.Permitted key board.registry) :
    (board.change key initial change).Sound key := by
  cases change with
  | clear k =>
      exact ⟨hsound.sound, hsound.tracked, hsound.known, hsound.apart⟩
  | abort k =>
      refine ⟨hsound.sound.afterStop k, hsound.tracked.afterStop hsound.sound k,
        ?_, ?_⟩
      · intro task hmem
        change task.id < (stop board.registry k).nextId
        rw [nextId_stop]
        rcases List.mem_append.mp hmem with hold | hnew
        · exact hsound.known task hold
        · exact hsound.sound.fresh task (List.mem_of_mem_filter hnew)
      · intro task hmem current hcurrent
        obtain ⟨hlive, hother⟩ := mem_live_of_mem_stop hcurrent
        rcases List.mem_append.mp hmem with hold | hnew
        · exact hsound.apart task hold current hlive
        · intro hid
          rw [List.mem_filter, decide_eq_true_eq] at hnew
          exact hother (hid ▸ hnew.2)
  | spawn spec =>
      refine ⟨hsound.sound.afterStart spec, hsound.tracked.afterStart ?_,
        ?_, ?_⟩
      · intro other hmem
        rcases List.mem_map.mp hmem with ⟨task, htask, rfl⟩
        exact hsound.key_ne_of_no_handle hpermitted htask
      · intro task hmem
        exact Nat.lt_succ_of_lt (hsound.known task hmem)
      · intro task hmem current hcurrent
        have hknown := hsound.known task hmem
        rcases List.mem_append.mp hcurrent with hold | hnew
        · exact hsound.apart task hmem current hold
        · rw [List.mem_singleton.mp hnew]
          exact Nat.ne_of_lt hknown

theorem Board.Agrees.afterChange
    (hagrees : board.Agrees key initial) (hsound : board.Sound key)
    {change : Change Spec Key}
    (hpermitted : change.Permitted key board.registry) :
    (board.change key initial change).Agrees key initial := by
  cases change with
  | abort k =>
      intro task hmem
      exact hagrees task (mem_live_of_mem_stop hmem).1
  | clear k =>
      intro task hmem
      have hkey := hsound.key_ne_of_no_handle hpermitted hmem
      have hshown := hagrees task hmem
      simp only [Board.shown, Board.change, Function.update_of_ne hkey]
      exact hshown
  | spawn spec =>
      intro task hmem
      rcases List.mem_append.mp hmem with hold | hnew
      · have hid : task.id ≠ board.registry.nextId :=
          Nat.ne_of_lt (hsound.sound.fresh task hold)
        have hshown := hagrees task hold
        simp only [Board.own, Board.change, Function.update_of_ne hid]
        exact hshown
      · rw [List.mem_singleton.mp hnew]
        simp [Board.own, Board.change, Board.shown]

/-! ## Lists of changes -/

theorem allPermitted_append
    {registry : Registry Spec Key} {first second : List (Change Spec Key)} :
    AllPermitted key registry (first ++ second) ↔
      AllPermitted key registry first ∧
        AllPermitted key (first.foldl (Change.onRegistry key) registry)
          second := by
  induction first generalizing registry with
  | nil => simp [AllPermitted]
  | cons change rest ih => simp [AllPermitted, ih, and_assoc]

/-- A key is taken out of use. -/
def retire (k : Key) : List (Change Spec Key) :=
  [.abort k, .clear k]

variable (key) in
/-- The task of a key is replaced. -/
def replace (spec : Spec) : List (Change Spec Key) :=
  [.abort (key spec), .spawn spec]

theorem handles_stop_self (registry : Registry Spec Key) (k : Key) :
    (stop registry k).handles k = none := by
  unfold stop
  cases hhandle : registry.handles k with
  | none => exact hhandle
  | some id => simp

theorem allPermitted_retires (registry : Registry Spec Key) (ks : List Key) :
    AllPermitted key registry (ks.flatMap retire) := by
  induction ks generalizing registry with
  | nil => trivial
  | cons k rest ih =>
      rw [List.flatMap_cons, allPermitted_append]
      refine ⟨⟨trivial, ?_, trivial⟩, ih _⟩
      exact handles_stop_self registry k

theorem allPermitted_replaces
    (registry : Registry Spec Key) (specs : List Spec) :
    AllPermitted key registry (specs.flatMap (replace key)) := by
  induction specs generalizing registry with
  | nil => trivial
  | cons spec rest ih =>
      rw [List.flatMap_cons, allPermitted_append]
      refine ⟨⟨trivial, ?_, trivial⟩, ih _⟩
      exact handles_stop_self registry (key spec)

theorem foldl_retires (registry : Registry Spec Key) (ks : List Key) :
    (ks.flatMap retire).foldl (Change.onRegistry key) registry =
      ks.foldl stop registry := by
  induction ks generalizing registry with
  | nil => rfl
  | cons k rest ih =>
      rw [List.flatMap_cons, List.foldl_append, ih]
      rfl

theorem foldl_replaces (registry : Registry Spec Key) (specs : List Spec) :
    (specs.flatMap (replace key)).foldl (Change.onRegistry key) registry =
      specs.foldl (restart key) registry := by
  induction specs generalizing registry with
  | nil => rfl
  | cons spec rest ih =>
      rw [List.flatMap_cons, List.foldl_append, ih]
      rfl

theorem allPermitted_spawns
    {registry : Registry Spec Key} {specs : List Spec}
    (hdistinct : (specs.map key).Nodup)
    (hfree : ∀ spec ∈ specs, registry.handles (key spec) = none) :
    AllPermitted key registry (specs.map Change.spawn) := by
  induction specs generalizing registry with
  | nil => trivial
  | cons spec rest ih =>
      rw [List.map_cons, List.nodup_cons] at hdistinct
      refine ⟨hfree spec List.mem_cons_self, ih hdistinct.2 ?_⟩
      intro other hmem
      have hkey : key other ≠ key spec := by
        intro hsame
        exact hdistinct.1 (hsame ▸ List.mem_map_of_mem hmem)
      simp only [Change.onRegistry, start, Function.update_of_ne hkey]
      exact hfree other (List.mem_cons_of_mem _ hmem)

theorem foldl_spawns (registry : Registry Spec Key) (specs : List Spec) :
    (specs.map Change.spawn).foldl (Change.onRegistry key) registry =
      specs.foldl (start key) registry := by
  rw [List.foldl_map]
  rfl

end TaskRegistry.Reports
