import Mathlib.Tactic

/-!
# Stores with one value for each key

A table with a primary key is a list of rows, and an upsert touches the row of
its own key only.  Whatever such a store is made of, what it holds for a key
after a sequence of items is decided by the items of that key.
-/

namespace KeyedStore

variable {Row Key : Type*} [DecidableEq Key]

section Table

variable (key : Row → Key)

/-- The row of a key. -/
def get (rows : List Row) (k : Key) : Option Row :=
  rows.find? fun row => key row = k

/-- Inserts `fresh`, or updates the row which has its key already. -/
def upsert (fresh : Row) (update : Row → Row) : List Row → List Row
  | [] => [fresh]
  | row :: rest =>
      if key row = key fresh then update row :: rest
      else row :: upsert fresh update rest

variable {key}

theorem get_cons (row : Row) (rest : List Row) (k : Key) :
    get key (row :: rest) k = if key row = k then some row
      else get key rest k := by
  by_cases hkey : key row = k <;> simp [get, hkey]

theorem key_of_get {rows : List Row} {k : Key} {row : Row}
    (hget : get key rows k = some row) : key row = k := by
  simpa using List.find?_some hget

theorem mem_of_get {rows : List Row} {k : Key} {row : Row}
    (hget : get key rows k = some row) : row ∈ rows :=
  List.mem_of_find?_eq_some hget

theorem get_eq_none_iff {rows : List Row} {k : Key} :
    get key rows k = none ↔ ∀ row ∈ rows, key row ≠ k := by
  simp [get]

theorem get_of_mem
    {rows : List Row} (hnodup : (rows.map key).Nodup)
    {row : Row} (hmem : row ∈ rows) : get key rows (key row) = some row := by
  induction rows with
  | nil => simp at hmem
  | cons first rest ih =>
      rw [List.map_cons, List.nodup_cons] at hnodup
      rw [get_cons]
      rcases List.mem_cons.mp hmem with hfirst | hrest
      · simp [hfirst]
      · have hdistinct : key first ≠ key row := by
          intro hsame
          apply hnodup.1
          rw [hsame]
          exact List.mem_map_of_mem hrest
        rw [if_neg hdistinct]
        exact ih hnodup.2 hrest

theorem filter_key_of_mem
    {rows : List Row} (hnodup : (rows.map key).Nodup)
    {row : Row} (hmem : row ∈ rows) :
    rows.filter (fun other => key other = key row) = [row] := by
  induction rows with
  | nil => simp at hmem
  | cons first rest ih =>
      rw [List.map_cons, List.nodup_cons] at hnodup
      rcases List.mem_cons.mp hmem with rfl | hrest
      · rw [List.filter_cons_of_pos (by simp), List.cons.injEq,
          List.filter_eq_nil_iff]
        constructor
        · rfl
        · intro other hother
          rw [decide_eq_true_eq]
          intro hsame
          apply hnodup.1
          rw [← hsame]
          exact List.mem_map_of_mem hother
      · have hdistinct : key first ≠ key row := by
          intro hsame
          apply hnodup.1
          rw [hsame]
          exact List.mem_map_of_mem hrest
        rw [List.filter_cons_of_neg (by simpa using hdistinct)]
        exact ih hnodup.2 hrest

theorem get_upsert_self
    {fresh : Row} {update : Row → Row}
    (hkeeps : ∀ row, key row = key fresh → key (update row) = key fresh)
    (rows : List Row) :
    get key (upsert key fresh update rows) (key fresh) =
      some ((get key rows (key fresh)).elim fresh update) := by
  induction rows with
  | nil => simp [upsert, get]
  | cons row rest ih =>
      by_cases hkey : key row = key fresh
      · simp [upsert, get_cons, hkey, hkeeps row hkey]
      · simp [upsert, get_cons, hkey, ih]

theorem get_upsert_of_ne
    {fresh : Row} {update : Row → Row}
    (hkeeps : ∀ row, key row = key fresh → key (update row) = key fresh)
    {k : Key} (hother : k ≠ key fresh) (rows : List Row) :
    get key (upsert key fresh update rows) k = get key rows k := by
  induction rows with
  | nil => simp [upsert, get, hother.symm]
  | cons row rest ih =>
      by_cases hkey : key row = key fresh
      · simp [upsert, get_cons, hkey, hkeeps row hkey, hother.symm]
      · simp [upsert, get_cons, hkey, ih]

theorem mem_upsert
    {fresh : Row} {update : Row → Row} {rows : List Row} {row : Row}
    (hmem : row ∈ upsert key fresh update rows) :
    row ∈ rows ∨ row = fresh ∨
      ∃ old ∈ rows, key old = key fresh ∧ row = update old := by
  induction rows with
  | nil => exact Or.inr (Or.inl (by simpa [upsert] using hmem))
  | cons first rest ih =>
      by_cases hkey : key first = key fresh
      · simp only [upsert, hkey, if_true, List.mem_cons] at hmem
        rcases hmem with hupdated | hrest
        · exact Or.inr (Or.inr ⟨first, by simp, hkey, hupdated⟩)
        · exact Or.inl (List.mem_cons_of_mem _ hrest)
      · simp only [upsert, hkey, if_false, List.mem_cons] at hmem
        rcases hmem with hfirst | hrest
        · exact Or.inl (by simp [hfirst])
        · rcases ih hrest with hold | hfresh | ⟨old, hold, hupdated⟩
          · exact Or.inl (List.mem_cons_of_mem _ hold)
          · exact Or.inr (Or.inl hfresh)
          · right
            right
            exact ⟨old, List.mem_cons_of_mem _ hold, hupdated⟩

theorem keys_upsert
    {fresh : Row} {update : Row → Row}
    (hkeeps : ∀ row, key row = key fresh → key (update row) = key fresh)
    (rows : List Row) :
    (upsert key fresh update rows).map key =
      if key fresh ∈ rows.map key then rows.map key
      else rows.map key ++ [key fresh] := by
  induction rows with
  | nil => simp [upsert]
  | cons row rest ih =>
      by_cases hkey : key row = key fresh
      · simp [upsert, hkey, hkeeps row hkey]
      · have hother : ¬ key fresh = key row := fun hsame => hkey hsame.symm
        simp only [upsert, hkey, if_false, List.map_cons, ih, List.mem_cons,
          hother, false_or]
        split <;> rfl

theorem nodup_upsert
    {fresh : Row} {update : Row → Row}
    (hkeeps : ∀ row, key row = key fresh → key (update row) = key fresh)
    {rows : List Row} (hnodup : (rows.map key).Nodup) :
    ((upsert key fresh update rows).map key).Nodup := by
  rw [keys_upsert hkeeps]
  split
  · exact hnodup
  next habsent =>
    rw [List.nodup_append]
    refine ⟨hnodup, List.nodup_singleton _, ?_⟩
    intro other hmem fromFresh hsingle hsame
    rw [List.mem_singleton.mp hsingle] at hsame
    exact habsent (hsame ▸ hmem)

end Table

/-! ## Sequences of items -/

section Items

variable {State Item Value : Type*}

/-- A store in which an item is absorbed by the value of its own key is
decided, key by key, by the items of that key. -/
theorem read_foldl
    (read : State → Key → Value) (step : State → Item → State)
    (absorb : Value → Item → Value) (key : Item → Key)
    (hself : ∀ state item,
      read (step state item) (key item) = absorb (read state (key item)) item)
    (hother : ∀ state item k, k ≠ key item →
      read (step state item) k = read state k)
    (state : State) (items : List Item) (k : Key) :
    read (items.foldl step state) k =
      (items.filter fun item => key item = k).foldl absorb (read state k) := by
  induction items generalizing state with
  | nil => rfl
  | cons item rest ih =>
      rw [List.foldl_cons, ih]
      by_cases hkey : key item = k
      · subst hkey
        rw [List.filter_cons_of_pos (by simp), List.foldl_cons, hself]
      · have hdistinct : k ≠ key item := fun hsame => hkey hsame.symm
        rw [List.filter_cons_of_neg (by simpa using hkey),
          hother state item k hdistinct]

/-- The value of the last item which carries one. -/
def lastCarried (carries : Item → Option Value) (items : List Item) :
    Option Value :=
  (items.filterMap carries).getLast?

theorem lastCarried_concat
    (carries : Item → Option Value) (items : List Item) (item : Item) :
    lastCarried carries (items ++ [item]) =
      (carries item).or (lastCarried carries items) := by
  unfold lastCarried
  cases hitem : carries item <;> simp [hitem]

end Items

end KeyedStore
