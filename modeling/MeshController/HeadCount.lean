import Mathlib.Tactic

/-!
# Counting the fresh entries at the head of a log

A log keeps its most recent entries first and drops the oldest ones.  How many
of its entries are fresh can be found by asking of each, or by a cheaper test
which is only applied from the head on, up to the first entry which fails it.
The two counts agree as long as the test divides the log where freshness does,
see `Divides`.
-/

namespace HeadCount

variable {Entry : Type*} {looksFresh isFresh : Entry → Bool}
variable {log : List Entry}

/-- The log begins with the entries which are fresh, and the first of the
others fails the test. -/
def Divides (looksFresh isFresh : Entry → Bool) (log : List Entry) : Prop :=
  ∃ fresh old, log = fresh ++ old ∧
    (∀ entry ∈ fresh, looksFresh entry = true ∧ isFresh entry = true) ∧
    (∀ entry ∈ old, isFresh entry = false) ∧
    ∀ entry ∈ old.head?, looksFresh entry = false

theorem takeWhile_eq_nil_iff_head :
    log.takeWhile looksFresh = [] ↔
      ∀ entry ∈ log.head?, looksFresh entry = false := by
  cases log with
  | nil => simp
  | cons entry rest => cases hentry : looksFresh entry <;> simp [hentry]

theorem Divides.length_takeWhile (hdivides : Divides looksFresh isFresh log) :
    (log.takeWhile looksFresh).length = log.countP isFresh := by
  rcases hdivides with ⟨fresh, old, rfl, hfresh, hold, hhead⟩
  have htaken : (fresh ++ old).takeWhile looksFresh = fresh := by
    rw [List.takeWhile_append_of_pos fun entry hentry =>
      (hfresh entry hentry).1, takeWhile_eq_nil_iff_head.mpr hhead,
      List.append_nil]
  have hall : fresh.countP isFresh = fresh.length :=
    List.countP_eq_length.mpr fun entry hentry => (hfresh entry hentry).2
  have hnone : old.countP isFresh = 0 := by
    rw [List.countP_eq_zero]
    intro entry hentry
    rw [hold entry hentry]
    exact Bool.false_ne_true
  rw [htaken, List.countP_append, hall, hnone, add_zero]

theorem Divides.take (hdivides : Divides looksFresh isFresh log) (size : ℕ) :
    Divides looksFresh isFresh (log.take size) := by
  rcases hdivides with ⟨fresh, old, rfl, hfresh, hold, hhead⟩
  refine ⟨fresh.take size, old.take (size - fresh.length),
    List.take_append, ?_, ?_, ?_⟩
  · intro entry hentry
    exact hfresh entry (List.mem_of_mem_take hentry)
  · intro entry hentry
    exact hold entry (List.mem_of_mem_take hentry)
  · intro entry hentry
    rw [List.head?_take] at hentry
    split at hentry
    · contradiction
    · exact hhead entry hentry

/-- Of the entries which are already there, none is fresh. -/
theorem Divides.of_not_fresh
    (hold : ∀ entry ∈ log, isFresh entry = false)
    (hhead : ∀ entry ∈ log.head?, looksFresh entry = false) :
    Divides looksFresh isFresh log :=
  ⟨[], log, rfl, by simp, hold, hhead⟩

/-! ## One entry more -/

theorem Divides.push
    (hdivides : Divides looksFresh isFresh log) {entry : Entry}
    (hagree : looksFresh entry = isFresh entry)
    (hhead : looksFresh entry = true ∨
      ∀ newest ∈ log.head?, looksFresh newest = false) :
    Divides looksFresh isFresh (entry :: log) := by
  cases hentry : looksFresh entry with
  | true =>
      rcases hdivides with ⟨fresh, old, rfl, hfresh, hold, hfirst⟩
      refine ⟨entry :: fresh, old, rfl, ?_, hold, hfirst⟩
      intro other hother
      rcases List.mem_cons.mp hother with rfl | hmem
      · exact ⟨hentry, hagree ▸ hentry⟩
      · exact hfresh other hmem
  | false =>
      have hstale : ∀ newest ∈ log.head?, looksFresh newest = false :=
        hhead.resolve_left (by simp [hentry])
      have hnone : log.countP isFresh = 0 := by
        rw [← hdivides.length_takeWhile,
          takeWhile_eq_nil_iff_head.mpr hstale, List.length_nil]
      apply Divides.of_not_fresh
      · intro other hother
        rcases List.mem_cons.mp hother with rfl | hmem
        · exact hagree ▸ hentry
        · simpa using List.countP_eq_zero.mp hnone other hmem
      · simpa using hentry

/-- The counts still agree after an entry more exactly if the test is right
about it, and does not stop in front of entries it has counted. -/
theorem Divides.length_takeWhile_push_iff
    (hdivides : Divides looksFresh isFresh log) {size : ℕ}
    (hsize : 1 < size) (entry : Entry) :
    (((entry :: log).take size).takeWhile looksFresh).length =
        ((entry :: log).take size).countP isFresh ↔
      looksFresh entry = isFresh entry ∧
        (looksFresh entry = true ∨
          ∀ newest ∈ log.head?, looksFresh newest = false) := by
  have hrest := hdivides.take (size - 1)
  have hhead : (log.take (size - 1)).head? = log.head? := by
    rw [List.head?_take, if_neg (by omega)]
  have hsplit : (entry :: log).take size = entry :: log.take (size - 1) :=
    List.take_cons (by omega)
  constructor
  · intro hcounts
    rw [hsplit, List.countP_cons] at hcounts
    cases hlooks : looksFresh entry with
    | true =>
        cases hfresh : isFresh entry with
        | true => exact ⟨rfl, Or.inl rfl⟩
        | false =>
            have hsame := hrest.length_takeWhile
            rw [List.takeWhile_cons_of_pos hlooks] at hcounts
            simp only [List.length_cons, hfresh, Bool.false_eq_true,
              if_false] at hcounts
            omega
    | false =>
        rw [List.takeWhile_cons_of_neg (by simp [hlooks]),
          List.length_nil] at hcounts
        have hstale : isFresh entry = false := by
          cases hfresh : isFresh entry with
          | false => rfl
          | true =>
              simp only [hfresh, if_true] at hcounts
              omega
        simp only [hstale, Bool.false_eq_true, if_false,
          add_zero] at hcounts
        have hnone :
            ((log.take (size - 1)).takeWhile looksFresh).length = 0 := by
          rw [hrest.length_takeWhile]
          exact hcounts.symm
        refine ⟨hstale.symm, Or.inr ?_⟩
        rw [← hhead]
        exact takeWhile_eq_nil_iff_head.mp
          (List.length_eq_zero_iff.mp hnone)
  · rintro ⟨hagree, hstops⟩
    exact ((hdivides.push hagree hstops).take size).length_takeWhile

/-! ## A log which the test cuts in two -/

theorem takeWhile_eq_filter_of_sorted
    (hsorted : log.Pairwise fun newer older =>
      looksFresh older = true → looksFresh newer = true) :
    log.takeWhile looksFresh = log.filter looksFresh := by
  induction log with
  | nil => rfl
  | cons entry rest ih =>
      rcases List.pairwise_cons.mp hsorted with ⟨hentry, hrest⟩
      cases hlooks : looksFresh entry with
      | true =>
          rw [List.takeWhile_cons_of_pos hlooks,
            List.filter_cons_of_pos hlooks, ih hrest]
      | false =>
          rw [List.takeWhile_cons_of_neg (by simp [hlooks]),
            List.filter_cons_of_neg (by simp [hlooks])]
          symm
          rw [List.filter_eq_nil_iff]
          intro other hother hfresh
          rw [hentry other hother hfresh] at hlooks
          contradiction

theorem divides_of_sorted
    (hsorted : log.Pairwise fun newer older =>
      looksFresh older = true → looksFresh newer = true)
    (hagree : ∀ entry ∈ log, looksFresh entry = isFresh entry) :
    Divides looksFresh isFresh log := by
  induction log with
  | nil => exact Divides.of_not_fresh (by simp) (by simp)
  | cons entry rest ih =>
      rcases List.pairwise_cons.mp hsorted with ⟨hentry, hrest⟩
      rcases List.forall_mem_cons.mp hagree with ⟨hfirst, hothers⟩
      apply (ih hrest hothers).push hfirst
      cases hlooks : looksFresh entry with
      | true => exact Or.inl rfl
      | false =>
          right
          intro newest hnewest
          cases hfresh : looksFresh newest with
          | false => rfl
          | true =>
              rw [hentry newest (List.mem_of_mem_head? hnewest)
                hfresh] at hlooks
              contradiction

theorem eq_of_countP_eq {narrow wide : Entry → Bool}
    (hside : ∀ entry ∈ log, narrow entry = true → wide entry = true)
    (hcounts : log.countP narrow = log.countP wide) :
    ∀ entry ∈ log, narrow entry = wide entry := by
  induction log with
  | nil => simp
  | cons entry rest ih =>
      rcases List.forall_mem_cons.mp hside with ⟨hfirst, hothers⟩
      have hrest := List.countP_mono_left hothers
      rw [List.countP_cons, List.countP_cons] at hcounts
      cases hnarrow : narrow entry with
      | true =>
          have hwide := hfirst hnarrow
          simp only [hnarrow, hwide, if_true] at hcounts
          rw [List.forall_mem_cons]
          exact ⟨hnarrow.trans hwide.symm, ih hothers (by omega)⟩
      | false =>
          cases hwide : wide entry with
          | true =>
              simp only [hnarrow, hwide, Bool.false_eq_true, if_false,
                if_true] at hcounts
              omega
          | false =>
              simp only [hnarrow, hwide, Bool.false_eq_true,
                if_false] at hcounts
              rw [List.forall_mem_cons]
              exact ⟨hnarrow.trans hwide.symm, ih hothers (by omega)⟩

/-- In a log sorted by the test, where the test errs to one side only, the
counts agree exactly if the test is right about every entry. -/
theorem length_takeWhile_iff_of_sorted
    (hsorted : log.Pairwise fun newer older =>
      looksFresh older = true → looksFresh newer = true)
    (hside :
      (∀ entry ∈ log, isFresh entry = true → looksFresh entry = true) ∨
        ∀ entry ∈ log, looksFresh entry = true → isFresh entry = true) :
    (log.takeWhile looksFresh).length = log.countP isFresh ↔
      ∀ entry ∈ log, looksFresh entry = isFresh entry := by
  constructor
  · rw [takeWhile_eq_filter_of_sorted hsorted, ← List.countP_eq_length_filter]
    intro hcounts entry hentry
    rcases hside with hwide | hnarrow
    · exact (eq_of_countP_eq hwide hcounts.symm entry hentry).symm
    · exact eq_of_countP_eq hnarrow hcounts entry hentry
  · intro hagree
    exact (divides_of_sorted hsorted hagree).length_takeWhile

end HeadCount
