import MeshController.TaskRegistry

/-!
# Patches between keyed lists

What is removed, changed and added from one list of specifications to the next
is a patch of the map which the lists stand for: the removed keys are dropped,
and the changed and added specifications are put under their keys.  If each
list has every key at most once, the patch leads from the one map to the other,
and it touches a key only where the two maps differ.
-/

namespace KeyedPatch

open TaskRegistry

variable {Spec Key : Type*} [DecidableEq Key]

def drop (store : Key → Option Spec) (k : Key) : Key → Option Spec :=
  Function.update store k none

variable (key : Spec → Key)

def put (store : Key → Option Spec) (spec : Spec) : Key → Option Spec :=
  Function.update store (key spec) (some spec)

/-- Drops the keys, and then puts the specifications. -/
def patch
    (dropped : List Key) (putBack : List Spec) (store : Key → Option Spec) :
    Key → Option Spec :=
  putBack.foldl (put key) (dropped.foldl drop store)

variable {key}

theorem drops_apply
    (dropped : List Key) (store : Key → Option Spec) (k : Key) :
    dropped.foldl drop store k = if k ∈ dropped then none else store k := by
  induction dropped generalizing store with
  | nil => simp
  | cons first rest ih =>
      rw [List.foldl_cons, ih]
      by_cases hfirst : k = first
      · simp [drop, hfirst]
      · simp [drop, hfirst]

theorem puts_apply
    {specs : List Spec} (hdistinct : (specs.map key).Nodup)
    (store : Key → Option Spec) (k : Key) :
    specs.foldl (put key) store k =
      (KeyedStore.get key specs k).or (store k) := by
  induction specs generalizing store with
  | nil => simp [KeyedStore.get]
  | cons first rest ih =>
      rw [List.map_cons, List.nodup_cons] at hdistinct
      rw [List.foldl_cons, ih hdistinct.2, KeyedStore.get_cons]
      by_cases hfirst : key first = k
      · have hrest : KeyedStore.get key rest k = none := by
          rw [KeyedStore.get_eq_none_iff]
          intro spec hmem hsame
          apply hdistinct.1
          rw [hfirst, ← hsame]
          exact List.mem_map_of_mem hmem
        simp [hrest, hfirst, put]
      · have hother : k ≠ key first := fun hsame => hfirst hsame.symm
        simp [hfirst, put, Function.update_of_ne hother]

theorem patch_apply
    {putBack : List Spec} (hdistinct : (putBack.map key).Nodup)
    (dropped : List Key) (store : Key → Option Spec) (k : Key) :
    patch key dropped putBack store k =
      (KeyedStore.get key putBack k).or
        (if k ∈ dropped then none else store k) := by
  rw [patch, puts_apply hdistinct, drops_apply]

section Diff

variable [DecidableEq Spec] {old new : List Spec}

/-- The patch of a diff leads from the old map to the new one. -/
theorem patch_diff
    (hold : (old.map key).Nodup) (hnew : (new.map key).Nodup) :
    patch key (removed key old new) (changed key old new ++ added key old new)
        (KeyedStore.get key old) =
      KeyedStore.get key new := by
  funext k
  rw [patch_apply (nodup_changed_and_added hnew)]
  cases hget : KeyedStore.get key new k with
  | none =>
      have habsent := KeyedStore.get_eq_none_iff.mp hget
      have hput : KeyedStore.get key
          (changed key old new ++ added key old new) k = none := by
        rw [KeyedStore.get_eq_none_iff]
        intro spec hmem
        exact habsent spec ((mem_changed_or_added_iff hold).mp hmem).1
      rw [hput, Option.none_or]
      by_cases hgone : k ∈ removed key old new
      · rw [if_pos hgone]
      · rw [if_neg hgone, KeyedStore.get_eq_none_iff]
        intro spec hmem hsame
        exact hgone (mem_removed_iff.mpr ⟨⟨spec, hmem, hsame⟩, habsent⟩)
  | some spec =>
      have hmem : spec ∈ new := KeyedStore.mem_of_get hget
      have hkey : key spec = k := KeyedStore.key_of_get hget
      by_cases hkept : spec ∈ old
      · have hput : KeyedStore.get key
            (changed key old new ++ added key old new) k = none := by
          rw [KeyedStore.get_eq_none_iff]
          intro other hother hsame
          rw [mem_changed_or_added_iff hold] at hother
          have hequal : other = spec :=
            List.inj_on_of_nodup_map hnew hother.1 hmem (hsame.trans hkey.symm)
          exact hother.2 (hequal ▸ hkept)
        have hstays : k ∉ removed key old new := by
          intro hgone
          exact (mem_removed_iff.mp hgone).2 spec hmem hkey
        rw [hput, Option.none_or, if_neg hstays, ← hkey]
        exact KeyedStore.get_of_mem hold hkept
      · have htouched : spec ∈ changed key old new ++ added key old new :=
          (mem_changed_or_added_iff hold).mpr ⟨hmem, hkept⟩
        rw [← hkey,
          KeyedStore.get_of_mem (nodup_changed_and_added hnew) htouched,
          Option.some_or]

theorem removed_disjoint_put (hold : (old.map key).Nodup) :
    (removed key old new).Disjoint
      ((changed key old new ++ added key old new).map key) := by
  intro k hgone hput
  rcases List.mem_map.mp hput with ⟨spec, hspec, hsame⟩
  have hmem := ((mem_changed_or_added_iff hold).mp hspec).1
  exact (mem_removed_iff.mp hgone).2 spec hmem hsame

theorem diff_self (hold : (old.map key).Nodup) :
    removed key old old = [] ∧ changed key old old = [] ∧
      added key old old = [] := by
  have hput : changed key old old ++ added key old old = [] := by
    apply List.eq_nil_iff_forall_not_mem.mpr
    intro spec hmem
    rw [mem_changed_or_added_iff hold] at hmem
    exact hmem.2 hmem.1
  have hgone : removed key old old = [] := by
    apply List.eq_nil_iff_forall_not_mem.mpr
    intro k hmem
    rcases mem_removed_iff.mp hmem with ⟨⟨spec, hspec, hsame⟩, habsent⟩
    exact habsent spec hspec hsame
  exact ⟨hgone, List.append_eq_nil_iff.mp hput⟩

end Diff

end KeyedPatch
