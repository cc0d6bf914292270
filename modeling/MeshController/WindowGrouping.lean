import Mathlib.Data.List.Chain
import Mathlib.Tactic

/-!
# Grouping repeated receptions

A list is read from its last entry, the oldest, to its first.  An entry joins
the group of the last entry with its key while the two are stamped at most a
window apart, and starts a group of its own otherwise.  The open group of a
key is remembered by its index, and the groups are listed in the opposite
order of their creation.

The results are about positions, that is about entries which a linear order
sorts as the list does.  Groups are the maximal chains of consecutive
receptions of one key, `group_map` carries them over to entries which repeat.
-/

namespace WindowGrouping

variable {α β K : Type*}

/-- At least one entry, newest first. -/
structure Cluster (α : Type*) where
  members : List α
  nonempty : members ≠ []

namespace Cluster

def latest (group : Cluster α) : α := group.members.head group.nonempty

def oldest (group : Cluster α) : α := group.members.getLast group.nonempty

def single (entry : α) : Cluster α where
  members := [entry]
  nonempty := by simp

def insert (entry : α) (group : Cluster α) : Cluster α where
  members := entry :: group.members
  nonempty := by simp

def map (f : α → β) (group : Cluster α) : Cluster β where
  members := group.members.map f
  nonempty := by simp [group.nonempty]

@[simp] theorem members_single (entry : α) :
    (single entry).members = [entry] := rfl

@[simp] theorem members_insert (entry : α) (group : Cluster α) :
    (group.insert entry).members = entry :: group.members := rfl

@[simp] theorem members_map (f : α → β) (group : Cluster α) :
    (group.map f).members = group.members.map f := rfl

@[simp] theorem oldest_single (entry : α) : (single entry).oldest = entry := rfl

@[simp] theorem latest_insert (entry : α) (group : Cluster α) :
    (group.insert entry).latest = entry := rfl

@[simp] theorem oldest_insert (entry : α) (group : Cluster α) :
    (group.insert entry).oldest = group.oldest := by
  simp [oldest, insert, List.getLast_cons group.nonempty]

theorem latest_mem (group : Cluster α) : group.latest ∈ group.members :=
  List.head_mem _

theorem oldest_mem (group : Cluster α) : group.oldest ∈ group.members :=
  List.getLast_mem _

theorem map_single (f : α → β) (entry : α) :
    (single entry).map f = single (f entry) := rfl

theorem map_insert (f : α → β) (entry : α) (group : Cluster α) :
    (group.insert entry).map f = (group.map f).insert (f entry) := rfl

end Cluster

/-- Where the open group of a key is, and when it was last heard. -/
structure OpenGroup where
  index : ℕ
  lastAt : ℤ

structure Progress (α K : Type*) where
  groups : List (Cluster α)
  openGroups : K → Option OpenGroup

def Progress.start : Progress α K where
  groups := []
  openGroups := fun _ => none

/-- What entries are grouped by. -/
structure Criterion (α K : Type*) where
  key : α → Option K
  stamp : α → ℤ
  window : ℤ

namespace Criterion

def comap (criterion : Criterion α K) (f : β → α) : Criterion β K where
  key := fun entry => criterion.key (f entry)
  stamp := fun entry => criterion.stamp (f entry)
  window := criterion.window

/-- The open group which takes the entry. -/
def reused (criterion : Criterion α K) (progress : Progress α K)
    (entry : α) : Option OpenGroup :=
  ((criterion.key entry).bind progress.openGroups).filter fun openGroup =>
    criterion.stamp entry - openGroup.lastAt ≤ criterion.window

theorem reused_eq_some_iff
    (criterion : Criterion α K) (progress : Progress α K) (entry : α)
    (openGroup : OpenGroup) :
    criterion.reused progress entry = some openGroup ↔
      ∃ key, criterion.key entry = some key ∧
        progress.openGroups key = some openGroup ∧
        criterion.stamp entry - openGroup.lastAt ≤ criterion.window := by
  simp only [reused, Option.filter_eq_some_iff, Option.bind_eq_some_iff,
    decide_eq_true_eq]
  tauto

section Loop

variable [DecidableEq K]

/-- The group of the key is the one at `index` from now on. -/
def remember (criterion : Criterion α K) (entry : α) (index : ℕ)
    (openGroups : K → Option OpenGroup) : K → Option OpenGroup :=
  match criterion.key entry with
  | none => openGroups
  | some key =>
      Function.update openGroups key
        (some { index := index, lastAt := criterion.stamp entry })

def add (criterion : Criterion α K) (progress : Progress α K) (entry : α) :
    Progress α K :=
  match criterion.reused progress entry with
  | some openGroup =>
      { groups := progress.groups.modify openGroup.index (Cluster.insert entry)
        openGroups :=
          criterion.remember entry openGroup.index progress.openGroups }
  | none =>
      { groups := progress.groups ++ [.single entry]
        openGroups :=
          criterion.remember entry progress.groups.length progress.openGroups }

def progress (criterion : Criterion α K) (entries : List α) : Progress α K :=
  entries.reverse.foldl criterion.add .start

def group (criterion : Criterion α K) (entries : List α) : List (Cluster α) :=
  (criterion.progress entries).groups.reverse

/-- The newest entry is added last. -/
@[simp] theorem progress_cons
    (criterion : Criterion α K) (entry : α) (rest : List α) :
    criterion.progress (entry :: rest) =
      criterion.add (criterion.progress rest) entry := by
  simp [progress, List.foldl_append]

theorem add_of_reused
    {criterion : Criterion α K} {progress : Progress α K} {entry : α}
    {openGroup : OpenGroup}
    (hreused : criterion.reused progress entry = some openGroup) :
    criterion.add progress entry =
      { groups := progress.groups.modify openGroup.index (Cluster.insert entry)
        openGroups :=
          criterion.remember entry openGroup.index progress.openGroups } := by
  rw [add, hreused]

theorem add_of_not_reused
    {criterion : Criterion α K} {progress : Progress α K} {entry : α}
    (hreused : criterion.reused progress entry = none) :
    criterion.add progress entry =
      { groups := progress.groups ++ [.single entry]
        openGroups := criterion.remember entry progress.groups.length
          progress.openGroups } := by
  rw [add, hreused]

theorem remember_of_ne
    (criterion : Criterion α K) {entry : α} (index : ℕ)
    (openGroups : K → Option OpenGroup) {key : K}
    (hne : criterion.key entry ≠ some key) :
    criterion.remember entry index openGroups key = openGroups key := by
  cases hkey : criterion.key entry with
  | none => simp [remember, hkey]
  | some other =>
      have hother : key ≠ other := by
        rintro rfl
        exact hne hkey
      simp [remember, hkey, Function.update_of_ne hother]

theorem remember_of_eq
    (criterion : Criterion α K) {entry : α} (index : ℕ)
    (openGroups : K → Option OpenGroup) {key : K}
    (hkey : criterion.key entry = some key) :
    criterion.remember entry index openGroups key =
      some { index := index, lastAt := criterion.stamp entry } := by
  simp [remember, hkey]

/-! ### Entries and their positions -/

omit [DecidableEq K] in
theorem map_modify_insert
    (f : β → α) (groups : List (Cluster β)) (index : ℕ) (entry : β) :
    (groups.modify index (Cluster.insert entry)).map (Cluster.map f) =
      (groups.map (Cluster.map f)).modify index (Cluster.insert (f entry)) := by
  apply List.ext_getElem?
  intro i
  simp only [List.getElem?_map, List.getElem?_modify]
  cases groups[i]? with
  | none => rfl
  | some group =>
      by_cases hindex : index = i <;> simp [hindex, Cluster.map_insert]

theorem progress_map
    (criterion : Criterion α K) (f : β → α) (entries : List β) :
    criterion.progress (entries.map f) =
      { groups :=
          ((criterion.comap f).progress entries).groups.map (Cluster.map f)
        openGroups := ((criterion.comap f).progress entries).openGroups } := by
  induction entries with
  | nil => rfl
  | cons entry rest ih =>
      rw [List.map_cons, progress_cons, progress_cons, ih]
      have hsame : criterion.reused
          { groups :=
              ((criterion.comap f).progress rest).groups.map (Cluster.map f)
            openGroups := ((criterion.comap f).progress rest).openGroups }
          (f entry) =
            (criterion.comap f).reused ((criterion.comap f).progress rest)
              entry := rfl
      cases hreused : (criterion.comap f).reused
          ((criterion.comap f).progress rest) entry with
      | none =>
          rw [add_of_not_reused (hsame.trans hreused),
            add_of_not_reused hreused]
          simp only [List.map_append, List.map_singleton, Cluster.map_single,
            List.length_map]
          rfl
      | some openGroup =>
          rw [add_of_reused (hsame.trans hreused), add_of_reused hreused,
            map_modify_insert]
          rfl

/-- Grouping looks at entries only through their key and stamp. -/
theorem group_map
    (criterion : Criterion α K) (f : β → α) (entries : List β) :
    criterion.group (entries.map f) =
      ((criterion.comap f).group entries).map (Cluster.map f) := by
  simp [group, progress_map, List.map_reverse]

end Loop

/-! ### Consecutive receptions -/

section Positions

variable [LinearOrder α]

/-- Two receptions of one key, and none of that key between them. -/
structure Consecutive (criterion : Criterion α K) (entries : List α)
    (newer older : α) : Prop where
  newer_mem : newer ∈ entries
  older_mem : older ∈ entries
  newer_lt : newer < older
  keyed : (criterion.key newer).isSome
  same_key : criterion.key newer = criterion.key older
  between : ∀ other ∈ entries, newer < other → other < older →
    criterion.key other ≠ criterion.key newer

/-- The later of two consecutive receptions falls into the window. -/
structure Linked (criterion : Criterion α K) (entries : List α)
    (newer older : α) : Prop
    extends Consecutive criterion entries newer older where
  gap : criterion.stamp newer - criterion.stamp older ≤ criterion.window

variable {criterion : Criterion α K} {entries rest : List α}

theorem Consecutive.older_unique
    {newer older other : α}
    (holder : criterion.Consecutive entries newer older)
    (hother : criterion.Consecutive entries newer other) : older = other := by
  rcases lt_trichotomy older other with hless | hsame | hmore
  · exact absurd holder.same_key.symm
      (hother.between older holder.older_mem holder.newer_lt hless)
  · exact hsame
  · exact absurd hother.same_key.symm
      (holder.between other hother.older_mem hother.newer_lt hmore)

theorem Consecutive.cons
    {entry newer older : α} (hfirst : ∀ other ∈ rest, entry < other)
    (hnext : criterion.Consecutive rest newer older) :
    criterion.Consecutive (entry :: rest) newer older where
  newer_mem := List.mem_cons_of_mem _ hnext.newer_mem
  older_mem := List.mem_cons_of_mem _ hnext.older_mem
  newer_lt := hnext.newer_lt
  keyed := hnext.keyed
  same_key := hnext.same_key
  between := by
    intro other hmem hnewer holder
    rcases List.mem_cons.mp hmem with rfl | hin
    · exact absurd hnewer (hfirst newer hnext.newer_mem).asymm
    · exact hnext.between other hin hnewer holder

theorem Linked.cons
    {entry newer older : α} (hfirst : ∀ other ∈ rest, entry < other)
    (hlinked : criterion.Linked rest newer older) :
    criterion.Linked (entry :: rest) newer older :=
  ⟨hlinked.toConsecutive.cons hfirst, hlinked.gap⟩

theorem Consecutive.of_cons
    {entry newer older : α} (hfirst : ∀ other ∈ rest, entry < other)
    (hnext : criterion.Consecutive (entry :: rest) newer older)
    (hne : newer ≠ entry) : criterion.Consecutive rest newer older where
  newer_mem := List.mem_of_ne_of_mem hne hnext.newer_mem
  older_mem := by
    have hnewer := hfirst newer (List.mem_of_ne_of_mem hne hnext.newer_mem)
    exact List.mem_of_ne_of_mem (hnewer.trans hnext.newer_lt).ne'
      hnext.older_mem
  newer_lt := hnext.newer_lt
  keyed := hnext.keyed
  same_key := hnext.same_key
  between := fun other hmem =>
    hnext.between other (List.mem_cons_of_mem _ hmem)

/-- Above an older reception of its key, a reception has a next one. -/
theorem exists_consecutive
    {newer older : α} (hnewer : newer ∈ entries) (holder : older ∈ entries)
    (hlt : newer < older) (hkeyed : (criterion.key newer).isSome)
    (hkey : criterion.key newer = criterion.key older) :
    ∃ next, criterion.Consecutive entries newer next ∧ next ≤ older := by
  classical
  let later := entries.toFinset.filter fun other =>
    newer < other ∧ criterion.key newer = criterion.key other
  have hlater : older ∈ later := by simp [later, holder, hlt, hkey]
  have hnext := later.min'_mem ⟨older, hlater⟩
  simp only [later, Finset.mem_filter, List.mem_toFinset] at hnext
  refine ⟨_, ⟨hnewer, hnext.1, hnext.2.1, hkeyed, hnext.2.2, ?_⟩,
    later.min'_le older hlater⟩
  intro other hmem habove hbelow hsame
  have hother : other ∈ later := by simp [later, hmem, habove, hsame]
  exact absurd (later.min'_le other hother) (not_le.mpr hbelow)

/-! ### What the loop has grouped so far -/

/-- Every entry read so far is in one group, groups are chains of linked
receptions and cut no link, and they were created with their oldest member.
The open group of a key starts with its newest reception. -/
structure Sound (criterion : Criterion α K) (entries : List α)
    (progress : Progress α K) : Prop where
  placed : (progress.groups.flatMap Cluster.members).Perm entries
  chained : ∀ group ∈ progress.groups,
    group.members.IsChain (criterion.Linked entries)
  joined : ∀ newer older, criterion.Linked entries newer older →
    ∃ group ∈ progress.groups, newer ∈ group.members ∧ older ∈ group.members
  created : (progress.groups.map Cluster.oldest).Pairwise (· > ·)
  unopened : ∀ key, progress.openGroups key = none →
    ∀ entry ∈ entries, criterion.key entry ≠ some key
  opened : ∀ key openGroup, progress.openGroups key = some openGroup →
    ∃ group, progress.groups[openGroup.index]? = some group ∧
      criterion.key group.latest = some key ∧
      criterion.stamp group.latest = openGroup.lastAt ∧
      ∀ entry ∈ entries, criterion.key entry = some key →
        group.latest ≤ entry

namespace Sound

variable {progress : Progress α K}

theorem start (criterion : Criterion α K) : criterion.Sound [] .start := by
  constructor
  · exact List.Perm.nil
  · simp [Progress.start]
  · rintro newer older hlinked
    simpa using hlinked.newer_mem
  · simp [Progress.start]
  · simp
  · simp [Progress.start]

theorem mem_of_mem_members
    (hsound : criterion.Sound entries progress) {group : Cluster α}
    (hgroup : group ∈ progress.groups) {entry : α}
    (hentry : entry ∈ group.members) : entry ∈ entries :=
  hsound.placed.subset (List.mem_flatMap.mpr ⟨group, hgroup, hentry⟩)

/-- The open group of a key is headed by the reception just before the new
one. -/
theorem consecutive_latest
    (hsound : criterion.Sound rest progress) {entry : α}
    (hfirst : ∀ other ∈ rest, entry < other) {key : K}
    (hkey : criterion.key entry = some key) {openGroup : OpenGroup}
    (hopen : progress.openGroups key = some openGroup) :
    ∃ group, progress.groups[openGroup.index]? = some group ∧
      criterion.stamp group.latest = openGroup.lastAt ∧
      criterion.Consecutive (entry :: rest) entry group.latest := by
  obtain ⟨group, hgroup, hlatest, hstamp, hnewest⟩ :=
    hsound.opened key openGroup hopen
  have hmem : group.latest ∈ rest :=
    hsound.mem_of_mem_members (List.mem_of_getElem? hgroup) group.latest_mem
  refine ⟨group, hgroup, hstamp, ?_⟩
  constructor
  · exact List.mem_cons_self
  · exact List.mem_cons_of_mem _ hmem
  · exact hfirst _ hmem
  · simp [hkey]
  · rw [hkey, hlatest]
  · intro other hother habove hbelow hsame
    have hin : other ∈ rest := List.mem_of_ne_of_mem habove.ne' hother
    exact absurd (hnewest other hin (hsame.trans hkey)) (not_le.mpr hbelow)

theorem chained_cons
    (hsound : criterion.Sound rest progress) {entry : α}
    (hfirst : ∀ other ∈ rest, entry < other) {group : Cluster α}
    (hgroup : group ∈ progress.groups) :
    group.members.IsChain (criterion.Linked (entry :: rest)) :=
  (hsound.chained group hgroup).imp fun _ _ hlinked => hlinked.cons hfirst

/-- An entry which no open group takes is linked to no older reception. -/
theorem not_linked_of_not_reused
    (hsound : criterion.Sound rest progress) {entry : α}
    (hfirst : ∀ other ∈ rest, entry < other)
    (hreused : criterion.reused progress entry = none) (older : α) :
    ¬criterion.Linked (entry :: rest) entry older := by
  intro hlinked
  obtain ⟨key, hkey⟩ := Option.isSome_iff_exists.mp hlinked.keyed
  have holder : older ∈ rest :=
    List.mem_of_ne_of_mem hlinked.newer_lt.ne' hlinked.older_mem
  cases hopen : progress.openGroups key with
  | none =>
      exact hsound.unopened key hopen older holder
        (hlinked.same_key.symm.trans hkey)
  | some openGroup =>
      obtain ⟨group, _, hstamp, hnext⟩ :=
        hsound.consecutive_latest hfirst hkey hopen
      have hgap := hlinked.gap
      rw [← hnext.older_unique hlinked.toConsecutive, hstamp] at hgap
      have htaken := (reused_eq_some_iff criterion progress entry
        openGroup).mpr ⟨key, hkey, hopen, hgap⟩
      rw [hreused] at htaken
      cases htaken

section Add

variable [DecidableEq K] {entry : α}

theorem unopened_add
    (hsound : criterion.Sound rest progress) (index : ℕ) {key : K}
    (hnone : criterion.remember entry index progress.openGroups key = none) :
    ∀ other ∈ entry :: rest, criterion.key other ≠ some key := by
  have hne : criterion.key entry ≠ some key := by
    intro hkey
    rw [remember_of_eq criterion index _ hkey] at hnone
    cases hnone
  rw [remember_of_ne criterion index _ hne] at hnone
  exact List.forall_mem_cons.mpr ⟨hne, hsound.unopened key hnone⟩

/-- Which group is open for a key once `entry` is the newest member of the
group at `index`. -/
theorem opened_add
    (hsound : criterion.Sound rest progress)
    (hfirst : ∀ other ∈ rest, entry < other) {index : ℕ}
    {groups : List (Cluster α)} (joined : Cluster α)
    (hjoined : groups[index]? = some joined) (hlatest : joined.latest = entry)
    (hkept : ∀ key openGroup, criterion.key entry ≠ some key →
      progress.openGroups key = some openGroup →
        groups[openGroup.index]? = progress.groups[openGroup.index]?)
    {key : K} {openGroup : OpenGroup}
    (hopen : criterion.remember entry index progress.openGroups key =
      some openGroup) :
    ∃ group, groups[openGroup.index]? = some group ∧
      criterion.key group.latest = some key ∧
      criterion.stamp group.latest = openGroup.lastAt ∧
      ∀ other ∈ entry :: rest, criterion.key other = some key →
        group.latest ≤ other := by
  by_cases hkey : criterion.key entry = some key
  · rw [remember_of_eq criterion index _ hkey, Option.some.injEq] at hopen
    subst openGroup
    refine ⟨joined, hjoined, by rw [hlatest, hkey], by rw [hlatest], ?_⟩
    rw [hlatest, List.forall_mem_cons]
    exact ⟨fun _ => le_rfl, fun other hmem _ => (hfirst other hmem).le⟩
  · rw [remember_of_ne criterion index _ hkey] at hopen
    obtain ⟨group, hgroup, hsame, hstamp, hnewest⟩ :=
      hsound.opened key openGroup hopen
    refine ⟨group, ?_, hsame, hstamp, ?_⟩
    · rw [hkept key openGroup hkey hopen, hgroup]
    · rw [List.forall_mem_cons]
      exact ⟨fun heq => absurd heq hkey, hnewest⟩

theorem add_of_not_reused
    (hsound : criterion.Sound rest progress)
    (hfirst : ∀ other ∈ rest, entry < other)
    (hreused : criterion.reused progress entry = none) :
    criterion.Sound (entry :: rest) (criterion.add progress entry) := by
  rw [Criterion.add_of_not_reused hreused]
  constructor
  · simp only [List.flatMap_append, List.flatMap_singleton,
      Cluster.members_single]
    exact (List.perm_append_singleton _ _).trans (hsound.placed.cons entry)
  · intro group hgroup
    rcases List.mem_append.mp hgroup with hold | hnew
    · exact hsound.chained_cons hfirst hold
    · rw [List.mem_singleton.mp hnew]
      exact List.isChain_singleton _
  · intro newer older hlinked
    by_cases hnewer : newer = entry
    · subst hnewer
      exact absurd hlinked
        (hsound.not_linked_of_not_reused hfirst hreused older)
    · obtain ⟨group, hgroup, hmembers⟩ := hsound.joined newer older
        ⟨hlinked.toConsecutive.of_cons hfirst hnewer, hlinked.gap⟩
      exact ⟨group, List.mem_append_left _ hgroup, hmembers⟩
  · rw [List.map_append, List.map_singleton, List.pairwise_append]
    refine ⟨hsound.created, List.pairwise_singleton _ _, ?_⟩
    intro oldest hmem other hother
    obtain ⟨group, hgroup, rfl⟩ := List.mem_map.mp hmem
    rw [List.mem_singleton.mp hother]
    exact hfirst _ (hsound.mem_of_mem_members hgroup group.oldest_mem)
  · exact fun key => hsound.unopened_add _
  · intro key openGroup hopen
    refine hsound.opened_add hfirst (.single entry)
      List.getElem?_concat_length rfl ?_ hopen
    intro other otherGroup _ hother
    obtain ⟨group, hgroup, _⟩ := hsound.opened other otherGroup hother
    obtain ⟨hlt, _⟩ := List.getElem?_eq_some_iff.mp hgroup
    exact List.getElem?_append_left hlt

/-- The group which takes an entry grows at its newest end. -/
theorem add_of_reused
    (hsound : criterion.Sound rest progress)
    (hfirst : ∀ other ∈ rest, entry < other) {openGroup : OpenGroup}
    (hreused : criterion.reused progress entry = some openGroup) :
    criterion.Sound (entry :: rest) (criterion.add progress entry) := by
  obtain ⟨key, hkey, hopen, hgap⟩ :=
    (reused_eq_some_iff criterion progress entry openGroup).mp hreused
  obtain ⟨group, hgroup, hstamp, hnext⟩ :=
    hsound.consecutive_latest hfirst hkey hopen
  have hlink : criterion.Linked (entry :: rest) entry group.latest :=
    ⟨hnext, hstamp.symm ▸ hgap⟩
  have hin : group ∈ progress.groups := List.mem_of_getElem? hgroup
  obtain ⟨hlt, hget⟩ := List.getElem?_eq_some_iff.mp hgroup
  obtain ⟨before, found, after, hsplit, hlength, hmodified⟩ :=
    List.exists_of_modify (Cluster.insert entry) hlt
  have hfound : found = group := by
    rw [← hget]
    simp [hsplit, ← hlength]
  subst hfound
  rw [Criterion.add_of_reused hreused]
  constructor
  · have hplaced := hsound.placed
    simp only [hsplit, List.flatMap_append, List.flatMap_cons] at hplaced
    simp only [hmodified, List.flatMap_append, List.flatMap_cons,
      Cluster.members_insert, List.cons_append]
    exact List.perm_middle.trans (hplaced.cons entry)
  · intro other hother
    rw [hmodified, List.mem_append, List.mem_cons] at hother
    rcases hother with hbefore | rfl | hafter
    · exact hsound.chained_cons hfirst (by simp [hsplit, hbefore])
    · rw [Cluster.members_insert, List.isChain_cons]
      refine ⟨?_, hsound.chained_cons hfirst hin⟩
      intro next hhead
      have hlatest : next = found.latest :=
        (List.head_of_mem_head? hhead).symm
      rw [hlatest]
      exact hlink
    · exact hsound.chained_cons hfirst (by simp [hsplit, hafter])
  · intro newer older hlinked
    by_cases hnewer : newer = entry
    · subst hnewer
      refine ⟨found.insert newer, by simp [hmodified], by simp, ?_⟩
      rw [hlinked.older_unique hnext]
      exact List.mem_cons_of_mem _ found.latest_mem
    · obtain ⟨other, hother, hmembers⟩ := hsound.joined newer older
        ⟨hlinked.toConsecutive.of_cons hfirst hnewer, hlinked.gap⟩
      rw [hsplit, List.mem_append, List.mem_cons] at hother
      rcases hother with hbefore | rfl | hafter
      · exact ⟨other, by simp [hmodified, hbefore], hmembers⟩
      · exact ⟨other.insert entry, by simp [hmodified],
          List.mem_cons_of_mem _ hmembers.1, List.mem_cons_of_mem _ hmembers.2⟩
      · exact ⟨other, by simp [hmodified, hafter], hmembers⟩
  · have hcreated := hsound.created
    rw [hsplit] at hcreated
    rw [hmodified]
    simpa using hcreated
  · exact fun key => hsound.unopened_add _
  · intro other otherGroup hother
    refine hsound.opened_add hfirst (found.insert entry) ?_ rfl ?_ hother
    · rw [List.getElem?_modify_eq, hgroup]
      rfl
    · intro other otherGroup hne hotherOpen
      apply List.getElem?_modify_ne
      intro hindex
      obtain ⟨head, hhead, hheadKey, _⟩ :=
        hsound.opened other otherGroup hotherOpen
      rw [← hindex, hgroup, Option.some.injEq] at hhead
      rw [hnext.same_key, hhead] at hne
      exact hne hheadKey

end Add

/-- The invariant of the loop, for positions in the order of the list. -/
theorem of_sorted
    [DecidableEq K] (criterion : Criterion α K) {entries : List α}
    (hsorted : entries.Pairwise (· < ·)) :
    criterion.Sound entries (criterion.progress entries) := by
  induction entries with
  | nil => exact Sound.start criterion
  | cons entry rest ih =>
      obtain ⟨hfirst, hrest⟩ := List.pairwise_cons.mp hsorted
      rw [progress_cons]
      cases hreused : criterion.reused (criterion.progress rest) entry with
      | none => exact (ih hrest).add_of_not_reused hfirst hreused
      | some openGroup => exact (ih hrest).add_of_reused hfirst hreused

end Sound

/-! ### The groups of a list -/

/-- The groups are the maximal chains of linked receptions, listed by their
oldest members. -/
structure Grouped (criterion : Criterion α K) (entries : List α)
    (groups : List (Cluster α)) : Prop where
  placed : (groups.flatMap Cluster.members).Perm entries
  chained : ∀ group ∈ groups, group.members.IsChain (criterion.Linked entries)
  joined : ∀ newer older, criterion.Linked entries newer older →
    ∃ group ∈ groups, newer ∈ group.members ∧ older ∈ group.members
  created : (groups.map Cluster.oldest).Pairwise (· < ·)

theorem grouped_group
    [DecidableEq K] (criterion : Criterion α K) {entries : List α}
    (hsorted : entries.Pairwise (· < ·)) :
    criterion.Grouped entries (criterion.group entries) := by
  have hsound := Sound.of_sorted criterion hsorted
  constructor
  · exact ((List.reverse_perm _).flatMap_right _).trans hsound.placed
  · intro group hgroup
    exact hsound.chained group (List.mem_reverse.mp hgroup)
  · intro newer older hlinked
    obtain ⟨group, hgroup, hmembers⟩ := hsound.joined newer older hlinked
    exact ⟨group, List.mem_reverse.mpr hgroup, hmembers⟩
  · rw [group, List.map_reverse, List.pairwise_reverse]
    exact hsound.created

/-- The gaps between the receptions of the key of `newer`, from `newer` down
to `older`. -/
def GapsWithin (criterion : Criterion α K) (entries : List α)
    (newer older : α) : Prop :=
  ∀ above below, criterion.Consecutive entries above below →
    criterion.key above = criterion.key newer →
      newer ≤ above → below ≤ older →
        criterion.stamp above - criterion.stamp below ≤ criterion.window

/-- One entry, or two receptions of a key without a larger gap between. -/
def Connected (criterion : Criterion α K) (entries : List α)
    (first second : α) : Prop :=
  first = second ∨
    (criterion.key first).isSome ∧ criterion.key first = criterion.key second ∧
      criterion.GapsWithin entries (min first second) (max first second)

theorem Connected.symm
    {first second : α} (hconnected : criterion.Connected entries first second) :
    criterion.Connected entries second first := by
  rcases hconnected with hsame | ⟨hkeyed, hkey, hgaps⟩
  · exact Or.inl hsame.symm
  · right
    rw [min_comm, max_comm]
    exact ⟨hkey ▸ hkeyed, hkey.symm, hgaps⟩

theorem rel_or_rel
    {R : β → β → Prop} {list : List β} (hpairs : list.Pairwise R)
    {first second : β} (hfirst : first ∈ list) (hsecond : second ∈ list)
    (hne : first ≠ second) : R first second ∨ R second first := by
  have hsymm : Std.Symm fun first second => R first second ∨ R second first :=
    ⟨fun _ _ => Or.symm⟩
  have heither : list.Pairwise fun first second =>
      R first second ∨ R second first := hpairs.imp Or.inl
  exact heither.forall hfirst hsecond hne

section Members

variable {members : List α}

theorem pairwise_lt_of_chained
    (hchained : members.IsChain (criterion.Linked entries)) :
    members.Pairwise (· < ·) :=
  (hchained.imp fun _ _ hlinked => hlinked.newer_lt).pairwise

/-- What adjacent members are related by holds of consecutive receptions. -/
theorem rel_of_consecutive
    (hchained : members.IsChain (criterion.Linked entries))
    {R : α → α → Prop} (hrelated : members.IsChain R) {newer older : α}
    (hnewer : newer ∈ members) (holder : older ∈ members)
    (hnext : criterion.Consecutive entries newer older) : R newer older := by
  induction members with
  | nil => simp at hnewer
  | cons head rest ih =>
      have hbelow := (List.pairwise_cons.mp
        (pairwise_lt_of_chained hchained)).1
      rcases List.mem_cons.mp hnewer with rfl | hlater
      · have hin : older ∈ rest :=
          List.mem_of_ne_of_mem hnext.newer_lt.ne' holder
        cases rest with
        | nil => simp at hin
        | cons second others =>
            have hsecond := (List.isChain_cons_cons.mp hchained).1
            rw [hnext.older_unique hsecond.toConsecutive]
            exact (List.isChain_cons_cons.mp hrelated).1
      · have hin : older ∈ rest := by
          apply List.mem_of_ne_of_mem _ holder
          exact ((hbelow newer hlater).trans hnext.newer_lt).ne'
        exact ih hchained.tail hrelated.tail hlater hin

theorem gapsWithin_of_chained
    (hchained : members.IsChain (criterion.Linked entries))
    {newer older : α} (hnewer : newer ∈ members) (holder : older ∈ members) :
    criterion.GapsWithin entries newer older := by
  induction members generalizing newer with
  | nil => simp at hnewer
  | cons head rest ih =>
      intro above below hnext hkey habove hbelow
      have hlower := (List.pairwise_cons.mp
        (pairwise_lt_of_chained hchained)).1
      have hin : older ∈ rest := by
        apply List.mem_of_ne_of_mem _ holder
        rintro rfl
        have hless := habove.trans_lt (hnext.newer_lt.trans_le hbelow)
        rcases List.mem_cons.mp hnewer with rfl | hlater
        · exact lt_irrefl _ hless
        · exact lt_asymm hless (hlower newer hlater)
      rcases List.mem_cons.mp hnewer with rfl | hlater
      · cases rest with
        | nil => simp at hin
        | cons second others =>
            have hsecond := (List.isChain_cons_cons.mp hchained).1
            rcases habove.eq_or_lt with rfl | hbetween
            · rw [hnext.older_unique hsecond.toConsecutive]
              exact hsecond.gap
            · -- no reception of the key lies between the first two members
              have hreached : second ≤ above := by
                by_contra hless
                exact hsecond.between above hnext.newer_mem hbetween
                  (not_le.mp hless) hkey
              exact ih hchained.tail List.mem_cons_self hin above below hnext
                (hkey.trans hsecond.same_key) hreached hbelow
      · exact ih hchained.tail hlater hin above below hnext hkey habove hbelow

theorem keyed_of_chained
    (hchained : members.IsChain (criterion.Linked entries))
    {newer older : α} (hnewer : newer ∈ members) (holder : older ∈ members)
    (hlt : newer < older) :
    (criterion.key newer).isSome ∧
      criterion.key newer = criterion.key older := by
  induction members generalizing newer with
  | nil => simp at hnewer
  | cons head rest ih =>
      have hlower := (List.pairwise_cons.mp
        (pairwise_lt_of_chained hchained)).1
      have hin : older ∈ rest := by
        apply List.mem_of_ne_of_mem _ holder
        rintro rfl
        rcases List.mem_cons.mp hnewer with rfl | hlater
        · exact lt_irrefl _ hlt
        · exact lt_asymm hlt (hlower newer hlater)
      rcases List.mem_cons.mp hnewer with rfl | hlater
      · cases rest with
        | nil => simp at hin
        | cons second others =>
            have hsecond := (List.isChain_cons_cons.mp hchained).1
            refine ⟨hsecond.keyed, ?_⟩
            rcases List.mem_cons.mp hin with rfl | hlater
            · exact hsecond.same_key
            · have hbelow := (List.pairwise_cons.mp
                (pairwise_lt_of_chained hchained.tail)).1 older hlater
              exact hsecond.same_key.trans
                (ih hchained.tail List.mem_cons_self hin hbelow).2
      · exact ih hchained.tail hlater hin hlt

end Members

namespace Grouped

variable {groups : List (Cluster α)}

theorem exists_group
    (hgrouped : criterion.Grouped entries groups) {entry : α}
    (hentry : entry ∈ entries) : ∃ group ∈ groups, entry ∈ group.members :=
  List.mem_flatMap.mp (hgrouped.placed.symm.subset hentry)

theorem mem_entries
    (hgrouped : criterion.Grouped entries groups) {group : Cluster α}
    (hgroup : group ∈ groups) {entry : α} (hentry : entry ∈ group.members) :
    entry ∈ entries :=
  hgrouped.placed.subset (List.mem_flatMap.mpr ⟨group, hgroup, hentry⟩)

theorem members_sorted
    (hgrouped : criterion.Grouped entries groups) {group : Cluster α}
    (hgroup : group ∈ groups) : group.members.Pairwise (· < ·) :=
  pairwise_lt_of_chained (hgrouped.chained group hgroup)

theorem latest_le
    (hgrouped : criterion.Grouped entries groups) {group : Cluster α}
    (hgroup : group ∈ groups) {entry : α} (hentry : entry ∈ group.members) :
    group.latest ≤ entry := by
  have hsorted := hgrouped.members_sorted hgroup
  rw [← List.cons_head_tail group.nonempty] at hsorted hentry
  rcases List.mem_cons.mp hentry with rfl | htail
  · exact le_rfl
  · exact ((List.pairwise_cons.mp hsorted).1 entry htail).le

theorem le_oldest
    (hgrouped : criterion.Grouped entries groups) {group : Cluster α}
    (hgroup : group ∈ groups) {entry : α} (hentry : entry ∈ group.members) :
    entry ≤ group.oldest := by
  have hsorted := hgrouped.members_sorted hgroup
  rw [← List.dropLast_append_getLast group.nonempty] at hsorted hentry
  rcases List.mem_append.mp hentry with hfront | hlast
  · exact ((List.pairwise_append.mp hsorted).2.2 entry hfront _
      (List.mem_singleton_self _)).le
  · exact (List.mem_singleton.mp hlast).le

theorem group_unique
    (hgrouped : criterion.Grouped entries groups) (hnodup : entries.Nodup)
    {first second : Cluster α} (hfirst : first ∈ groups)
    (hsecond : second ∈ groups) {entry : α}
    (hinfirst : entry ∈ first.members) (hinsecond : entry ∈ second.members) :
    first = second := by
  have hplaced := hgrouped.placed.symm.nodup hnodup
  obtain ⟨_, hdisjoint⟩ := List.nodup_flatMap.mp hplaced
  have hsymm : Std.Symm
      (Function.onFun List.Disjoint fun group : Cluster α => group.members) :=
    ⟨fun _ _ happart => happart.symm⟩
  by_contra hne
  have happart := hdisjoint.forall hfirst hsecond hne
  exact happart hinfirst hinsecond

/-- Receptions of a key stay together while no gap is too large. -/
theorem exists_group_of_gapsWithin
    (hgrouped : criterion.Grouped entries groups) (hnodup : entries.Nodup)
    {newer older : α} (hnewer : newer ∈ entries) (holder : older ∈ entries)
    (hlt : newer < older) (hkeyed : (criterion.key newer).isSome)
    (hkey : criterion.key newer = criterion.key older)
    (hgaps : criterion.GapsWithin entries newer older) :
    ∃ group ∈ groups, newer ∈ group.members ∧ older ∈ group.members := by
  have hfounded : Set.WellFoundedOn {entry | entry ∈ entries} (· > ·) :=
    (List.finite_toSet entries).wellFoundedOn
  revert hlt hkeyed hkey hgaps
  apply hfounded.induction hnewer
  intro current hcurrent ih hlt hkeyed hkey hgaps
  obtain ⟨next, hnext, hreached⟩ :=
    exists_consecutive hcurrent holder hlt hkeyed hkey
  have hlinked : criterion.Linked entries current next :=
    ⟨hnext, hgaps current next hnext rfl le_rfl hreached⟩
  obtain ⟨group, hgroup, hinCurrent, hinNext⟩ :=
    hgrouped.joined current next hlinked
  rcases hreached.eq_or_lt with rfl | hbelow
  · exact ⟨group, hgroup, hinCurrent, hinNext⟩
  · have hsame := hnext.same_key
    have hrest : criterion.GapsWithin entries next older := by
      intro above below hpair habove hle hlower
      exact hgaps above below hpair (habove.trans hsame.symm)
        (hnext.newer_lt.le.trans hle) hlower
    obtain ⟨other, hother, hnextOther, hinOlder⟩ := ih next hnext.older_mem
      hnext.newer_lt hbelow (hsame ▸ hkeyed) (hsame.symm.trans hkey) hrest
    have heq := hgrouped.group_unique hnodup hgroup hother hinNext hnextOther
    exact ⟨other, hother, heq ▸ hinCurrent, hinOlder⟩

theorem connected_of_members
    (hgrouped : criterion.Grouped entries groups) {group : Cluster α}
    (hgroup : group ∈ groups) {first second : α}
    (hfirst : first ∈ group.members) (hsecond : second ∈ group.members) :
    criterion.Connected entries first second := by
  have hordered : ∀ newer older, newer ∈ group.members →
      older ∈ group.members → newer ≤ older →
        criterion.Connected entries newer older := by
    intro newer older hnewer holder hle
    rcases hle.eq_or_lt with hsame | hlt
    · exact Or.inl hsame
    · have hchained := hgrouped.chained group hgroup
      obtain ⟨hkeyed, hkey⟩ := keyed_of_chained hchained hnewer holder hlt
      right
      rw [min_eq_left hle, max_eq_right hle]
      exact ⟨hkeyed, hkey, gapsWithin_of_chained hchained hnewer holder⟩
  rcases le_total first second with hle | hle
  · exact hordered first second hfirst hsecond hle
  · exact (hordered second first hsecond hfirst hle).symm

theorem exists_group_iff
    (hgrouped : criterion.Grouped entries groups) (hnodup : entries.Nodup)
    {first second : α} (hfirst : first ∈ entries) (hsecond : second ∈ entries) :
    (∃ group ∈ groups, first ∈ group.members ∧ second ∈ group.members) ↔
      criterion.Connected entries first second := by
  constructor
  · rintro ⟨group, hgroup, hinFirst, hinSecond⟩
    exact hgrouped.connected_of_members hgroup hinFirst hinSecond
  · rintro (rfl | ⟨hkeyed, hkey, hgaps⟩)
    · obtain ⟨group, hgroup, hin⟩ := hgrouped.exists_group hfirst
      exact ⟨group, hgroup, hin, hin⟩
    · rcases lt_trichotomy first second with hlt | rfl | hlt
      · rw [min_eq_left hlt.le, max_eq_right hlt.le] at hgaps
        exact hgrouped.exists_group_of_gapsWithin hnodup hfirst hsecond hlt
          hkeyed hkey hgaps
      · obtain ⟨group, hgroup, hin⟩ := hgrouped.exists_group hfirst
        exact ⟨group, hgroup, hin, hin⟩
      · rw [min_eq_right hlt.le, max_eq_left hlt.le] at hgaps
        obtain ⟨group, hgroup, hinSecond, hinFirst⟩ :=
          hgrouped.exists_group_of_gapsWithin hnodup hsecond hfirst hlt
            (hkey ▸ hkeyed) hkey.symm hgaps
        exact ⟨group, hgroup, hinFirst, hinSecond⟩

theorem mem_members_iff
    (hgrouped : criterion.Grouped entries groups) (hnodup : entries.Nodup)
    {group : Cluster α} (hgroup : group ∈ groups) {entry other : α}
    (hentry : entry ∈ group.members) (hother : other ∈ entries) :
    other ∈ group.members ↔ criterion.Connected entries entry other := by
  rw [← hgrouped.exists_group_iff hnodup
    (hgrouped.mem_entries hgroup hentry) hother]
  constructor
  · intro hin
    exact ⟨group, hgroup, hentry, hin⟩
  · rintro ⟨holder, hholder, hin, hinOther⟩
    have hsame := hgrouped.group_unique hnodup hholder hgroup hin hentry
    rw [← hsame]
    exact hinOther

/-- What linked receptions agree on, all members of a group agree on. -/
theorem uniform_iff
    (hgrouped : criterion.Grouped entries groups) (f : α → β) :
    (∀ group ∈ groups, ∀ first ∈ group.members, ∀ second ∈ group.members,
        f first = f second) ↔
      ∀ newer older, criterion.Linked entries newer older →
        f newer = f older := by
  constructor
  · intro huniform newer older hlinked
    obtain ⟨group, hgroup, hnewer, holder⟩ :=
      hgrouped.joined newer older hlinked
    exact huniform group hgroup newer hnewer older holder
  · intro hlinked group hgroup
    have hadjacent : group.members.IsChain fun newer older =>
        f newer = f older :=
      (hgrouped.chained group hgroup).imp fun newer older => hlinked newer older
    have hlatest : ∀ entry ∈ group.members, f group.latest = f entry := by
      have htrans : Trans (fun a b => f a = f b) (fun a b => f a = f b)
          (fun a b => f a = f b) := ⟨Eq.trans⟩
      intro entry hentry
      rw [← List.cons_head_tail group.nonempty] at hadjacent hentry
      rcases List.mem_cons.mp hentry with rfl | htail
      · rfl
      · exact hadjacent.rel_cons htail
    intro first hfirst second hsecond
    rw [← hlatest first hfirst, hlatest second hsecond]

/-- Adjacent members are stamped at most a window apart, whichever of them is
stamped later, exactly when no clock step backwards is larger. -/
theorem gaps_iff
    (hgrouped : criterion.Grouped entries groups)
    (hwindow : 0 ≤ criterion.window) :
    (∀ group ∈ groups, group.members.IsChain fun newer older =>
        |criterion.stamp newer - criterion.stamp older| ≤ criterion.window) ↔
      ∀ newer older, criterion.Consecutive entries newer older →
        criterion.stamp older - criterion.stamp newer ≤ criterion.window := by
  constructor
  · intro hgaps newer older hnext
    by_contra hstep
    have hlinked : criterion.Linked entries newer older := ⟨hnext, by omega⟩
    obtain ⟨group, hgroup, hnewer, holder⟩ :=
      hgrouped.joined newer older hlinked
    have hgap := rel_of_consecutive (hgrouped.chained group hgroup)
      (hgaps group hgroup) hnewer holder hnext
    rw [abs_le] at hgap
    omega
  · intro hsteps group hgroup
    apply (hgrouped.chained group hgroup).imp
    intro newer older hlinked
    have hgap := hlinked.gap
    have hstep := hsteps newer older hlinked.toConsecutive
    rw [abs_le]
    omega

/-- Groups are listed by their newest members exactly when no group was heard
entirely between two members of another. -/
theorem latest_sorted_iff
    (hgrouped : criterion.Grouped entries groups) (hnodup : entries.Nodup) :
    groups.Pairwise (fun first later => first.latest < later.latest) ↔
      ∀ newest ∈ entries, ∀ middle ∈ entries, ∀ oldest ∈ entries,
        newest < middle → middle < oldest →
          criterion.Connected entries newest oldest →
            ¬criterion.Connected entries newest middle →
              ∃ other ∈ entries, criterion.Connected entries middle other ∧
                (other < newest ∨ oldest < other) := by
  have hcreated := List.pairwise_map.mp hgrouped.created
  constructor
  · intro hlatest newest hnewest middle hmiddle oldest holdest habove hbelow
      hsame hother
    obtain ⟨group, hgroup, hinNewest⟩ := hgrouped.exists_group hnewest
    obtain ⟨inner, hinner, hinMiddle⟩ := hgrouped.exists_group hmiddle
    have hinOldest :=
      (hgrouped.mem_members_iff hnodup hgroup hinNewest holdest).mpr hsame
    have hne : group ≠ inner := by
      rintro rfl
      exact hother (hgrouped.connected_of_members hgroup hinNewest hinMiddle)
    have hfirst := hgrouped.latest_le hgroup hinNewest
    have hlast := hgrouped.le_oldest hgroup hinOldest
    rcases rel_or_rel (hlatest.and hcreated) hgroup hinner hne with
      ⟨_, holder⟩ | ⟨hnewer, _⟩
    · exact ⟨inner.oldest, hgrouped.mem_entries hinner inner.oldest_mem,
        hgrouped.connected_of_members hinner hinMiddle inner.oldest_mem,
        Or.inr (hlast.trans_lt holder)⟩
    · exact ⟨inner.latest, hgrouped.mem_entries hinner inner.latest_mem,
        hgrouped.connected_of_members hinner hinMiddle inner.latest_mem,
        Or.inl (hnewer.trans_le hfirst)⟩
  · intro hnested
    apply hcreated.imp_of_mem
    intro first later hfirst hlater holder
    by_contra hlatest
    have hne : first ≠ later := by
      rintro rfl
      exact lt_irrefl _ holder
    -- the later group encloses the first one
    have habove : later.latest < first.latest := by
      apply lt_of_le_of_ne (not_lt.mp hlatest)
      intro hsame
      have hin : later.latest ∈ first.members := hsame ▸ first.latest_mem
      exact hne (hgrouped.group_unique hnodup hfirst hlater hin
        later.latest_mem)
    have hbelow : first.latest < later.oldest :=
      (hgrouped.le_oldest hfirst first.latest_mem).trans_lt holder
    have hapart : ¬criterion.Connected entries later.latest first.latest := by
      rw [← hgrouped.mem_members_iff hnodup hlater later.latest_mem
        (hgrouped.mem_entries hfirst first.latest_mem)]
      intro hin
      exact hne (hgrouped.group_unique hnodup hfirst hlater first.latest_mem
        hin)
    obtain ⟨other, hother, hconnected, houtside⟩ := hnested
      later.latest (hgrouped.mem_entries hlater later.latest_mem)
      first.latest (hgrouped.mem_entries hfirst first.latest_mem)
      later.oldest (hgrouped.mem_entries hlater later.oldest_mem)
      habove hbelow
      (hgrouped.connected_of_members hlater later.latest_mem later.oldest_mem)
      hapart
    have hin := (hgrouped.mem_members_iff hnodup hfirst first.latest_mem
      hother).mpr hconnected
    have hnewer := hgrouped.latest_le hfirst hin
    have hoverlap := hgrouped.le_oldest hfirst hin
    rcases houtside with hless | hmore
    · exact absurd (hless.trans habove) (not_lt.mpr hnewer)
    · exact absurd (holder.trans hmore) (not_lt.mpr hoverlap)

end Grouped

end Positions

end Criterion

end WindowGrouping
