import Mathlib.Data.List.TakeWhile
import Mathlib.Tactic

/-!
# Ordered forests and their outlines

An ordered forest is written in two ways: as an outline, which lists every
label with its depth and each node before its descendants, and as a list in
which every label names its parent.  An outline stands for a forest exactly
when no level is skipped on the way down, and then the parent of an entry is
the nearest entry above it which is one level shallower.
-/

namespace OrderedForest

variable {Label : Type*}

/-- Outlines: a label with its depth, in display order. -/
abbrev Outline (Label : Type*) := List (Label × ℕ)

/-- A first tree, given by its root and the forest below it, and the trees
which follow. -/
inductive Forest (Label : Type*) where
  | nil
  | cons (label : Label) (children siblings : Forest Label)

namespace Forest

def labels : Forest Label → List Label
  | nil => []
  | cons label children siblings =>
      label :: (children.labels ++ siblings.labels)

def outline : Forest Label → ℕ → Outline Label
  | nil, _ => []
  | cons label children siblings, depth =>
      (label, depth) ::
        (children.outline (depth + 1) ++ siblings.outline depth)

/-- Every label with its parent, in display order; `parent` is the parent of
the roots. -/
def parents : Forest Label → Option Label → List (Label × Option Label)
  | nil, _ => []
  | cons label children siblings, parent =>
      (label, parent) ::
        (children.parents (some label) ++ siblings.parents parent)

/-- The roots alone, as `parents` lists them. -/
def roots : Forest Label → Option Label → List (Label × Option Label)
  | nil, _ => []
  | cons label _ siblings, parent => (label, parent) :: siblings.roots parent

def append : Forest Label → Forest Label → Forest Label
  | nil, later => later
  | cons label children siblings, later =>
      cons label children (siblings.append later)

@[simp] theorem labels_append (first later : Forest Label) :
    (first.append later).labels = first.labels ++ later.labels := by
  induction first with
  | nil => rfl
  | cons label children siblings _ ih => simp [append, labels, ih]

@[simp] theorem outline_append (first later : Forest Label) (depth : ℕ) :
    (first.append later).outline depth =
      first.outline depth ++ later.outline depth := by
  induction first with
  | nil => rfl
  | cons label children siblings _ ih => simp [append, outline, ih]

@[simp] theorem parents_append
    (first later : Forest Label) (parent : Option Label) :
    (first.append later).parents parent =
      first.parents parent ++ later.parents parent := by
  induction first with
  | nil => rfl
  | cons label children siblings _ ih => simp [append, parents, ih]

theorem map_fst_parents (forest : Forest Label) (parent : Option Label) :
    (forest.parents parent).map Prod.fst = forest.labels := by
  induction forest generalizing parent with
  | nil => rfl
  | cons label children siblings ihchildren ihsiblings =>
      simp [parents, labels, ihchildren, ihsiblings]

theorem map_fst_outline (forest : Forest Label) (depth : ℕ) :
    (forest.outline depth).map Prod.fst = forest.labels := by
  induction forest generalizing depth with
  | nil => rfl
  | cons label children siblings ihchildren ihsiblings =>
      simp [outline, labels, ihchildren, ihsiblings]

theorem depth_le_of_mem_outline
    {forest : Forest Label} {depth : ℕ} {entry : Label × ℕ}
    (hmem : entry ∈ forest.outline depth) : depth ≤ entry.2 := by
  induction forest generalizing depth with
  | nil => simp [outline] at hmem
  | cons label children siblings ihchildren ihsiblings =>
      simp only [outline, List.mem_cons, List.mem_append] at hmem
      rcases hmem with hhead | hchild | hsibling
      · rw [hhead]
      · exact (Nat.le_succ depth).trans (ihchildren hchild)
      · exact ihsiblings hsibling

/-- Below `parent`, the parent of a node is `parent` itself or a node. -/
theorem parent_of_mem_parents
    {forest : Forest Label} {parent : Option Label}
    {pair : Label × Option Label}
    (hmem : pair ∈ forest.parents parent) :
    pair.2 = parent ∨ ∃ above ∈ forest.labels, pair.2 = some above := by
  induction forest generalizing parent with
  | nil => simp [parents] at hmem
  | cons root children siblings ihchildren ihsiblings =>
      simp only [parents, List.mem_cons, List.mem_append] at hmem
      rcases hmem with hroot | hchild | hsibling
      · exact Or.inl (congrArg Prod.snd hroot)
      · right
        rcases ihchildren hchild with hroot | ⟨above, habove, hpair⟩
        · exact ⟨root, by simp [labels], hroot⟩
        · exact ⟨above, by simp [labels, habove], hpair⟩
      · rcases ihsiblings hsibling with hparent | ⟨above, habove, hpair⟩
        · exact Or.inl hparent
        · exact Or.inr ⟨above, by simp [labels, habove], hpair⟩

end Forest

/-! ### Outlines without a skipped level -/

/-- Going down the outline, an entry is at most one level below the entry
before it; `bound` is the depth allowed to the first entry. -/
def WellNested : ℕ → Outline Label → Prop
  | _, [] => True
  | bound, (_, depth) :: rest => depth ≤ bound ∧ WellNested (depth + 1) rest

/-- The first entry is a root and no entry skips a level. -/
abbrev NoSkippedLevel (entries : Outline Label) : Prop := WellNested 0 entries

/-- The depth allowed to the entry which follows. -/
def boundAfter (bound : ℕ) (entries : Outline Label) : ℕ :=
  match entries.getLast? with
  | none => bound
  | some (_, depth) => depth + 1

instance decidableWellNested (bound : ℕ) (entries : Outline Label) :
    Decidable (WellNested bound entries) :=
  match entries with
  | [] => isTrue trivial
  | (_, depth) :: rest =>
      have := decidableWellNested (depth + 1) rest
      inferInstanceAs (Decidable (_ ∧ _))

@[simp] theorem wellNested_nil (bound : ℕ) :
    WellNested bound ([] : Outline Label) := trivial

@[simp] theorem wellNested_cons
    (bound : ℕ) (entry : Label × ℕ) (rest : Outline Label) :
    WellNested bound (entry :: rest) ↔
      entry.2 ≤ bound ∧ WellNested (entry.2 + 1) rest := Iff.rfl

theorem WellNested.mono
    {bound larger : ℕ} {entries : Outline Label}
    (hnested : WellNested bound entries) (hle : bound ≤ larger) :
    WellNested larger entries := by
  cases entries with
  | nil => trivial
  | cons entry rest => exact ⟨hnested.1.trans hle, hnested.2⟩

@[simp] theorem boundAfter_nil (bound : ℕ) :
    boundAfter bound ([] : Outline Label) = bound := rfl

@[simp] theorem boundAfter_cons
    (bound : ℕ) (entry : Label × ℕ) (rest : Outline Label) :
    boundAfter bound (entry :: rest) = boundAfter (entry.2 + 1) rest := by
  cases hrest : rest.getLast? with
  | none =>
      rw [List.getLast?_eq_none_iff.mp hrest]
      rfl
  | some last => simp [boundAfter, List.getLast?_cons, hrest]

theorem wellNested_append
    (bound : ℕ) (before after : Outline Label) :
    WellNested bound (before ++ after) ↔
      WellNested bound before ∧
        WellNested (boundAfter bound before) after := by
  induction before generalizing bound with
  | nil => simp
  | cons entry rest ih => simp [ih, and_assoc]

theorem Forest.boundAfter_outline_le
    (forest : Forest Label) (bound depth : ℕ) (hle : depth ≤ bound) :
    depth ≤ boundAfter bound (forest.outline depth) := by
  cases hlast : (forest.outline depth).getLast? with
  | none => simpa [boundAfter, hlast] using hle
  | some last =>
      have hmem : last ∈ forest.outline depth := List.mem_of_getLast? hlast
      have hdepth := Forest.depth_le_of_mem_outline hmem
      simpa [boundAfter, hlast] using Nat.le_succ_of_le hdepth

theorem Forest.wellNested_outline (forest : Forest Label) (depth : ℕ) :
    WellNested depth (forest.outline depth) := by
  induction forest generalizing depth with
  | nil => trivial
  | cons label children siblings ihchildren ihsiblings =>
      refine ⟨le_rfl, ?_⟩
      rw [wellNested_append]
      constructor
      · exact ihchildren (depth + 1)
      · apply (ihsiblings depth).mono
        exact (Nat.le_succ depth).trans
          (children.boundAfter_outline_le (depth + 1) (depth + 1) le_rfl)

/-- What follows an entry splits into its descendants and the entries after
its tree. -/
theorem exists_outline_of_wellNested
    {entries : Outline Label} {depth : ℕ}
    (hdeep : ∀ entry ∈ entries, depth ≤ entry.2)
    (hnested : WellNested depth entries) :
    ∃ forest : Forest Label, entries = forest.outline depth := by
  induction hlength : entries.length using Nat.strong_induction_on
    generalizing entries depth with
  | h length ih =>
      cases entries with
      | nil => exact ⟨.nil, rfl⟩
      | cons entry rest =>
          have hentry : entry.2 = depth :=
            le_antisymm hnested.1 (hdeep entry List.mem_cons_self)
          have hrest : WellNested (depth + 1) rest := hentry ▸ hnested.2
          let deeper : Label × ℕ → Bool := fun other => depth < other.2
          have hsplit : rest.takeWhile deeper ++ rest.dropWhile deeper = rest :=
            List.takeWhile_append_dropWhile
          have hboth := hrest
          rw [← hsplit, wellNested_append] at hboth
          have hshorter := congrArg List.length hsplit
          rw [List.length_append] at hshorter
          rw [List.length_cons] at hlength
          -- the descendants of the entry
          have hbelow : ∀ other ∈ rest.takeWhile deeper,
              depth + 1 ≤ other.2 := by
            intro other hmem
            have hdeeper := List.mem_takeWhile_imp hmem
            simpa [deeper] using hdeeper
          obtain ⟨children, hchildren⟩ :=
            ih _ (by omega) hbelow hboth.1 rfl
          -- the entries after its tree
          have hafter : ∀ other ∈ rest.dropWhile deeper,
              depth ≤ other.2 := by
            intro other hmem
            apply hdeep other
            exact List.mem_cons_of_mem _ ((List.dropWhile_sublist _).mem hmem)
          have hroots : WellNested depth (rest.dropWhile deeper) := by
            cases hdrop : rest.dropWhile deeper with
            | nil => trivial
            | cons next later =>
                have hnext := List.head?_dropWhile_not deeper rest
                rw [hdrop] at hnext
                rw [hdrop] at hboth
                simp only [List.head?_cons, deeper, not_lt,
                  decide_eq_false_iff_not] at hnext
                exact ⟨hnext, hboth.2.2⟩
          obtain ⟨siblings, hsiblings⟩ :=
            ih _ (by omega) hafter hroots rfl
          refine ⟨.cons entry.1 children siblings, ?_⟩
          rw [Forest.outline, ← hchildren, ← hsiblings, hsplit, ← hentry]

/-- The outlines without a skipped level are the outlines of forests. -/
theorem noSkippedLevel_iff_exists_outline (entries : Outline Label) :
    NoSkippedLevel entries ↔
      ∃ forest : Forest Label, entries = forest.outline 0 := by
  constructor
  · intro hnested
    exact exists_outline_of_wellNested (fun _ _ => Nat.zero_le _) hnested
  · rintro ⟨forest, rfl⟩
    exact forest.wellNested_outline 0

/-! ### The nearest shallower entry -/

/-- The parent of an entry at `depth` which comes after `before`. -/
def parentAfter (before : Outline Label) : ℕ → Option Label
  | 0 => none
  | depth + 1 =>
      (before.reverse.find? fun entry => entry.2 = depth).map Prod.fst

/-- Every entry with its parent, for a list which comes after `before`. -/
def parentsAfter :
    Outline Label → Outline Label → List (Label × Option Label)
  | _, [] => []
  | before, (label, depth) :: rest =>
      (label, parentAfter before depth) ::
        parentsAfter (before ++ [(label, depth)]) rest

@[simp] theorem parentAfter_zero (before : Outline Label) :
    parentAfter before 0 = none := rfl

theorem parentAfter_append_of_deeper
    {before later : Outline Label} {depth : ℕ}
    (hdeep : ∀ entry ∈ later, depth ≤ entry.2) :
    parentAfter (before ++ later) depth = parentAfter before depth := by
  cases depth with
  | zero => rfl
  | succ depth =>
      have hnone : later.reverse.find? (fun entry => entry.2 = depth) =
          none := by
        rw [List.find?_eq_none]
        intro entry hmem
        have hle := hdeep entry (List.mem_reverse.mp hmem)
        simp only [decide_eq_true_eq]
        omega
      simp [parentAfter, List.find?_append, hnone]

theorem parentAfter_append_singleton
    (before : Outline Label) (label : Label) (depth : ℕ) :
    parentAfter (before ++ [(label, depth)]) (depth + 1) = some label := by
  simp [parentAfter]

theorem map_fst_parentsAfter (before outline : Outline Label) :
    (parentsAfter before outline).map Prod.fst = outline.map Prod.fst := by
  induction outline generalizing before with
  | nil => rfl
  | cons entry rest ih => simp [parentsAfter, ih]

theorem parentsAfter_append (before first later : Outline Label) :
    parentsAfter before (first ++ later) =
      parentsAfter before first ++ parentsAfter (before ++ first) later := by
  induction first generalizing before with
  | nil => simp [parentsAfter]
  | cons entry rest ih => simp [parentsAfter, ih]

theorem parentAfter_append_eq_ite
    (before : Outline Label) (label : Label) (level depth : ℕ) :
    parentAfter (before ++ [(label, level)]) depth =
      if depth = level + 1 then some label else parentAfter before depth := by
  by_cases hbelow : depth = level + 1
  · rw [if_pos hbelow, hbelow, parentAfter_append_singleton]
  · rw [if_neg hbelow]
    cases depth with
    | zero => rfl
    | succ depth =>
        have hother : level ≠ depth := by omega
        simp [parentAfter, hother]

/-- Entries which go down one level at a time look no further up than the
levels which the first of them may have. -/
theorem parentsAfter_congr
    {before other rest : Outline Label} {bound : ℕ}
    (hnested : WellNested bound rest)
    (hsame : ∀ depth ≤ bound,
      parentAfter before depth = parentAfter other depth) :
    parentsAfter before rest = parentsAfter other rest := by
  induction rest generalizing before other bound with
  | nil => rfl
  | cons entry rest ih =>
      obtain ⟨label, level⟩ := entry
      obtain ⟨hlevel, hrest⟩ := hnested
      rw [parentsAfter, parentsAfter, hsame level hlevel]
      congr 1
      apply ih hrest
      intro depth hdepth
      rw [parentAfter_append_eq_ite, parentAfter_append_eq_ite]
      by_cases hbelow : depth = level + 1
      · rw [if_pos hbelow, if_pos hbelow]
      · rw [if_neg hbelow, if_neg hbelow, hsame depth (by omega)]

/-- A leaf takes no child from the entries which follow it on its level or
above. -/
theorem parentsAfter_append_leaf
    {rest : Outline Label} {level : ℕ} (hnested : WellNested level rest)
    (before : Outline Label) (label : Label) :
    parentsAfter (before ++ [(label, level)]) rest =
      parentsAfter before rest := by
  apply parentsAfter_congr hnested
  intro depth hdepth
  rw [parentAfter_append_eq_ite, if_neg (by omega)]

/-- In the outline of a forest the nearest shallower entry is the parent. -/
theorem parentsAfter_outline
    (forest : Forest Label) (before : Outline Label) (depth : ℕ) :
    parentsAfter before (forest.outline depth) =
      forest.parents (parentAfter before depth) := by
  induction forest generalizing before depth with
  | nil => rfl
  | cons label children siblings ihchildren ihsiblings =>
      have hbelow :
          parentAfter (before ++ [(label, depth)]) (depth + 1) =
            some label :=
        parentAfter_append_singleton before label depth
      have hsame :
          parentAfter (before ++ [(label, depth)] ++
            children.outline (depth + 1)) depth =
              parentAfter before depth := by
        rw [List.append_assoc]
        apply parentAfter_append_of_deeper
        intro entry hmem
        rcases List.mem_append.mp hmem with hhead | hchild
        · rw [List.mem_singleton.mp hhead]
        · exact (Nat.le_succ depth).trans
            (Forest.depth_le_of_mem_outline hchild)
      rw [Forest.outline, Forest.parents, parentsAfter, parentsAfter_append,
        ihchildren, ihsiblings, hbelow, hsame]

/-- The nearest entry above which is shallower, by any number of levels. -/
def nearestShallower (before : Outline Label) (depth : ℕ) : Option Label :=
  (before.reverse.find? fun entry => entry.2 < depth).map Prod.fst

theorem boundAfter_append_singleton
    (bound : ℕ) (before : Outline Label) (entry : Label × ℕ) :
    boundAfter bound (before ++ [entry]) = entry.2 + 1 := by
  simp [boundAfter]

/-- While no level is skipped, the nearest shallower entry is exactly one
level up. -/
theorem parentAfter_eq_nearestShallower
    {before : Outline Label} {depth : ℕ} (hnested : NoSkippedLevel before)
    (hdepth : depth ≤ boundAfter 0 before) :
    parentAfter before depth = nearestShallower before depth := by
  cases depth with
  | zero => simp [nearestShallower]
  | succ depth =>
      induction before using List.reverseRecOn with
      | nil => rfl
      | append_singleton before entry ih =>
          obtain ⟨hbefore, hentry⟩ := (wellNested_append 0 _ _).mp hnested
          rw [boundAfter_append_singleton] at hdepth
          by_cases hparent : entry.2 = depth
          · simp [parentAfter, nearestShallower, hparent]
          · have hdeeper : ¬entry.2 ≤ depth := by omega
            have habove := ih hbefore (by
              have hbound : entry.2 ≤ boundAfter 0 before := hentry.1
              omega)
            simpa [parentAfter, nearestShallower, hparent, hdeeper] using habove

theorem isSome_parentAfter
    {before : Outline Label} {depth : ℕ} (hnested : NoSkippedLevel before)
    (hdepth : depth ≤ boundAfter 0 before) (hpositive : 0 < depth) :
    (parentAfter before depth).isSome := by
  obtain ⟨level, rfl⟩ := Nat.exists_eq_add_one.mpr hpositive
  induction before using List.reverseRecOn with
  | nil => simp at hdepth
  | append_singleton before entry ih =>
      obtain ⟨hbefore, hentry⟩ := (wellNested_append 0 _ _).mp hnested
      rw [boundAfter_append_singleton] at hdepth
      by_cases hparent : entry.2 = level
      · simp [parentAfter, hparent]
      · have habove := ih hbefore (by
          have hbound : entry.2 ≤ boundAfter 0 before := hentry.1
          omega)
        simpa [parentAfter, hparent] using habove

/-! ### Children by parent -/

section Children

/-- No pair of the list names a node of the forest as its parent. -/
def Foreign (forest : Forest Label) (pairs : List (Label × Option Label)) :
    Prop :=
  ∀ pair ∈ pairs, ∀ label ∈ forest.labels, pair.2 ≠ some label

theorem Foreign.mono
    {forest larger : Forest Label} {pairs : List (Label × Option Label)}
    (hforeign : Foreign larger pairs)
    (hsubset : ∀ label ∈ forest.labels, label ∈ larger.labels) :
    Foreign forest pairs := by
  intro pair hmem label hlabel
  exact hforeign pair hmem label (hsubset label hlabel)

theorem Foreign.append
    {forest : Forest Label} {first later : List (Label × Option Label)}
    (hfirst : Foreign forest first) (hlater : Foreign forest later) :
    Foreign forest (first ++ later) := by
  intro pair hmem
  rcases List.mem_append.mp hmem with hin | hin
  · exact hfirst pair hin
  · exact hlater pair hin

theorem foreign_singleton
    {forest : Forest Label} {parent : Option Label} (label : Label)
    (hparent : ∀ other ∈ forest.labels, some other ≠ parent) :
    Foreign forest [(label, parent)] := by
  intro pair hmem other hother
  rw [List.mem_singleton.mp hmem]
  exact (hparent other hother).symm

theorem foreign_parents
    {forest beside : Forest Label} {parent : Option Label}
    (hparent : ∀ label ∈ forest.labels, some label ≠ parent)
    (happart : ∀ label ∈ forest.labels, label ∉ beside.labels) :
    Foreign forest (beside.parents parent) := by
  intro pair hmem label hlabel
  rcases Forest.parent_of_mem_parents hmem with hroot | ⟨above, habove, hpair⟩
  · rw [hroot]
    exact (hparent label hlabel).symm
  · rw [hpair]
    intro hsame
    exact happart label hlabel (Option.some.inj hsame ▸ habove)

variable [DecidableEq Label]

/-- Below every node of the forest `pairs` lists its children, in their order
and no others. -/
def Hangs (pairs : List (Label × Option Label)) : Forest Label → Prop
  | .nil => True
  | .cons label children siblings =>
      pairs.filter (fun pair => pair.2 = some label) =
          children.roots (some label) ∧
        Hangs pairs children ∧ Hangs pairs siblings

theorem Foreign.filter_eq_nil
    {forest : Forest Label} {pairs : List (Label × Option Label)}
    (hforeign : Foreign forest pairs) {label : Label}
    (hlabel : label ∈ forest.labels) :
    pairs.filter (fun pair => pair.2 = some label) = [] := by
  rw [List.filter_eq_nil_iff]
  intro pair hmem hsame
  exact hforeign pair hmem label hlabel (by simpa using hsame)

theorem filter_parents_of_ne
    {forest : Forest Label} {parent other : Option Label}
    (hne : parent ≠ other)
    (hlabels : ∀ label ∈ forest.labels, some label ≠ other) :
    (forest.parents parent).filter (fun pair => pair.2 = other) = [] := by
  rw [List.filter_eq_nil_iff]
  intro pair hmem hother
  simp only [decide_eq_true_eq] at hother
  rcases Forest.parent_of_mem_parents hmem with hroot | ⟨above, habove, hpair⟩
  · exact hne (hroot.symm.trans hother)
  · exact hlabels above habove (hpair.symm.trans hother)

theorem filter_parents_self
    {forest : Forest Label} {parent : Option Label}
    (hlabels : ∀ label ∈ forest.labels, some label ≠ parent) :
    (forest.parents parent).filter (fun pair => pair.2 = parent) =
      forest.roots parent := by
  induction forest with
  | nil => rfl
  | cons label children siblings _ ihsiblings =>
      simp only [Forest.labels, List.mem_cons, List.mem_append] at hlabels
      have hchildren :
          (children.parents (some label)).filter
            (fun pair => pair.2 = parent) = [] := by
        apply filter_parents_of_ne (hlabels label (Or.inl rfl))
        intro other hmem
        exact hlabels other (Or.inr (Or.inl hmem))
      have hsiblings := ihsiblings fun other hmem =>
        hlabels other (Or.inr (Or.inr hmem))
      simp [Forest.parents, Forest.roots, hchildren, hsiblings]

theorem hangs_of_surrounded
    {forest : Forest Label} {parent : Option Label}
    (before after : List (Label × Option Label))
    (hnodup : forest.labels.Nodup)
    (hparent : ∀ label ∈ forest.labels, some label ≠ parent)
    (hbefore : Foreign forest before) (hafter : Foreign forest after) :
    Hangs (before ++ forest.parents parent ++ after) forest := by
  induction forest generalizing parent before after with
  | nil => trivial
  | cons label children siblings ihchildren ihsiblings =>
      simp only [Forest.labels, List.nodup_cons, List.mem_append,
        List.nodup_append, not_or] at hnodup
      obtain ⟨⟨hnotchild, hnotsibling⟩, hchildren, hsiblings, hapart⟩ :=
        hnodup
      simp only [Forest.labels, List.mem_cons, List.mem_append] at hparent
      have hroot : some label ≠ parent := hparent label (Or.inl rfl)
      have hchildlabel :
          ∀ other ∈ children.labels, some other ≠ some label := by
        intro other hmem hsame
        exact hnotchild (Option.some.inj hsame ▸ hmem)
      have hsiblinglabel :
          ∀ other ∈ siblings.labels, some other ≠ some label := by
        intro other hmem hsame
        exact hnotsibling (Option.some.inj hsame ▸ hmem)
      have hchildparent : ∀ other ∈ children.labels, some other ≠ parent :=
        fun other hmem => hparent other (Or.inr (Or.inl hmem))
      have hsiblingparent : ∀ other ∈ siblings.labels, some other ≠ parent :=
        fun other hmem => hparent other (Or.inr (Or.inr hmem))
      refine ⟨?_, ?_, ?_⟩
      · have hin : label ∈ (Forest.cons label children siblings).labels :=
          List.mem_cons_self
        have hown := filter_parents_self hchildlabel
        have hbeside := filter_parents_of_ne hroot.symm hsiblinglabel
        simp [Forest.parents, List.filter_append, hbefore.filter_eq_nil hin,
          hafter.filter_eq_nil hin, hown, hbeside, hroot.symm]
      · have hhangs := ihchildren (before ++ [(label, parent)])
          (siblings.parents parent ++ after) hchildren hchildlabel
          ((hbefore.mono (by simp +contextual [Forest.labels])).append
            (foreign_singleton label hchildparent))
          ((foreign_parents hchildparent fun other hmem hother =>
            hapart other hmem other hother rfl).append
              (hafter.mono (by simp +contextual [Forest.labels])))
        simpa [Forest.parents] using hhangs
      · have hhangs := ihsiblings
          (before ++ ([(label, parent)] ++ children.parents (some label)))
          after hsiblings hsiblingparent
          ((hbefore.mono (by simp +contextual [Forest.labels])).append
            ((foreign_singleton label hsiblingparent).append
              (foreign_parents hsiblinglabel fun other hmem hother =>
                hapart other hother other hmem rfl)))
          (hafter.mono (by simp +contextual [Forest.labels]))
        simpa [Forest.parents] using hhangs

theorem hangs_parents
    {forest : Forest Label} (hnodup : forest.labels.Nodup) :
    Hangs (forest.parents none) forest := by
  have hparent : ∀ label ∈ forest.labels, some label ≠ none := by simp
  have hnothing : Foreign forest [] := by simp [Foreign]
  simpa using hangs_of_surrounded [] [] hnodup hparent hnothing hnothing

end Children

end OrderedForest
