import MeshController.RegionEditor

/-!
# Adding a region to the outline

The editor adds a region beside the selected one: a blank entry right below
it, at the same depth, whose name is then typed in place.  As the parent of an
entry is the nearest shallower one above, what is displayed below the selected
entry goes over to the new one.  The key adds a sibling, and nothing but a
sibling, exactly when the selected region has no children.
-/

namespace MeshController

open OrderedForest

/-- One more region beside the one at `index`, every other as it was. -/
def AddsSibling (before after : RegionOutline) (index : ℕ) (name : String) :
    Prop :=
  ∃ selected, (regionsFromOutline before)[index]? = some selected ∧
    (regionsFromOutline after).Perm
      ({ name := name, parent := selected.parent } ::
        regionsFromOutline before)

/-! ### One more entry -/

theorem regionsFromOutline_append (before after : RegionOutline) :
    regionsFromOutline (before ++ after) =
      regionsFromOutline before ++
        (parentsAfter before after).map asRegion := by
  rw [regionsFromOutline_eq_parentsAfter, regionsFromOutline_eq_parentsAfter,
    parentsAfter_append, List.nil_append, List.map_append]

theorem getElem?_regionsFromOutline_split
    (before : RegionOutline) (entry : String × ℕ) (after : RegionOutline) :
    (regionsFromOutline (before ++ entry :: after))[before.length]? =
      some (asRegion (entry.1, parentAfter before entry.2)) := by
  rw [getElem?_regionsFromOutline, List.getElem?_append_right le_rfl,
    Nat.sub_self, List.getElem?_cons_zero, Option.map_some,
    List.take_left]
  rfl

theorem parentAfter_append_self
    (before : RegionOutline) (entry : String × ℕ) :
    parentAfter (before ++ [entry]) entry.2 = parentAfter before entry.2 := by
  apply parentAfter_append_of_deeper
  intro other hother
  rw [List.mem_singleton.mp hother]

section Split

variable {before after : RegionOutline} {entry : String × ℕ} {name : String}

/-- The entries above keep their parents whatever is added, so only the ones
below count. -/
theorem addsSibling_split_iff :
    AddsSibling (before ++ entry :: after)
        (before ++ entry :: (name, entry.2) :: after) before.length name ↔
      ((parentsAfter (before ++ [entry] ++ [(name, entry.2)]) after).map
        asRegion).Perm
          ((parentsAfter (before ++ [entry]) after).map asRegion) := by
  have hadded :
      regionsFromOutline (before ++ entry :: (name, entry.2) :: after) =
        regionsFromOutline (before ++ [entry]) ++
          asRegion (name, parentAfter before entry.2) ::
            (parentsAfter (before ++ [entry] ++ [(name, entry.2)]) after).map
              asRegion := by
    rw [List.append_cons, regionsFromOutline_append, parentsAfter,
      parentAfter_append_self, List.map_cons]
  have hkept : regionsFromOutline (before ++ entry :: after) =
      regionsFromOutline (before ++ [entry]) ++
        (parentsAfter (before ++ [entry]) after).map asRegion := by
    rw [List.append_cons, regionsFromOutline_append]
  rw [AddsSibling, getElem?_regionsFromOutline_split, hadded, hkept]
  simp only [Option.some.injEq, exists_eq_left', asRegion]
  rw [List.perm_middle.congr_left, List.perm_cons,
    List.perm_append_left_iff]

theorem addsSibling_of_leaf
    (hlevels : NoSkippedLevel (before ++ entry :: after))
    (hleaf : ∀ next ∈ after.head?, next.2 ≤ entry.2) :
    AddsSibling (before ++ entry :: after)
      (before ++ entry :: (name, entry.2) :: after) before.length name := by
  have hnested : WellNested entry.2 after := by
    have hafter := ((noSkippedLevel_split _ _ _).mp hlevels).2.2
    cases after with
    | nil => trivial
    | cons next rest => exact ⟨hleaf next rfl, hafter.2⟩
  rw [addsSibling_split_iff, parentsAfter_append_leaf hnested]

/-- The next entry is a child of the selected one before, and of the new one
after. -/
theorem not_addsSibling_of_child
    {next : String × ℕ} {rest : RegionOutline}
    (hlevels : NoSkippedLevel (before ++ entry :: next :: rest))
    (hnames : ((before ++ entry :: next :: rest).map Prod.fst).Nodup)
    (hfresh : name ∉ (before ++ entry :: next :: rest).map Prod.fst)
    (hchild : entry.2 < next.2) :
    ¬AddsSibling (before ++ entry :: next :: rest)
      (before ++ entry :: (name, entry.2) :: next :: rest) before.length
      name := by
  have hnext : next.2 = entry.2 + 1 := by
    have hafter := ((noSkippedLevel_split _ _ _).mp hlevels).2.2
    have hle : next.2 ≤ entry.2 + 1 := hafter.1
    omega
  rw [addsSibling_split_iff]
  intro hperm
  have hold : asRegion (next.1, some entry.1) ∈
      (parentsAfter (before ++ [entry]) (next :: rest)).map asRegion := by
    rw [parentsAfter, hnext, parentAfter_append_singleton]
    exact List.mem_cons_self
  have hmoved := hperm.mem_iff.mpr hold
  rw [parentsAfter, hnext, parentAfter_append_singleton, List.map_cons,
    List.mem_cons] at hmoved
  rcases hmoved with hsame | hlater
  · have hentry : entry.1 = name := by
      simpa [asRegion] using hsame
    apply hfresh
    simp [← hentry]
  · -- a second region of that name would stand further below
    rcases List.mem_map.mp hlater with ⟨pair, hpair, hregion⟩
    have hname : pair.1 = next.1 := congrArg RegionConfig.name hregion
    have hbelow := List.mem_map_of_mem (f := Prod.fst) hpair
    rw [map_fst_parentsAfter, hname] at hbelow
    simp only [List.map_append, List.map_cons, List.nodup_append,
      List.nodup_cons] at hnames
    exact hnames.2.1.2.1 hbelow

end Split

theorem addsSibling_insertIdx_iff
    {outline : RegionOutline} {index : ℕ} {entry : String × ℕ}
    {name : String} (hlevels : NoSkippedLevel outline)
    (hnames : (outline.map Prod.fst).Nodup)
    (hentry : outline[index]? = some entry)
    (hfresh : name ∉ outline.map Prod.fst) :
    AddsSibling outline (outline.insertIdx (index + 1) (name, entry.2)) index
        name ↔
      ∀ next ∈ outline[index + 1]?, next.2 ≤ entry.2 := by
  obtain ⟨before, selected, after, rfl, rfl⟩ :=
    exists_split_of_lt (List.getElem?_eq_some_iff.mp hentry).1
  have hselected : selected = entry := by simpa using hentry
  subst hselected
  have hnext : (before ++ selected :: after)[before.length + 1]? =
      after.head? := by
    rw [List.getElem?_append_right (Nat.le_add_right _ _),
      Nat.add_sub_cancel_left, List.getElem?_cons_succ, List.head?_eq_getElem?]
  rw [insertIdx_split, hnext]
  constructor
  · intro hadds next hhead
    by_contra hdeeper
    cases after with
    | nil => cases hhead
    | cons other rest =>
        obtain rfl : other = next := Option.some.inj hhead
        exact not_addsSibling_of_child hlevels hnames hfresh
          (Nat.not_le.mp hdeeper) hadds
  · exact addsSibling_of_leaf hlevels

/-! ### Typing the name -/

def typeKey (buf : List Char) : Key → List Char
  | .char c => if isControl c then buf else buf ++ [c]
  | .backspace => buf.dropLast
  | _ => buf

theorem typeKey_char (buf : List Char) (c : Char) :
    typeKey buf (.char c) = if isControl c then buf else buf ++ [c] := rfl

/-- The buffer after some keys, none of which ends the typing. -/
def typedText (keys : List Key) : List Char := keys.foldl typeKey []

/-- The name stands in the buffer, with the blanks around it trimmed. -/
structure Types (keys : List Key) (name : List Char) : Prop where
  typing : ∀ key ∈ keys, key ≠ .enter ∧ key ≠ .escape
  text : trim (typedText keys) = name
  nonempty : name ≠ []

namespace RegionEditor

/-- The editor while the selected entry is being named. -/
def naming (editor : RegionEditor) (edit : InlineEdit) : RegionEditor :=
  { editor with editing := some edit }

theorem step_naming
    {editor : RegionEditor} (hopen : editor.result = none)
    (edit : InlineEdit) (key : Key) :
    step (editor.naming edit) key =
      some ((editor.naming edit).editKey edit key) := by
  rw [step, if_neg (by simp [naming, hopen])]
  rfl

theorem editKey_typing
    (editor : RegionEditor) (edit : InlineEdit) {key : Key}
    (henter : key ≠ .enter) (hescape : key ≠ .escape) :
    (editor.naming edit).editKey edit key =
      editor.naming { edit with buf := typeKey edit.buf key } := by
  cases key with
  | char c =>
      rw [editKey_char, typeKey_char]
      by_cases hcontrol : isControl c
      · rw [if_pos hcontrol, if_pos hcontrol]
      · rw [if_neg hcontrol, if_neg hcontrol]
        rfl
  | enter => exact absurd rfl henter
  | escape => exact absurd rfl hescape
  | _ => rfl

theorem editKey_enter (editor : RegionEditor) (edit : InlineEdit) :
    editor.editKey edit .enter = editor.finishEdit edit (some edit.buf) := rfl

theorem run_typing
    {editor : RegionEditor} (hopen : editor.result = none)
    (edit : InlineEdit) {keys : List Key}
    (htyping : ∀ key ∈ keys, key ≠ .enter ∧ key ≠ .escape) :
    LabelledRun.run step (editor.naming edit) keys =
      some (editor.naming
        { edit with buf := keys.foldl typeKey edit.buf }) := by
  induction keys generalizing edit with
  | nil => rfl
  | cons key rest ih =>
      obtain ⟨henter, hescape⟩ := htyping key List.mem_cons_self
      rw [LabelledRun.run_cons_some (step_naming hopen edit key),
        editKey_typing editor edit henter hescape]
      apply ih
      intro next hnext
      exact htyping next (List.mem_cons_of_mem _ hnext)

theorem setName_insertIdx_self
    {outline : RegionOutline} {index : ℕ} (hle : index ≤ outline.length)
    (added : String × ℕ) (name : String) :
    setName (outline.insertIdx index added) index name =
      outline.insertIdx index (name, added.2) := by
  induction outline generalizing index with
  | nil =>
      obtain rfl := Nat.le_zero.mp hle
      rfl
  | cons entry rest ih =>
      cases index with
      | zero => rfl
      | succ index => simpa [setName] using ih (Nat.le_of_succ_le_succ hle)

/-- The new entry stands right below the selected one, on its level. -/
theorem run_add
    {editor : RegionEditor} (hopen : editor.result = none)
    (hbrowsing : editor.editing = none) {entry : String × ℕ}
    (hentry : editor.outline[editor.selected]? = some entry)
    {typed : List Key} {name : List Char} (htypes : Types typed name) :
    LabelledRun.run step editor (.char 'a' :: typed ++ [.enter]) =
      some { editor with
        outline := editor.outline.insertIdx (editor.selected + 1)
          (String.ofList name, entry.2)
        selected := editor.selected + 1 } := by
  have hlt := (List.getElem?_eq_some_iff.mp hentry).1
  have hnonempty : editor.outline ≠ [] := List.ne_nil_of_length_pos (by omega)
  let blank : RegionEditor :=
    { editor with
      outline := editor.outline.insertIdx (editor.selected + 1) ("", entry.2)
      selected := editor.selected + 1 }
  have hadd : step editor (.char 'a') =
      some (blank.naming { buf := [], added := true }) := by
    rw [step, if_neg (by simp [hopen]), hbrowsing]
    simp [browseKey, addEntry, naming, blank, hentry, hnonempty]
  have hopened : blank.result = none := hopen
  have htext : trim (typed.foldl typeKey []) = name := htypes.text
  rw [List.cons_append, LabelledRun.run_cons_some hadd,
    LabelledRun.run_append, run_typing hopened _ htypes.typing,
    Option.bind_some, LabelledRun.run_cons_some (step_naming hopened _ .enter),
    LabelledRun.run_nil, editKey_enter, finishEdit, Option.map_some,
    Option.getD_some, htext, if_pos htypes.nonempty]
  simp only [naming, blank, setName_insertIdx_self hlt, hbrowsing]

/-- In an outline without a skipped level, `a` and a fresh name add a sibling
of the selected region and move no other, if and only if the region has no
children. -/
theorem add_addsSibling_iff
    {editor : RegionEditor} (hopen : editor.result = none)
    (hbrowsing : editor.editing = none)
    (hlevels : NoSkippedLevel editor.outline)
    (hnames : (editor.outline.map Prod.fst).Nodup) {entry : String × ℕ}
    (hentry : editor.outline[editor.selected]? = some entry)
    {typed : List Key} {name : List Char} (htypes : Types typed name)
    (hfresh : String.ofList name ∉ editor.outline.map Prod.fst) :
    ∃ final,
      LabelledRun.run step editor (.char 'a' :: typed ++ [.enter]) =
          some final ∧
        (AddsSibling editor.outline final.outline editor.selected
            (String.ofList name) ↔
          ∀ next ∈ editor.outline[editor.selected + 1]?,
            next.2 ≤ entry.2) :=
  ⟨_, run_add hopen hbrowsing hentry htypes,
    addsSibling_insertIdx_iff hlevels hnames hentry hfresh⟩

/-- France, which has no children, is given Benelux for a sibling. -/
theorem add_below_france :
    ∃ final,
      LabelledRun.run step { start europeanRegions with selected := 2 }
          (.char 'a' :: "Benelux".toList.map .char ++ [.enter]) = some final ∧
        AddsSibling europeanOutline final.outline 2 "Benelux" := by
  have houtline : (start europeanRegions).outline = europeanOutline := by
    decide
  rcases @add_addsSibling_iff { start europeanRegions with selected := 2 }
    rfl rfl (by rw [houtline]; decide) (by rw [houtline]; decide)
    ("France", 2) (by rw [houtline]; rfl) ("Benelux".toList.map .char)
    "Benelux".toList ⟨by decide, by decide, by decide⟩
    (by rw [houtline]; decide) with ⟨final, hrun, hadds⟩
  rw [houtline, String.ofList_toList] at hadds
  exact ⟨final, hrun, hadds.mpr (by decide)⟩

/-- Europe and Asia stood below World, and stand below America after it is
added beside World. -/
theorem add_below_world_moves_children :
    NoSkippedLevel europeanOutline ∧
      (europeanOutline.map Prod.fst).Nodup ∧
      "America" ∉ europeanOutline.map Prod.fst ∧
      ∃ final,
        LabelledRun.run step (start europeanRegions)
            (.char 'a' :: "America".toList.map .char ++ [.enter]) =
            some final ∧
          ¬AddsSibling europeanOutline final.outline 0 "America" := by
  refine ⟨by decide, by decide, by decide, _, rfl, ?_⟩
  rintro ⟨selected, _, hregions⟩
  have hmoved := hregions.mem_iff.mpr
    (List.mem_cons_of_mem _
      (by decide : ({ name := "Europe", parent := some "World" } :
        RegionConfig) ∈ regionsFromOutline europeanOutline))
  revert hmoved
  decide

end RegionEditor

end MeshController
