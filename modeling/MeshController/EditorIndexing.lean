import MeshController.CheckedVec
import MeshController.RegionEditor

/-!
# The region tree editor stays in range

The editor once more, with every index into the outline, every slice and every
subtraction checked as the source checks them while it runs.  Whatever the
configured regions and whatever the keys, no check fails, since the cursor
stays on an entry, or at zero in an empty outline.
-/

namespace MeshController

open CheckedVec

namespace Indexed

/-! ### One operation on the outline -/

def clampIndent (outline : RegionOutline) (index : ℕ) (delta : ℤ) :
    Option ℕ := do
  let current := (← outline[index]?).2
  if delta > 0 then
    let maxDepth ←
      if index = 0 then some 0
      else (sub index 1).bind fun i =>
        outline[i]?.map fun above => above.2 + 1
    return min (current + 1) maxDepth
  else return current - 1

/-- The loop of `deleteOutlineEntry`: from `stop` on, every entry one level
up, until one is no deeper than the removed entry. -/
def promoteFrom (depth : ℕ) (outline : RegionOutline) (stop : ℕ) :
    Option RegionOutline :=
  if stop < outline.length then
    match outline[stop]? with
    | none => none
    | some entry =>
        if entry.2 > depth then
          match sub entry.2 1 with
          | none => none
          | some level =>
              promoteFrom depth (outline.set stop (entry.1, level)) (stop + 1)
        else some outline
  else some outline
termination_by outline.length - stop
decreasing_by
  rw [List.length_set]
  omega

def deleteOutlineEntry (outline : RegionOutline) (index : ℕ) :
    Option RegionOutline := do
  let entry ← outline[index]?
  remove (← promoteFrom entry.2 outline (index + 1)) index

def regionAt (outline : RegionOutline) (i : ℕ) (entry : String × ℕ) :
    Option RegionConfig := do
  if entry.2 = 0 then
    return { name := entry.1, parent := none }
  else
    let above ← slice outline 0 i
    let level ← sub entry.2 1
    return {
      name := entry.1
      parent := (above.reverse.find? fun other => other.2 = level).map
        Prod.fst }

def regionsFromOutline (outline : RegionOutline) :
    Option (List RegionConfig) :=
  outline.zipIdx.mapM fun row => regionAt outline row.2 row.1

/-! ### The editor -/

/-- The name is written back also when it has not been changed. -/
def finishEdit (editor : RegionEditor) (edit : InlineEdit)
    (typed : Option (List Char)) : Option RegionEditor := do
  let name := (typed.map trim).getD []
  let entry ← editor.outline[editor.selected]?
  if edit.added then
    if name ≠ [] then
      let outline ← write editor.outline editor.selected
        (String.ofList name, entry.2)
      return { editor with outline := outline, editing := none }
    else
      let outline ← remove editor.outline editor.selected
      return { editor with
        outline := outline
        selected := editor.selected - 1
        editing := none }
  else
    let kept := if name ≠ [] then String.ofList name else entry.1
    let outline ← write editor.outline editor.selected (kept, entry.2)
    return { editor with outline := outline, editing := none }

def editKey (editor : RegionEditor) (edit : InlineEdit) :
    Key → Option RegionEditor
  | .enter => finishEdit editor edit (some edit.buf)
  | .escape => finishEdit editor edit none
  | key => some (editor.editKey edit key)

def indent (editor : RegionEditor) (delta : ℤ) : Option RegionEditor := do
  if editor.outline = [] then return editor
  else
    let entry ← editor.outline[editor.selected]?
    let depth ← clampIndent editor.outline editor.selected delta
    let outline ← write editor.outline editor.selected (entry.1, depth)
    return { editor with outline := outline }

def swapUp (editor : RegionEditor) : Option RegionEditor := do
  if editor.selected > 0 then
    let above ← sub editor.selected 1
    let outline ← swap editor.outline editor.selected above
    return { editor with outline := outline, selected := above }
  else return editor

def swapDown (editor : RegionEditor) : Option RegionEditor := do
  if editor.selected + 1 < editor.outline.length then
    let outline ← swap editor.outline editor.selected (editor.selected + 1)
    return { editor with outline := outline, selected := editor.selected + 1 }
  else return editor

/-- The new entry is read back for the buffer. -/
def addEntry (editor : RegionEditor) : Option RegionEditor := do
  let depth := (editor.outline[editor.selected]?.map Prod.snd).getD 0
  let insertAt := if editor.outline = [] then 0 else editor.selected + 1
  let outline ← insert editor.outline insertAt ("", depth)
  let entry ← outline[insertAt]?
  return { editor with
    outline := outline
    selected := insertAt
    editing := some { buf := entry.1.toList, added := true } }

def delete (editor : RegionEditor) : Option RegionEditor := do
  if editor.outline = [] then return editor
  else
    let outline ← deleteOutlineEntry editor.outline editor.selected
    return { editor with
      outline := outline
      selected :=
        if editor.selected ≥ outline.length then outline.length - 1
        else editor.selected }

def browseKey (editor : RegionEditor) : Key → Option RegionEditor
  | .arrowUp => some editor.moveUp
  | .arrowDown => some editor.moveDown
  | .arrowRight | .char 'l' => indent editor 1
  | .arrowLeft | .char 'h' => indent editor (-1)
  | .char 'k' => swapUp editor
  | .char 'j' => swapDown editor
  | .char 'a' => addEntry editor
  | .char 'r' => editor.rename
  | .char 'd' | .backspace | .del => delete editor
  | .enter => do
      let regions ← regionsFromOutline editor.outline
      return { editor with result := some regions }
  | .escape => some { editor with result := some editor.initial }
  | _ => some editor

/-- `none` for a panic; once the editor has closed it reads no key. -/
def step (editor : RegionEditor) (key : Key) : Option RegionEditor :=
  if editor.result.isSome then some editor
  else
    match editor.editing with
    | some edit => editKey editor edit key
    | none => browseKey editor key

/-! ### Every check holds on an entry -/

theorem clampIndent_eq (outline : RegionOutline) (index : ℕ) (delta : ℤ) :
    clampIndent outline index delta =
      MeshController.clampIndent outline index delta := by
  unfold clampIndent MeshController.clampIndent
  cases index with
  | zero => rfl
  | succ index =>
      rw [sub_of_le (Nat.le_add_left 1 index), Nat.add_sub_cancel]
      rfl

theorem promoteFrom_append
    (depth : ℕ) (before rest : RegionOutline) :
    promoteFrom depth (before ++ rest) before.length =
      some (before ++ promoteSubtree depth rest) := by
  induction rest generalizing before with
  | nil =>
      rw [promoteFrom, if_neg (by simp), promoteSubtree]
  | cons entry rest ih =>
      have hentry : (before ++ entry :: rest)[before.length]? =
          some entry := by
        simp
      rw [promoteFrom, if_pos (by simp), hentry, promoteSubtree]
      by_cases hdeeper : entry.2 > depth
      · have hset : (before ++ entry :: rest).set before.length
            (entry.1, entry.2 - 1) =
              (before ++ [(entry.1, entry.2 - 1)]) ++ rest := by
          simp
        have hrest := ih (before ++ [(entry.1, entry.2 - 1)])
        rw [List.length_append, List.length_singleton] at hrest
        simp only [if_pos hdeeper, sub_of_le (Nat.one_le_of_lt hdeeper)]
        rw [hset, hrest, List.append_assoc, List.singleton_append]
      · simp only [if_neg hdeeper]

theorem deleteOutlineEntry_eq (outline : RegionOutline) (index : ℕ) :
    deleteOutlineEntry outline index =
      MeshController.deleteOutlineEntry outline index := by
  by_cases hlt : index < outline.length
  · obtain ⟨before, entry, after, rfl, rfl⟩ := exists_split_of_lt hlt
    have hpromoted := promoteFrom_append entry.2 (before ++ [entry]) after
    rw [List.length_append, List.length_singleton, List.append_assoc,
      List.singleton_append, List.append_assoc, List.singleton_append]
      at hpromoted
    have hentry : (before ++ entry :: after)[before.length]? =
        some entry := by
      simp
    rw [deleteOutlineEntry, hentry, deleteOutlineEntry_split]
    simp only [Option.bind_eq_bind, Option.bind_some, hpromoted]
    rw [remove_of_lt (by simp), List.eraseIdx_append_of_length_le le_rfl,
      Nat.sub_self, List.eraseIdx_cons_zero]
  · have hnone : outline[index]? = none :=
      List.getElem?_eq_none_iff.mpr (Nat.not_lt.mp hlt)
    simp [deleteOutlineEntry, MeshController.deleteOutlineEntry, hnone]

theorem regionsFromOutline_eq (outline : RegionOutline) :
    regionsFromOutline outline =
      some (MeshController.regionsFromOutline outline) := by
  rw [regionsFromOutline, MeshController.regionsFromOutline,
    List.mapIdx_eq_zipIdx_map]
  apply mapM_eq_some_map
  rintro ⟨⟨name, depth⟩, i⟩ hrow
  have hlt : i < outline.length :=
    (List.getElem?_eq_some_iff.mp (List.mk_mem_zipIdx_iff_getElem?.mp hrow)).1
  cases depth with
  | zero => rfl
  | succ level =>
      have hpositive : level + 1 ≠ 0 := Nat.succ_ne_zero level
      simp only [regionAt, if_neg hpositive,
        slice_of_le (Nat.zero_le i) hlt.le,
        sub_of_le (Nat.le_add_left 1 level), Option.bind_eq_bind,
        Option.bind_some]
      rfl

end Indexed

namespace RegionEditor

/-- The cursor is on an entry, or at zero if there is none. -/
def CursorInRange (editor : RegionEditor) : Prop :=
  editor.selected < editor.outline.length ∨
    editor.outline = [] ∧ editor.selected = 0

/-- Also, an entry which is being named is there. -/
structure InRange (editor : RegionEditor) : Prop where
  cursor : editor.CursorInRange
  naming : editor.editing.isSome = true →
    editor.selected < editor.outline.length

theorem InRange.of_lt
    {editor : RegionEditor} (hlt : editor.selected < editor.outline.length) :
    editor.InRange :=
  ⟨Or.inl hlt, fun _ => hlt⟩

theorem InRange.of_browsing
    {editor : RegionEditor} (hbrowsing : editor.editing = none)
    (hcursor : editor.CursorInRange) : editor.InRange := by
  refine ⟨hcursor, ?_⟩
  rw [hbrowsing]
  intro hnaming
  cases hnaming

theorem InRange.lt_of_nonempty
    {editor : RegionEditor} (hrange : editor.InRange)
    (hnonempty : editor.outline ≠ []) :
    editor.selected < editor.outline.length := by
  rcases hrange.cursor with hlt | ⟨hempty, _⟩
  · exact hlt
  · exact absurd hempty hnonempty

theorem inRange_start (initial : List RegionConfig) :
    (start initial).InRange := by
  apply InRange.of_browsing rfl
  cases houtline : outlineFromRegions initial with
  | nil => exact Or.inr ⟨houtline, rfl⟩
  | cons entry rest =>
      left
      simp [start, houtline]

end RegionEditor

namespace Indexed

open RegionEditor

/-- No check fails, the outcome is the editor's own, and it is in range. -/
def Safe (checked plain : Option RegionEditor) : Prop :=
  ∃ next, checked = some next ∧ plain = some next ∧ next.InRange

theorem safe_some
    {editor : RegionEditor} (hrange : editor.InRange) :
    Safe (some editor) (some editor) :=
  ⟨editor, rfl, rfl, hrange⟩

theorem safe_moveUp
    {editor : RegionEditor} (hbrowsing : editor.editing = none)
    (hrange : editor.InRange) :
    Safe (some editor.moveUp) (some editor.moveUp) := by
  have hmoved : editor.moveUp.CursorInRange := by
    rcases hrange.cursor with hlt | ⟨hempty, hzero⟩
    · exact Or.inl ((Nat.sub_le _ _).trans_lt hlt)
    · exact Or.inr ⟨hempty, by simp [moveUp, hzero]⟩
  exact safe_some (.of_browsing hbrowsing hmoved)

theorem safe_moveDown
    {editor : RegionEditor} (hrange : editor.InRange) :
    Safe (some editor.moveDown) (some editor.moveDown) := by
  apply safe_some
  by_cases hlt : editor.selected + 1 < editor.outline.length
  · rw [moveDown, if_pos hlt]
    exact .of_lt hlt
  · rw [moveDown, if_neg hlt]
    exact hrange

theorem write_eq_setName
    {outline : RegionOutline} {index : ℕ} {entry : String × ℕ}
    (hentry : outline[index]? = some entry) (name : String) :
    write outline index (name, entry.2) =
      some (setName outline index name) := by
  obtain ⟨hlt, hget⟩ := List.getElem?_eq_some_iff.mp hentry
  rw [write_of_lt hlt, setName, List.modify_eq_set_getElem?, hentry]
  rfl

theorem write_eq_setDepth
    {outline : RegionOutline} {index : ℕ} {entry : String × ℕ}
    (hentry : outline[index]? = some entry) (depth : ℕ) :
    write outline index (entry.1, depth) =
      some (setDepth outline index depth) := by
  obtain ⟨hlt, hget⟩ := List.getElem?_eq_some_iff.mp hentry
  rw [write_of_lt hlt, setDepth, List.modify_eq_set_getElem?, hentry]
  rfl

theorem exists_clampIndent
    {outline : RegionOutline} {index : ℕ} (hlt : index < outline.length)
    (delta : ℤ) :
    ∃ depth, MeshController.clampIndent outline index delta = some depth := by
  have hentry := List.getElem?_eq_getElem hlt
  unfold MeshController.clampIndent
  rw [hentry]
  by_cases hdelta : delta > 0
  · cases index with
    | zero => simp [hdelta]
    | succ index =>
        have habove := List.getElem?_eq_getElem (Nat.lt_of_succ_lt hlt)
        simp [hdelta, habove]
  · simp [hdelta]

theorem safe_indent
    {editor : RegionEditor} (hrange : editor.InRange) (delta : ℤ) :
    Safe (indent editor delta) (editor.indent delta) := by
  rw [indent, RegionEditor.indent]
  by_cases hempty : editor.outline = []
  · rw [if_pos hempty, if_pos hempty]
    exact safe_some hrange
  · have hlt := hrange.lt_of_nonempty hempty
    have hentry := List.getElem?_eq_getElem hlt
    rcases exists_clampIndent hlt delta with ⟨depth, hdepth⟩
    rw [if_neg hempty, if_neg hempty, clampIndent_eq, hdepth, hentry]
    simp only [Option.bind_eq_bind, Option.bind_some, Option.map_some]
    rw [write_eq_setDepth hentry]
    refine ⟨_, rfl, rfl, .of_lt ?_⟩
    simpa [setDepth] using hlt

theorem swap_eq_swapEntries
    {outline : RegionOutline} {i j : ℕ} (hi : i < outline.length)
    (hj : j < outline.length) :
    ∃ swapped, swap outline i j = some swapped ∧
      swapEntries outline i j = some swapped ∧
      swapped.length = outline.length := by
  refine ⟨_, swap_of_lt hi hj, ?_, by simp⟩
  simp [swapEntries, hi, hj]

theorem safe_swapUp
    {editor : RegionEditor} (hrange : editor.InRange) :
    Safe (swapUp editor) editor.swapUp := by
  rw [swapUp, RegionEditor.swapUp]
  by_cases hpositive : editor.selected > 0
  · have hlt : editor.selected < editor.outline.length := by
      rcases hrange.cursor with hlt | ⟨_, hzero⟩
      · exact hlt
      · omega
    have habove : editor.selected - 1 < editor.outline.length := by omega
    rcases swap_eq_swapEntries hlt habove with
      ⟨swapped, hswap, hentries, hlength⟩
    rw [if_pos hpositive, if_pos hpositive,
      sub_of_le (Nat.one_le_of_lt hpositive), hentries]
    simp only [Option.bind_eq_bind, Option.bind_some, hswap, Option.map_some]
    refine ⟨_, rfl, rfl, .of_lt ?_⟩
    rw [hlength]
    exact habove
  · rw [if_neg hpositive, if_neg hpositive]
    exact safe_some hrange

theorem safe_swapDown
    {editor : RegionEditor} (hrange : editor.InRange) :
    Safe (swapDown editor) editor.swapDown := by
  rw [swapDown, RegionEditor.swapDown]
  by_cases hbelow : editor.selected + 1 < editor.outline.length
  · rcases swap_eq_swapEntries (Nat.lt_of_succ_lt hbelow) hbelow with
      ⟨swapped, hswap, hentries, hlength⟩
    rw [if_pos hbelow, if_pos hbelow, hentries, hswap]
    simp only [Option.bind_eq_bind, Option.bind_some, Option.map_some]
    refine ⟨_, rfl, rfl, .of_lt ?_⟩
    rw [hlength]
    exact hbelow
  · rw [if_neg hbelow, if_neg hbelow]
    exact safe_some hrange

theorem safe_addEntry
    {editor : RegionEditor} (hrange : editor.InRange) :
    Safe (addEntry editor) (some editor.addEntry) := by
  have hle : (if editor.outline = [] then 0 else editor.selected + 1) ≤
      editor.outline.length := by
    by_cases hempty : editor.outline = []
    · rw [if_pos hempty]
      exact Nat.zero_le _
    · rw [if_neg hempty]
      exact hrange.lt_of_nonempty hempty
  rw [addEntry, RegionEditor.addEntry]
  simp only [Option.bind_eq_bind, insert_of_le hle, Option.bind_some,
    List.getElem?_insertIdx_self, if_pos hle]
  refine ⟨_, rfl, rfl, .of_lt ?_⟩
  rw [List.length_insertIdx, if_pos hle]
  exact Nat.lt_succ_of_le hle

theorem safe_rename
    {editor : RegionEditor} (hrange : editor.InRange) :
    Safe editor.rename editor.rename := by
  rw [RegionEditor.rename]
  by_cases hempty : editor.outline = []
  · rw [if_pos hempty]
    exact safe_some hrange
  · have hlt := hrange.lt_of_nonempty hempty
    rw [if_neg hempty, List.getElem?_eq_getElem hlt]
    exact ⟨_, rfl, rfl, .of_lt hlt⟩

theorem safe_delete
    {editor : RegionEditor} (hbrowsing : editor.editing = none)
    (hrange : editor.InRange) :
    Safe (delete editor) editor.delete := by
  rw [delete, RegionEditor.delete]
  by_cases hempty : editor.outline = []
  · rw [if_pos hempty, if_pos hempty]
    exact safe_some hrange
  · have hlt := hrange.lt_of_nonempty hempty
    rw [if_neg hempty, if_neg hempty, deleteOutlineEntry_eq,
      MeshController.deleteOutlineEntry, List.getElem?_eq_getElem hlt]
    refine ⟨_, rfl, rfl, .of_browsing hbrowsing ?_⟩
    rw [CursorInRange, ← List.length_eq_zero_iff]
    dsimp only
    split <;> omega

theorem browseKey_enter (editor : RegionEditor) :
    browseKey editor .enter =
      some { editor with
        result :=
          some (MeshController.regionsFromOutline editor.outline) } := by
  rw [browseKey, regionsFromOutline_eq]
  rfl

theorem safe_browseKey
    {editor : RegionEditor} (hbrowsing : editor.editing = none)
    (hrange : editor.InRange) (key : Key) :
    Safe (browseKey editor key) (editor.browseKey key) := by
  have hclosed : ∀ result,
      ({ editor with result := result } : RegionEditor).InRange :=
    fun _ => ⟨hrange.cursor, hrange.naming⟩
  unfold RegionEditor.browseKey
  split
  · exact safe_moveUp hbrowsing hrange
  · exact safe_moveDown hrange
  · exact safe_indent hrange 1
  · exact safe_indent hrange 1
  · exact safe_indent hrange (-1)
  · exact safe_indent hrange (-1)
  · exact safe_swapUp hrange
  · exact safe_swapDown hrange
  · exact safe_addEntry hrange
  · exact safe_rename hrange
  · exact safe_delete hbrowsing hrange
  · exact safe_delete hbrowsing hrange
  · exact safe_delete hbrowsing hrange
  · rw [browseKey_enter]
    exact safe_some (hclosed _)
  · exact safe_some (hclosed _)
  · unfold browseKey
    split
    all_goals first | contradiction | exact safe_some hrange

theorem safe_finishEdit
    {editor : RegionEditor}
    (hlt : editor.selected < editor.outline.length) (edit : InlineEdit)
    (typed : Option (List Char)) :
    Safe (finishEdit editor edit typed)
      (some (editor.finishEdit edit typed)) := by
  have hentry := List.getElem?_eq_getElem hlt
  have hlength : ∀ name,
      (setName editor.outline editor.selected name).length =
        editor.outline.length := by
    intro name
    simp [setName]
  rw [finishEdit, RegionEditor.finishEdit, hentry]
  simp only [Option.bind_eq_bind, Option.bind_some]
  by_cases hname : (typed.map trim).getD [] ≠ []
  · simp only [if_pos hname, write_eq_setName hentry, Option.bind_some,
      ite_self]
    refine ⟨_, rfl, rfl, .of_lt ?_⟩
    rw [hlength]
    exact hlt
  · simp only [if_neg hname]
    by_cases hadded : edit.added = true
    · rw [if_pos hadded, if_pos hadded, remove_of_lt hlt]
      refine ⟨_, rfl, rfl, .of_browsing rfl ?_⟩
      rw [CursorInRange, ← List.length_eq_zero_iff,
        List.length_eraseIdx_of_lt hlt]
      dsimp only
      omega
    · rw [if_neg hadded, if_neg hadded, write_of_lt hlt]
      refine ⟨_, rfl, ?_, .of_lt ?_⟩
      · simp
      · simpa using hlt

theorem safe_editKey
    {editor : RegionEditor}
    (hlt : editor.selected < editor.outline.length) (edit : InlineEdit)
    (key : Key) :
    Safe (editKey editor edit key) (some (editor.editKey edit key)) := by
  cases key with
  | enter => exact safe_finishEdit hlt edit (some edit.buf)
  | escape => exact safe_finishEdit hlt edit none
  | char c =>
      apply safe_some
      rw [editKey_char]
      split
      · exact .of_lt hlt
      · exact .of_lt hlt
  | _ => exact safe_some (.of_lt hlt)

/-- No key makes an open editor leave its outline. -/
theorem safe_step
    {editor : RegionEditor} (hopen : editor.result = none)
    (hrange : editor.InRange) (key : Key) :
    Safe (step editor key) (RegionEditor.step editor key) := by
  have hsome : ¬editor.result.isSome := by simp [hopen]
  rw [step, RegionEditor.step, if_neg hsome, if_neg hsome]
  cases hediting : editor.editing with
  | none => exact safe_browseKey hediting hrange key
  | some edit =>
      exact safe_editKey (hrange.naming (by rw [hediting]; rfl)) edit key

theorem exists_step_inRange
    (editor : RegionEditor) (key : Key) (hrange : editor.InRange) :
    ∃ next, step editor key = some next ∧ next.InRange := by
  cases hresult : editor.result with
  | none =>
      rcases safe_step hresult hrange key with ⟨next, hnext, _, hsafe⟩
      exact ⟨next, hnext, hsafe⟩
  | some regions =>
      use editor
      constructor
      · rw [step, hresult]
        rfl
      · exact hrange

/-- Whatever the configured regions and the keys, no index is out of range and
no subtraction underflows, and the cursor is in range afterwards. -/
theorem run_in_range (initial : List RegionConfig) (keys : List Key) :
    ∃ editor, LabelledRun.run step (.start initial) keys = some editor ∧
      editor.CursorInRange := by
  rcases LabelledRun.exists_run_of_invariant exists_step_inRange
    (inRange_start initial) keys with ⟨editor, hrun, hrange⟩
  exact ⟨editor, hrun, hrange.cursor⟩

end Indexed

end MeshController
