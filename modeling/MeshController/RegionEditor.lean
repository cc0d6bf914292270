import Mathlib.Tactic
import MeshController.LabelledRun
import MeshController.RegionTree

/-!
# The region tree editor

The setup wizard edits the outline key by key: the arrows and letters move,
nest, reorder, add, rename and delete entries, and a name is typed in place.
Indenting is clamped against the entry above and deleting promotes the subtree;
unindenting and reordering look at no neighbour.  `KeepsLevels` says when a key
leaves an outline without a skipped level, and that is exactly when the outline
shows every region below the parent it is saved with.
-/

namespace MeshController

open OrderedForest

/-! ### One operation on the outline -/

/-- `none` where the source would index out of range. -/
def clampIndent (outline : RegionOutline) (index : ℕ) (delta : ℤ) :
    Option ℕ := do
  let current := (← outline[index]?).2
  if delta > 0 then
    let maxDepth ←
      if index = 0 then some 0
      else outline[index - 1]?.map fun above => above.2 + 1
    return min (current + 1) maxDepth
  else return current - 1

def setDepth (outline : RegionOutline) (index depth : ℕ) : RegionOutline :=
  outline.modify index fun entry => (entry.1, depth)

def setName (outline : RegionOutline) (index : ℕ) (name : String) :
    RegionOutline :=
  outline.modify index fun entry => (name, entry.2)

/-- The entries which follow a removed one, its subtree one level up. -/
def promoteSubtree (depth : ℕ) : RegionOutline → RegionOutline
  | [] => []
  | entry :: rest =>
      if entry.2 > depth then
        (entry.1, entry.2 - 1) :: promoteSubtree depth rest
      else entry :: rest

def deleteOutlineEntry (outline : RegionOutline) (index : ℕ) :
    Option RegionOutline :=
  outline[index]?.map fun entry =>
    outline.take index ++ promoteSubtree entry.2 (outline.drop (index + 1))

def swapEntries (outline : RegionOutline) (i j : ℕ) :
    Option RegionOutline := do
  let first ← outline[i]?
  let second ← outline[j]?
  return (outline.set i second).set j first

/-! ### The editor -/

inductive Key where
  | char (c : Char)
  | arrowUp
  | arrowDown
  | arrowLeft
  | arrowRight
  | enter
  | escape
  | backspace
  | del
  | other
deriving DecidableEq

/-- The text typed so far for the selected entry; `added` when the entry is
the blank one which `a` has just inserted. -/
structure InlineEdit where
  buf : List Char
  added : Bool

structure RegionEditor where
  initial : List RegionConfig
  outline : RegionOutline
  selected : ℕ
  editing : Option InlineEdit
  result : Option (List RegionConfig)

def isControl (c : Char) : Bool :=
  c.val < 0x20 || (0x7f ≤ c.val && c.val ≤ 0x9f)

def isWhitespace (c : Char) : Bool :=
  (0x09 ≤ c.val && c.val ≤ 0x0d) || c.val = 0x20 || c.val = 0x85 ||
    c.val = 0xa0 || c.val = 0x1680 || (0x2000 ≤ c.val && c.val ≤ 0x200a) ||
    c.val = 0x2028 || c.val = 0x2029 || c.val = 0x202f || c.val = 0x205f ||
    c.val = 0x3000

def trim (buf : List Char) : List Char :=
  ((buf.dropWhile isWhitespace).reverse.dropWhile isWhitespace).reverse

namespace RegionEditor

def start (initial : List RegionConfig) : RegionEditor where
  initial := initial
  outline := outlineFromRegions initial
  selected := 0
  editing := none
  result := none

/-- The inline edit has ended: with a name, or blank or cancelled. -/
def finishEdit (editor : RegionEditor) (edit : InlineEdit)
    (typed : Option (List Char)) : RegionEditor :=
  let name := (typed.map trim).getD []
  if name ≠ [] then
    { editor with
      outline := setName editor.outline editor.selected (String.ofList name)
      editing := none }
  else if edit.added then
    { editor with
      outline := editor.outline.eraseIdx editor.selected
      selected := editor.selected - 1
      editing := none }
  else { editor with editing := none }

def editKey (editor : RegionEditor) (edit : InlineEdit) : Key → RegionEditor
  | .char c =>
      if isControl c then editor
      else
        { editor with editing := some { edit with buf := edit.buf ++ [c] } }
  | .backspace =>
      { editor with editing := some { edit with buf := edit.buf.dropLast } }
  | .enter => editor.finishEdit edit (some edit.buf)
  | .escape => editor.finishEdit edit none
  | _ => editor

def moveUp (editor : RegionEditor) : RegionEditor :=
  { editor with selected := editor.selected - 1 }

def moveDown (editor : RegionEditor) : RegionEditor :=
  if editor.selected + 1 < editor.outline.length then
    { editor with selected := editor.selected + 1 }
  else editor

def indent (editor : RegionEditor) (delta : ℤ) : Option RegionEditor :=
  if editor.outline = [] then some editor
  else
    (clampIndent editor.outline editor.selected delta).map fun depth =>
      { editor with
        outline := setDepth editor.outline editor.selected depth }

def swapUp (editor : RegionEditor) : Option RegionEditor :=
  if editor.selected > 0 then
    (swapEntries editor.outline editor.selected (editor.selected - 1)).map
      fun outline =>
        { editor with outline := outline, selected := editor.selected - 1 }
  else some editor

def swapDown (editor : RegionEditor) : Option RegionEditor :=
  if editor.selected + 1 < editor.outline.length then
    (swapEntries editor.outline editor.selected (editor.selected + 1)).map
      fun outline =>
        { editor with outline := outline, selected := editor.selected + 1 }
  else some editor

/-- A blank entry right after the selected one, at its depth, to be named. -/
def addEntry (editor : RegionEditor) : RegionEditor :=
  let depth := (editor.outline[editor.selected]?.map Prod.snd).getD 0
  let insertAt := if editor.outline = [] then 0 else editor.selected + 1
  { editor with
    outline := editor.outline.insertIdx insertAt ("", depth)
    selected := insertAt
    editing := some { buf := [], added := true } }

def rename (editor : RegionEditor) : Option RegionEditor :=
  if editor.outline = [] then some editor
  else
    editor.outline[editor.selected]?.map fun entry =>
      { editor with
        editing := some { buf := entry.1.toList, added := false } }

def delete (editor : RegionEditor) : Option RegionEditor :=
  if editor.outline = [] then some editor
  else
    (deleteOutlineEntry editor.outline editor.selected).map fun outline =>
      { editor with
        outline := outline
        selected :=
          if editor.selected ≥ outline.length then outline.length - 1
          else editor.selected }

def browseKey (editor : RegionEditor) : Key → Option RegionEditor
  | .arrowUp => some editor.moveUp
  | .arrowDown => some editor.moveDown
  | .arrowRight | .char 'l' => editor.indent 1
  | .arrowLeft | .char 'h' => editor.indent (-1)
  | .char 'k' => editor.swapUp
  | .char 'j' => editor.swapDown
  | .char 'a' => some editor.addEntry
  | .char 'r' => editor.rename
  | .char 'd' | .backspace | .del => editor.delete
  | .enter =>
      some { editor with result := some (regionsFromOutline editor.outline) }
  | .escape => some { editor with result := some editor.initial }
  | _ => some editor

/-- `none` for a key after the editor has closed. -/
def step (editor : RegionEditor) (key : Key) : Option RegionEditor :=
  if editor.result.isSome then none
  else
    match editor.editing with
    | some edit => some (editor.editKey edit key)
    | none => editor.browseKey key

end RegionEditor

/-! ### What an operation does to the levels -/

/-- Unindenting leaves no child two levels below. -/
def UnindentKeeps (outline : RegionOutline) (index : ℕ) : Prop :=
  ∀ entry ∈ outline[index]?, ∀ next ∈ outline[index + 1]?,
    0 < entry.2 → next.2 ≤ entry.2

/-- The two entries fit where they come to stand, and so does the one which
follows them. -/
def SwapKeeps (outline : RegionOutline) (index : ℕ) : Prop :=
  ∀ upper ∈ outline[index]?, ∀ lower ∈ outline[index + 1]?,
    lower.2 ≤ boundAfter 0 (outline.take index) ∧
      upper.2 ≤ lower.2 + 1 ∧
      ∀ next ∈ outline[index + 2]?, next.2 ≤ upper.2 + 1

instance decidableUnindentKeeps (outline : RegionOutline) (index : ℕ) :
    Decidable (UnindentKeeps outline index) :=
  inferInstanceAs (Decidable (∀ entry ∈ outline[index]?,
    ∀ next ∈ outline[index + 1]?, 0 < entry.2 → next.2 ≤ entry.2))

instance decidableSwapKeeps (outline : RegionOutline) (index : ℕ) :
    Decidable (SwapKeeps outline index) :=
  inferInstanceAs (Decidable (∀ upper ∈ outline[index]?,
    ∀ lower ∈ outline[index + 1]?,
      lower.2 ≤ boundAfter 0 (outline.take index) ∧
        upper.2 ≤ lower.2 + 1 ∧
        ∀ next ∈ outline[index + 2]?, next.2 ≤ upper.2 + 1))

theorem exists_split_of_lt
    {outline : RegionOutline} {index : ℕ} (hlt : index < outline.length) :
    ∃ before entry after, outline = before ++ entry :: after ∧
      before.length = index := by
  refine ⟨outline.take index, outline[index], outline.drop (index + 1), ?_, ?_⟩
  · rw [List.getElem_cons_drop, List.take_append_drop]
  · rw [List.length_take, min_eq_left hlt.le]

theorem noSkippedLevel_split
    (before : RegionOutline) (entry : String × ℕ) (after : RegionOutline) :
    NoSkippedLevel (before ++ entry :: after) ↔
      NoSkippedLevel before ∧ entry.2 ≤ boundAfter 0 before ∧
        WellNested (entry.2 + 1) after := by
  rw [NoSkippedLevel, wellNested_append, wellNested_cons]

theorem wellNested_iff_of_depths
    {first second : RegionOutline} (bound : ℕ)
    (hdepths : first.map Prod.snd = second.map Prod.snd) :
    WellNested bound first ↔ WellNested bound second := by
  induction first generalizing bound second with
  | nil =>
      rw [List.map_nil, eq_comm, List.map_eq_nil_iff] at hdepths
      rw [hdepths]
  | cons entry rest ih =>
      cases second with
      | nil => simp at hdepths
      | cons other others =>
          simp only [List.map_cons, List.cons.injEq] at hdepths
          rw [wellNested_cons, wellNested_cons, hdepths.1,
            ih (other.2 + 1) hdepths.2]

theorem depths_setName
    (outline : RegionOutline) (index : ℕ) (name : String) :
    (setName outline index name).map Prod.snd = outline.map Prod.snd := by
  induction outline generalizing index with
  | nil => simp [setName]
  | cons entry rest ih =>
      cases index with
      | zero => rfl
      | succ index => simpa [setName] using ih index

theorem noSkippedLevel_setName_iff
    (outline : RegionOutline) (index : ℕ) (name : String) :
    NoSkippedLevel (setName outline index name) ↔
      NoSkippedLevel outline := by
  exact wellNested_iff_of_depths 0 (depths_setName outline index name)

theorem setDepth_split
    (before : RegionOutline) (entry : String × ℕ) (after : RegionOutline)
    (depth : ℕ) :
    setDepth (before ++ entry :: after) before.length depth =
      before ++ (entry.1, depth) :: after := by
  simp [setDepth, List.modify_eq_set_getElem?]

theorem clampIndent_split
    (before : RegionOutline) (entry : String × ℕ) (after : RegionOutline) :
    clampIndent (before ++ entry :: after) before.length 1 =
      some (min (entry.2 + 1) (boundAfter 0 before)) := by
  induction before using List.reverseRecOn with
  | nil => simp [clampIndent]
  | append_singleton before above _ =>
      simp [clampIndent, boundAfter_append_singleton]

theorem clampIndent_neg_split
    (before : RegionOutline) (entry : String × ℕ) (after : RegionOutline) :
    clampIndent (before ++ entry :: after) before.length (-1) =
      some (entry.2 - 1) := by
  simp [clampIndent]

theorem noSkippedLevel_indent
    {before : RegionOutline} {entry : String × ℕ} {after : RegionOutline}
    (hlevels : NoSkippedLevel (before ++ entry :: after)) :
    NoSkippedLevel (before ++
      (entry.1, min (entry.2 + 1) (boundAfter 0 before)) :: after) := by
  rw [noSkippedLevel_split] at hlevels ⊢
  obtain ⟨hbefore, hentry, hafter⟩ := hlevels
  refine ⟨hbefore, min_le_right _ _, hafter.mono ?_⟩
  have hle : entry.2 ≤ min (entry.2 + 1) (boundAfter 0 before) :=
    le_min (Nat.le_succ _) hentry
  exact Nat.succ_le_succ hle

theorem noSkippedLevel_unindent_iff
    {before : RegionOutline} {entry : String × ℕ} {after : RegionOutline}
    (hlevels : NoSkippedLevel (before ++ entry :: after)) :
    NoSkippedLevel (before ++ (entry.1, entry.2 - 1) :: after) ↔
      UnindentKeeps (before ++ entry :: after) before.length := by
  rw [noSkippedLevel_split] at hlevels ⊢
  obtain ⟨hbefore, hentry, hafter⟩ := hlevels
  have hfits : entry.2 - 1 ≤ boundAfter 0 before :=
    (Nat.sub_le _ _).trans hentry
  cases after with
  | nil => simp [UnindentKeeps, hbefore, hfits]
  | cons next rest =>
      have hnext : next.2 ≤ entry.2 + 1 := hafter.1
      have hkeeps : UnindentKeeps (before ++ entry :: next :: rest)
          before.length ↔ (0 < entry.2 → next.2 ≤ entry.2) := by
        simp [UnindentKeeps]
      simp only [hkeeps, hbefore, hfits, wellNested_cons, hafter.2, true_and,
        and_true]
      omega

theorem noSkippedLevel_swap_iff
    {before : RegionOutline} {upper lower : String × ℕ}
    {after : RegionOutline}
    (hlevels : NoSkippedLevel (before ++ upper :: lower :: after)) :
    NoSkippedLevel (before ++ lower :: upper :: after) ↔
      SwapKeeps (before ++ upper :: lower :: after) before.length := by
  rw [noSkippedLevel_split] at hlevels ⊢
  obtain ⟨hbefore, _, _, hafter⟩ := hlevels
  cases after with
  | nil => simp [SwapKeeps, hbefore]
  | cons next rest =>
      simp [SwapKeeps, hbefore, hafter.2]

theorem exists_swapEntries
    {outline : RegionOutline} {index : ℕ} (hlevels : NoSkippedLevel outline)
    (hlt : index + 1 < outline.length) :
    ∃ swapped, swapEntries outline index (index + 1) = some swapped ∧
      swapEntries outline (index + 1) index = some swapped ∧
      swapped.length = outline.length ∧
      (NoSkippedLevel swapped ↔ SwapKeeps outline index) := by
  obtain ⟨before, upper, rest, rfl, rfl⟩ :=
    exists_split_of_lt (Nat.lt_of_succ_lt hlt)
  cases rest with
  | nil => simp at hlt
  | cons lower after =>
      refine ⟨before ++ lower :: upper :: after, ?_, ?_, by simp,
        noSkippedLevel_swap_iff hlevels⟩
      · simp [swapEntries]
      · simp [swapEntries]

theorem wellNested_promoteSubtree
    {rest : RegionOutline} {removed depth : ℕ} (hle : removed ≤ depth)
    (hrest : WellNested (depth + 1) rest) :
    WellNested depth (promoteSubtree removed rest) := by
  induction rest generalizing depth with
  | nil => trivial
  | cons entry rest ih =>
      obtain ⟨hentry, hlater⟩ := hrest
      by_cases hbelow : entry.2 > removed
      · rw [promoteSubtree, if_pos hbelow, wellNested_cons]
        have hlevel : entry.2 - 1 + 1 = entry.2 := by omega
        refine ⟨by simp only; omega, ?_⟩
        rw [hlevel]
        exact ih (by omega) hlater
      · rw [promoteSubtree, if_neg hbelow]
        exact ⟨by omega, hlater⟩

theorem deleteOutlineEntry_split
    (before : RegionOutline) (entry : String × ℕ) (after : RegionOutline) :
    deleteOutlineEntry (before ++ entry :: after) before.length =
      some (before ++ promoteSubtree entry.2 after) := by
  simp [deleteOutlineEntry]

theorem noSkippedLevel_delete
    {before : RegionOutline} {entry : String × ℕ} {after : RegionOutline}
    (hlevels : NoSkippedLevel (before ++ entry :: after)) :
    NoSkippedLevel (before ++ promoteSubtree entry.2 after) := by
  rw [noSkippedLevel_split] at hlevels
  obtain ⟨hbefore, hentry, hafter⟩ := hlevels
  rw [NoSkippedLevel, wellNested_append]
  exact ⟨hbefore, (wellNested_promoteSubtree le_rfl hafter).mono hentry⟩

theorem insertIdx_split
    (before : RegionOutline) (entry added : String × ℕ)
    (after : RegionOutline) :
    (before ++ entry :: after).insertIdx (before.length + 1) added =
      before ++ entry :: added :: after := by
  induction before with
  | nil => rfl
  | cons first rest ih => simpa using ih

theorem noSkippedLevel_insert
    {before : RegionOutline} {entry : String × ℕ} {after : RegionOutline}
    (hlevels : NoSkippedLevel (before ++ entry :: after)) :
    NoSkippedLevel (before ++ entry :: ("", entry.2) :: after) := by
  rw [noSkippedLevel_split] at hlevels ⊢
  obtain ⟨hbefore, hentry, hafter⟩ := hlevels
  exact ⟨hbefore, hentry, Nat.le_succ _, hafter⟩

/-! ### What a key does to the levels -/

namespace RegionEditor

/-- The cursor is on an entry unless there is none, and without a blank entry
which is being named the outline skips no level either. -/
structure Sound (editor : RegionEditor) : Prop where
  cursor : editor.selected < editor.outline.length ∨
    editor.outline = [] ∧ editor.selected = 0
  removable : ∀ edit, editor.editing = some edit → edit.added = true →
    NoSkippedLevel (editor.outline.eraseIdx editor.selected)

/-- The keys which leave every entry at most one level below the entry above
it. -/
def KeepsLevels (editor : RegionEditor) (key : Key) : Prop :=
  editor.editing = none →
    ((key = .arrowLeft ∨ key = .char 'h') →
      UnindentKeeps editor.outline editor.selected) ∧
    (key = .char 'k' → 0 < editor.selected →
      SwapKeeps editor.outline (editor.selected - 1)) ∧
    (key = .char 'j' → SwapKeeps editor.outline editor.selected)

instance decidableKeepsLevels (editor : RegionEditor) (key : Key) :
    Decidable (KeepsLevels editor key) :=
  inferInstanceAs (Decidable (editor.editing = none →
    ((key = .arrowLeft ∨ key = .char 'h') →
      UnindentKeeps editor.outline editor.selected) ∧
    (key = .char 'k' → 0 < editor.selected →
      SwapKeeps editor.outline (editor.selected - 1)) ∧
    (key = .char 'j' → SwapKeeps editor.outline editor.selected)))

theorem sound_start (initial : List RegionConfig) : (start initial).Sound := by
  constructor
  · cases houtline : outlineFromRegions initial with
    | nil => exact Or.inr ⟨houtline, rfl⟩
    | cons entry rest =>
        left
        simp [start, houtline]
  · intro edit hedit
    simp [start] at hedit

theorem Sound.of_browsing
    {editor : RegionEditor} (hbrowsing : editor.editing = none)
    (hcursor : editor.selected < editor.outline.length ∨
      editor.outline = [] ∧ editor.selected = 0) :
    editor.Sound := by
  refine ⟨hcursor, ?_⟩
  intro edit hedit
  rw [hbrowsing] at hedit
  cases hedit

theorem Sound.exists_split
    {editor : RegionEditor} (hsound : editor.Sound)
    (hnonempty : editor.outline ≠ []) :
    ∃ before entry after, editor.outline = before ++ entry :: after ∧
      before.length = editor.selected := by
  rcases hsound.cursor with hlt | ⟨hempty, _⟩
  · exact exists_split_of_lt hlt
  · exact absurd hempty hnonempty

/-- An operation succeeds, and it keeps the levels exactly under `Keeps`. -/
def Yields (outcome : Option RegionEditor) (Keeps : Prop) : Prop :=
  ∃ next, outcome = some next ∧ next.Sound ∧
    (NoSkippedLevel next.outline ↔ Keeps)

theorem yields_self
    {editor : RegionEditor} (hsound : editor.Sound)
    (hlevels : NoSkippedLevel editor.outline) : Yields (some editor) True :=
  ⟨editor, rfl, hsound, by simp [hlevels]⟩

theorem yields_addEntry
    {editor : RegionEditor} (hsound : editor.Sound)
    (hlevels : NoSkippedLevel editor.outline) :
    Yields (some editor.addEntry) True := by
  have hremovable : NoSkippedLevel
      (editor.addEntry.outline.eraseIdx editor.addEntry.selected) := by
    simpa [addEntry, List.eraseIdx_insertIdx_self] using hlevels
  by_cases hempty : editor.outline = []
  · refine ⟨_, rfl, ⟨?_, fun _ _ _ => hremovable⟩, ?_⟩
    · left
      simp [addEntry, hempty]
    · simp [addEntry, hempty]
  · obtain ⟨before, entry, after, houtline, hlength⟩ :=
      hsound.exists_split hempty
    have hadded : editor.addEntry.outline =
        before ++ entry :: ("", entry.2) :: after := by
      simp [addEntry, houtline, ← hlength, insertIdx_split]
    refine ⟨_, rfl, ⟨?_, fun _ _ _ => hremovable⟩, ?_⟩
    · left
      rw [hadded]
      simp [addEntry, hempty, ← hlength]
    · rw [houtline] at hlevels
      rw [hadded]
      simpa using noSkippedLevel_insert hlevels

theorem yields_rename
    {editor : RegionEditor} (hsound : editor.Sound)
    (hlevels : NoSkippedLevel editor.outline) :
    Yields editor.rename True := by
  by_cases hempty : editor.outline = []
  · rw [rename, if_pos hempty]
    exact yields_self hsound hlevels
  · obtain ⟨before, entry, after, houtline, hlength⟩ :=
      hsound.exists_split hempty
    have hentry : editor.outline[editor.selected]? = some entry := by
      simp [houtline, ← hlength]
    rw [rename, if_neg hempty, hentry]
    refine ⟨_, rfl, ⟨hsound.cursor, ?_⟩, by simpa using hlevels⟩
    rintro edit ⟨⟩ hadded
    cases hadded

section Browsing

variable {editor : RegionEditor} (hbrowsing : editor.editing = none)
  (hsound : editor.Sound) (hlevels : NoSkippedLevel editor.outline)

include hbrowsing hsound hlevels

theorem yields_moveUp : Yields (some editor.moveUp) True := by
  refine ⟨_, rfl, .of_browsing hbrowsing ?_, by simpa [moveUp] using hlevels⟩
  rcases hsound.cursor with hlt | ⟨hempty, hzero⟩
  · exact Or.inl ((Nat.sub_le _ _).trans_lt hlt)
  · exact Or.inr ⟨hempty, by simp [moveUp, hzero]⟩

theorem yields_moveDown : Yields (some editor.moveDown) True := by
  by_cases hlt : editor.selected + 1 < editor.outline.length
  · rw [moveDown, if_pos hlt]
    exact ⟨_, rfl, .of_browsing hbrowsing (Or.inl hlt), by simpa using hlevels⟩
  · rw [moveDown, if_neg hlt]
    exact yields_self hsound hlevels

theorem yields_indent : Yields (editor.indent 1) True := by
  by_cases hempty : editor.outline = []
  · rw [indent, if_pos hempty]
    exact yields_self hsound hlevels
  · obtain ⟨before, entry, after, houtline, hlength⟩ :=
      hsound.exists_split hempty
    rw [indent, if_neg hempty, houtline, ← hlength, clampIndent_split]
    rw [houtline] at hlevels
    refine ⟨_, rfl, .of_browsing hbrowsing ?_, ?_⟩
    · simp [setDepth_split]
    · simpa [setDepth_split] using noSkippedLevel_indent hlevels

theorem yields_unindent :
    Yields (editor.indent (-1))
      (UnindentKeeps editor.outline editor.selected) := by
  by_cases hempty : editor.outline = []
  · rw [indent, if_pos hempty]
    refine ⟨editor, rfl, hsound, ?_⟩
    simp [UnindentKeeps, hempty]
  · obtain ⟨before, entry, after, houtline, hlength⟩ :=
      hsound.exists_split hempty
    rw [indent, if_neg hempty, houtline, ← hlength, clampIndent_neg_split]
    rw [houtline] at hlevels
    refine ⟨_, rfl, .of_browsing hbrowsing ?_, ?_⟩
    · simp [setDepth_split]
    · simpa [setDepth_split] using noSkippedLevel_unindent_iff hlevels

theorem yields_swapUp :
    Yields editor.swapUp
      (0 < editor.selected →
        SwapKeeps editor.outline (editor.selected - 1)) := by
  by_cases hpositive : editor.selected > 0
  · have hlt : editor.selected < editor.outline.length := by
      rcases hsound.cursor with hlt | ⟨_, hzero⟩
      · exact hlt
      · omega
    have hselected : editor.selected - 1 + 1 = editor.selected := by omega
    obtain ⟨outline, _, hswap, hlength, hkeeps⟩ :=
      exists_swapEntries hlevels (hselected.symm ▸ hlt)
    rw [hselected] at hswap
    rw [swapUp, if_pos hpositive, hswap]
    refine ⟨_, rfl, .of_browsing hbrowsing (Or.inl ?_), ?_⟩
    · simp only [hlength]
      omega
    · simp only [hkeeps, hpositive, true_imp_iff]
  · rw [swapUp, if_neg hpositive]
    exact ⟨editor, rfl, hsound, by simp [hlevels, hpositive]⟩

theorem yields_swapDown :
    Yields editor.swapDown (SwapKeeps editor.outline editor.selected) := by
  by_cases hlt : editor.selected + 1 < editor.outline.length
  · obtain ⟨outline, hswap, _, hlength, hkeeps⟩ :=
      exists_swapEntries hlevels hlt
    rw [swapDown, if_pos hlt, hswap]
    refine ⟨_, rfl, .of_browsing hbrowsing (Or.inl ?_), hkeeps⟩
    simpa only [hlength] using hlt
  · rw [swapDown, if_neg hlt]
    refine ⟨editor, rfl, hsound, ?_⟩
    have hnext : editor.outline[editor.selected + 1]? = none := by
      rw [List.getElem?_eq_none_iff]
      omega
    simp [hlevels, SwapKeeps, hnext]

theorem yields_delete : Yields editor.delete True := by
  by_cases hempty : editor.outline = []
  · rw [delete, if_pos hempty]
    exact yields_self hsound hlevels
  · obtain ⟨before, entry, after, houtline, hlength⟩ :=
      hsound.exists_split hempty
    rw [delete, if_neg hempty, houtline, ← hlength, deleteOutlineEntry_split]
    rw [houtline] at hlevels
    refine ⟨_, rfl, .of_browsing hbrowsing ?_, ?_⟩
    · simp only [List.length_append]
      cases hrest : promoteSubtree entry.2 after with
      | nil =>
          cases hbefore : before with
          | nil => simp
          | cons first others => simp
      | cons first others => simp
    · simpa using noSkippedLevel_delete hlevels

theorem yields_browseKey (key : Key) :
    Yields (editor.browseKey key) (KeepsLevels editor key) := by
  -- the keys which keep the levels of any outline
  have hplain : ∀ outcome, Yields outcome True →
      key ∉ ([.arrowLeft, .char 'h', .char 'k', .char 'j'] : List Key) →
        Yields outcome (KeepsLevels editor key) := by
    rintro outcome ⟨next, hnext, hsoundnext, hkeeps⟩ hother
    simp only [List.mem_cons, List.not_mem_nil, or_false, not_or] at hother
    obtain ⟨hleft, hh, hk, hj⟩ := hother
    refine ⟨next, hnext, hsoundnext, hkeeps.trans ?_⟩
    simp [KeepsLevels, hleft, hh, hk, hj]
  have hclosed : ∀ result,
      Yields (some { editor with result := result }) True := fun result =>
    ⟨_, rfl, ⟨hsound.cursor, hsound.removable⟩, by simpa using hlevels⟩
  unfold browseKey
  split
  · exact hplain _ (yields_moveUp hbrowsing hsound hlevels) (by simp)
  · exact hplain _ (yields_moveDown hbrowsing hsound hlevels) (by simp)
  · exact hplain _ (yields_indent hbrowsing hsound hlevels) (by simp)
  · exact hplain _ (yields_indent hbrowsing hsound hlevels) (by simp)
  · simpa [KeepsLevels, hbrowsing] using
      yields_unindent hbrowsing hsound hlevels
  · simpa [KeepsLevels, hbrowsing] using
      yields_unindent hbrowsing hsound hlevels
  · simpa [KeepsLevels, hbrowsing] using
      yields_swapUp hbrowsing hsound hlevels
  · simpa [KeepsLevels, hbrowsing] using
      yields_swapDown hbrowsing hsound hlevels
  · exact hplain _ (yields_addEntry hsound hlevels) (by simp)
  · exact hplain _ (yields_rename hsound hlevels) (by simp)
  · exact hplain _ (yields_delete hbrowsing hsound hlevels) (by simp)
  · exact hplain _ (yields_delete hbrowsing hsound hlevels) (by simp)
  · exact hplain _ (yields_delete hbrowsing hsound hlevels) (by simp)
  · exact hplain _ (hclosed _) (by simp)
  · exact hplain _ (hclosed _) (by simp)
  · apply hplain _ (yields_self hsound hlevels)
    simp only [List.mem_cons, List.not_mem_nil, or_false, not_or]
    exact ⟨by assumption, by assumption, by assumption, by assumption⟩

end Browsing

theorem sound_finishEdit
    {editor : RegionEditor} (hsound : editor.Sound)
    (hlevels : NoSkippedLevel editor.outline) {edit : InlineEdit}
    (hediting : editor.editing = some edit) (typed : Option (List Char)) :
    (editor.finishEdit edit typed).Sound ∧
      NoSkippedLevel (editor.finishEdit edit typed).outline := by
  by_cases hname : (typed.map trim).getD [] ≠ []
  · rw [finishEdit, if_pos hname]
    have hlength := congrArg List.length
      (depths_setName editor.outline editor.selected
        (String.ofList ((typed.map trim).getD [])))
    simp only [List.length_map] at hlength
    refine ⟨.of_browsing rfl ?_, (noSkippedLevel_setName_iff _ _ _).mpr hlevels⟩
    rcases hsound.cursor with hlt | ⟨hempty, hzero⟩
    · exact Or.inl (hlength.symm ▸ hlt)
    · exact Or.inr ⟨by simp [setName, hempty], hzero⟩
  · rw [finishEdit, if_neg hname]
    by_cases hadded : edit.added
    · rw [if_pos hadded]
      refine ⟨.of_browsing rfl ?_, hsound.removable edit hediting hadded⟩
      rcases hsound.cursor with hlt | ⟨hempty, hzero⟩
      · have hlength := List.length_eraseIdx_of_lt hlt
        simp only [hlength]
        by_cases hlast : editor.outline.length = 1
        · right
          refine ⟨List.eq_nil_of_length_eq_zero ?_, by omega⟩
          omega
        · left
          omega
      · exact Or.inr ⟨by simp [hempty], by simp [hzero]⟩
    · rw [if_neg hadded]
      exact ⟨.of_browsing rfl hsound.cursor, hlevels⟩

theorem editKey_char
    (editor : RegionEditor) (edit : InlineEdit) (c : Char) :
    editor.editKey edit (.char c) =
      if isControl c then editor
      else
        { editor with editing := some { edit with buf := edit.buf ++ [c] } } :=
  rfl

theorem sound_editKey
    {editor : RegionEditor} (hsound : editor.Sound)
    (hlevels : NoSkippedLevel editor.outline) {edit : InlineEdit}
    (hediting : editor.editing = some edit) (key : Key) :
    (editor.editKey edit key).Sound ∧
      NoSkippedLevel (editor.editKey edit key).outline := by
  have hbuffer : ∀ buf,
      ({ editor with editing := some { edit with buf := buf } } :
        RegionEditor).Sound := by
    intro buf
    refine ⟨hsound.cursor, ?_⟩
    rintro _ ⟨⟩ hadded
    exact hsound.removable edit hediting hadded
  cases key with
  | char c =>
      by_cases hcontrol : isControl c
      · rw [editKey_char, if_pos hcontrol]
        exact ⟨hsound, hlevels⟩
      · rw [editKey_char, if_neg hcontrol]
        exact ⟨hbuffer _, hlevels⟩
  | backspace => exact ⟨hbuffer _, hlevels⟩
  | enter => exact sound_finishEdit hsound hlevels hediting _
  | escape => exact sound_finishEdit hsound hlevels hediting none
  | arrowUp => exact ⟨hsound, hlevels⟩
  | arrowDown => exact ⟨hsound, hlevels⟩
  | arrowLeft => exact ⟨hsound, hlevels⟩
  | arrowRight => exact ⟨hsound, hlevels⟩
  | del => exact ⟨hsound, hlevels⟩
  | other => exact ⟨hsound, hlevels⟩

/-- An open editor takes every key, and the key skips no level exactly when
it keeps the levels. -/
theorem yields_step
    {editor : RegionEditor} (hopen : editor.result = none)
    (hsound : editor.Sound) (hlevels : NoSkippedLevel editor.outline)
    (key : Key) : Yields (step editor key) (KeepsLevels editor key) := by
  rw [step, if_neg (by simp [hopen])]
  cases hediting : editor.editing with
  | none => exact yields_browseKey hediting hsound hlevels key
  | some edit =>
      obtain ⟨hnext, hkept⟩ := sound_editKey hsound hlevels hediting key
      exact ⟨_, rfl, hnext, by simp [hkept, KeepsLevels, hediting]⟩

/-- An open editor takes every key: none makes it index out of range. -/
theorem step_eq_some_iff_open
    {editor : RegionEditor} (hsound : editor.Sound)
    (hlevels : NoSkippedLevel editor.outline) (key : Key) :
    (∃ next, step editor key = some next) ↔ editor.result = none := by
  constructor
  · rintro ⟨next, hstep⟩
    by_contra hclosed
    rw [step, if_pos (by simpa [Option.isSome_iff_ne_none] using hclosed)]
      at hstep
    cases hstep
  · intro hopen
    obtain ⟨next, hnext, _⟩ := yields_step hopen hsound hlevels key
    exact ⟨next, hnext⟩

end RegionEditor

/-! ### What the editor shows and what it saves -/

/-- Every entry below the one it is indented under. -/
def shownRegions (outline : RegionOutline) : List RegionConfig :=
  outline.mapIdx fun i entry =>
    { name := entry.1
      parent := nearestShallower (outline.take i) entry.2 }

/-- The outline skips no level, every entry is saved below the entry it is
shown under, and every indented entry is saved below some entry. -/
structure ShownAsSaved (outline : RegionOutline) : Prop where
  levels : NoSkippedLevel outline
  displayed : regionsFromOutline outline = shownRegions outline
  indented : ∀ (i : ℕ) (entry : String × ℕ),
    outline[i]? = some entry → 0 < entry.2 → ∃ parent : String,
      (regionsFromOutline outline)[i]? =
        some { name := entry.1, parent := some parent }

theorem getElem?_regionsFromOutline (outline : RegionOutline) (i : ℕ) :
    (regionsFromOutline outline)[i]? = outline[i]?.map fun entry =>
      { name := entry.1
        parent := parentAfter (outline.take i) entry.2 } := by
  rw [regionsFromOutline, List.getElem?_mapIdx]
  congr 1
  funext entry
  obtain ⟨name, depth⟩ := entry
  cases depth <;> simp [parentAfter]

theorem shownAsSaved_iff (outline : RegionOutline) :
    ShownAsSaved outline ↔ NoSkippedLevel outline := by
  refine ⟨ShownAsSaved.levels, ?_⟩
  intro hlevels
  have hsplit : ∀ (i : ℕ) entry, outline[i]? = some entry →
      NoSkippedLevel (outline.take i) ∧
        entry.2 ≤ boundAfter 0 (outline.take i) := by
    intro i entry hentry
    obtain ⟨hlt, hget⟩ := List.getElem?_eq_some_iff.mp hentry
    rw [← List.take_append_drop i outline, List.drop_eq_getElem_cons hlt, hget,
      noSkippedLevel_split] at hlevels
    exact ⟨hlevels.1, hlevels.2.1⟩
  refine ⟨hlevels, ?_, ?_⟩
  · apply List.ext_getElem?
    intro i
    rw [getElem?_regionsFromOutline, shownRegions, List.getElem?_mapIdx]
    cases hentry : outline[i]? with
    | none => rfl
    | some entry =>
        obtain ⟨hbefore, hdepth⟩ := hsplit i entry hentry
        simp [parentAfter_eq_nearestShallower hbefore hdepth]
  · intro i entry hentry hpositive
    obtain ⟨hbefore, hdepth⟩ := hsplit i entry hentry
    obtain ⟨parent, hparent⟩ :=
      Option.isSome_iff_exists.mp (isSome_parentAfter hbefore hdepth hpositive)
    refine ⟨parent, ?_⟩
    rw [getElem?_regionsFromOutline, hentry, Option.map_some, hparent]

/-- From any configured regions, the editor shows what it would save after
every key if and only if every key keeps the levels. -/
theorem regionEditor_shownAsSaved_iff
    {initial : List RegionConfig} {keys : List Key} {final : RegionEditor}
    (hrun : LabelledRun.run RegionEditor.step (.start initial) keys =
      some final) :
    LabelledRun.MeetsAlong RegionEditor.step RegionEditor.KeepsLevels
        (.start initial) keys ↔
      ∀ before editor, before <+: keys →
        LabelledRun.run RegionEditor.step (.start initial) before =
          some editor → ShownAsSaved editor.outline := by
  refine LabelledRun.meetsAlong_iff_holds_along ?_
    (RegionEditor.sound_start initial) ?_ hrun
  · intro editor key next hsound hshown hstep
    have hlevels := hshown.levels
    have hopen := (RegionEditor.step_eq_some_iff_open hsound hlevels key).mp
      ⟨next, hstep⟩
    obtain ⟨other, hother, hnext, hkeeps⟩ :=
      RegionEditor.yields_step hopen hsound hlevels key
    rw [hstep, Option.some.injEq] at hother
    subst hother
    exact ⟨hnext, (shownAsSaved_iff _).trans hkeeps⟩
  · exact (shownAsSaved_iff _).mpr (noSkippedLevel_outlineFromRegions initial)

/-- Asia is moved below Europe, next to France. -/
theorem regionEditor_shownAsSaved_moves :
    ShownAsSaved [("World", 0), ("Europe", 1), ("France", 2), ("Asia", 2)] := by
  let keys : List Key :=
    [.arrowDown, .arrowDown, .arrowDown, .arrowRight]
  have hrun : LabelledRun.run RegionEditor.step (.start europeanRegions) keys =
      some
        { initial := europeanRegions
          outline :=
            [("World", 0), ("Europe", 1), ("France", 2), ("Asia", 2)]
          selected := 3
          editing := none
          result := none } := rfl
  exact (regionEditor_shownAsSaved_iff hrun).mp (by decide) keys _
    List.prefix_rfl hrun

/-- Europe is unindented and leaves France two levels below nothing. -/
theorem regionEditor_unindent_skips_level :
    ¬∀ initial keys final,
      LabelledRun.run RegionEditor.step (.start initial) keys = some final →
        ShownAsSaved final.outline := by
  intro hall
  have hshown := hall europeanRegions [.arrowDown, .arrowLeft] _ rfl
  have hlevels : NoSkippedLevel
      [("World", 0), ("Europe", 0), ("France", 2), ("Asia", 1)] :=
    hshown.levels
  revert hlevels
  decide

end MeshController
