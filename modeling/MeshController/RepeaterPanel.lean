import MeshController.Ipc
import MeshController.StableSort

/-!
# The Repeaters panel

Which contacts the panel shows and in which order: the repeaters and room
servers whose group is not hidden, sorted by the chosen order and, if asked
for, by group first.
-/

namespace MeshController

/-- What the panel takes from elsewhere: lowercasing by the Unicode tables, the
distance, which is computed in floating point, and the row a table is left
with by drawing it with a number of rows. -/
class PanelLibrary where
  toLowercase : String → String
  haversineKm : ℚ × ℚ → ℚ × ℚ → ℚ
  drawnSelection : Option ℕ → ℕ → Option ℕ

inductive RepeaterGroup where
  | managed
  | supervised
  | known
  | discovered
deriving DecidableEq

/-- The order in which the groups are declared. -/
def RepeaterGroup.order : RepeaterGroup → ℕ
  | .managed => 0
  | .supervised => 1
  | .known => 2
  | .discovered => 3

def repeaterGroup (c : ContactDto) : RepeaterGroup :=
  match c.repeaterStatus, c.registered with
  | some .managed, _ => .managed
  | some .supervised, _ => .supervised
  | some .known, _ => .known
  | none, true => .known
  | none, false => .discovered

inductive RepeaterSort where
  | lastHeard
  | name
  | distance
deriving DecidableEq

structure RepeaterFilter where
  showManaged : Bool
  showSupervised : Bool
  showKnown : Bool
  showDiscovered : Bool
  sort : RepeaterSort
  groupByType : Bool
deriving DecidableEq

def RepeaterFilter.default : RepeaterFilter where
  showManaged := true
  showSupervised := true
  showKnown := true
  showDiscovered := true
  sort := .lastHeard
  groupByType := false

def RepeaterFilter.shows (filter : RepeaterFilter) : RepeaterGroup → Bool
  | .managed => filter.showManaged
  | .supervised => filter.showSupervised
  | .known => filter.showKnown
  | .discovered => filter.showDiscovered

/-- Without the regional indicators a flag is made of. -/
def stripFlagEmoji (text : String) : String :=
  String.ofList (text.toList.filter fun c =>
    !(0x1F1E6 ≤ c.toNat && c.toNat ≤ 0x1F1FF))

/-! ## The order of the panel -/

/-- An unknown distance comes last. -/
def compareDistances : Option ℚ → Option ℚ → Ordering
  | some first, some second => compare first second
  | some _, none => .lt
  | none, some _ => .gt
  | none, none => .eq

instance : Std.TransCmp compareDistances where
  eq_swap := by
    rintro (_ | first) (_ | second)
    · rfl
    · rfl
    · rfl
    · exact @Std.OrientedCmp.eq_swap ℚ compare _ first second
  isLE_trans := by
    rintro (_ | first) (_ | second) (_ | third) hfirst hsecond
    · rfl
    · cases hsecond
    · rfl
    · cases hfirst
    · rfl
    · cases hsecond
    · rfl
    · exact @Std.TransCmp.isLE_trans ℚ compare _ first second third hfirst
        hsecond

theorem transCmp_on
    {Entry Key : Type*} (cmp : Key → Key → Ordering) [Std.TransCmp cmp]
    (key : Entry → Key) : Std.TransCmp fun a b => cmp (key a) (key b) where
  eq_swap {a b} := @Std.OrientedCmp.eq_swap Key cmp _ (key a) (key b)
  isLE_trans {a b c} :=
    @Std.TransCmp.isLE_trans Key cmp _ (key a) (key b) (key c)

def isUnknownPosition (pos : ℚ × ℚ) : Bool := pos.1 = 0 && pos.2 = 0

section Order

variable [PanelLibrary]

def distanceFromObserver
    (c : ContactDto) (observerPosition : Option (ℚ × ℚ)) : Option ℚ :=
  match observerPosition.filter fun p => !isUnknownPosition p with
  | none => none
  | some observerPosition =>
      if isUnknownPosition (c.lat, c.lon) then none
      else some (PanelLibrary.haversineKm observerPosition (c.lat, c.lon))

def compareBySort
    (sort : RepeaterSort) (observerPosition : Option (ℚ × ℚ)) :
    ContactDto → ContactDto → Ordering :=
  match sort with
  | .lastHeard => fun a b => compare b.lastAdvertUnix a.lastAdvertUnix
  | .name =>
      compareOn fun c =>
        PanelLibrary.toLowercase (stripFlagEmoji c.name)
  | .distance => fun a b =>
      compareDistances (distanceFromObserver a observerPosition)
        (distanceFromObserver b observerPosition)

def compareGroups (groupByType : Bool) (a b : ContactDto) : Ordering :=
  if groupByType then
    compare (repeaterGroup a).order (repeaterGroup b).order
  else .eq

/-- The comparison of `sort_repeaters`. -/
def compareRepeaters
    (filter : RepeaterFilter) (observerPosition : Option (ℚ × ℚ)) :
    ContactDto → ContactDto → Ordering :=
  compareLex (compareGroups filter.groupByType)
    (compareBySort filter.sort observerPosition)

/-- The contact is not sorted after the other. -/
def NotAfter
    (filter : RepeaterFilter) (observerPosition : Option (ℚ × ℚ))
    (a b : ContactDto) : Prop :=
  (compareRepeaters filter observerPosition a b).isLE = true

instance (filter : RepeaterFilter) (observerPosition : Option (ℚ × ℚ)) :
    DecidableRel (NotAfter filter observerPosition) :=
  fun _ _ => inferInstanceAs (Decidable (_ = true))

def sortRepeaters
    (contacts : List ContactDto) (filter : RepeaterFilter)
    (observerPosition : Option (ℚ × ℚ)) : List ContactDto :=
  contacts.insertionSort (NotAfter filter observerPosition)

instance (sort : RepeaterSort) (observerPosition : Option (ℚ × ℚ)) :
    Std.TransCmp (compareBySort sort observerPosition) := by
  cases sort with
  | lastHeard =>
      have hlatest : Std.TransCmp fun a b : ℕ => compare b a :=
        Std.TransCmp.opposite
      exact @transCmp_on ContactDto ℕ (fun a b => compare b a) hlatest
        fun c => c.lastAdvertUnix
  | name =>
      exact @transCmp_on ContactDto String compare inferInstance
        fun c => PanelLibrary.toLowercase (stripFlagEmoji c.name)
  | distance =>
      exact @transCmp_on ContactDto (Option ℚ) compareDistances inferInstance
        fun c => distanceFromObserver c observerPosition

instance (groupByType : Bool) :
    Std.TransCmp (compareGroups groupByType) := by
  cases groupByType with
  | false => exact @transCmp_on ContactDto ℕ compare inferInstance fun _ => 0
  | true =>
      exact @transCmp_on ContactDto ℕ compare inferInstance
        fun c => (repeaterGroup c).order

instance (filter : RepeaterFilter) (observerPosition : Option (ℚ × ℚ)) :
    Std.TransCmp (compareRepeaters filter observerPosition) :=
  inferInstanceAs (Std.TransCmp (compareLex _ _))

instance (filter : RepeaterFilter) (observerPosition : Option (ℚ × ℚ)) :
    Std.Total (NotAfter filter observerPosition) where
  total a b := by
    unfold NotAfter
    rw [@Std.OrientedCmp.eq_swap ContactDto
      (compareRepeaters filter observerPosition) _ b a]
    cases compareRepeaters filter observerPosition a b <;> simp

instance (filter : RepeaterFilter) (observerPosition : Option (ℚ × ℚ)) :
    IsTrans ContactDto (NotAfter filter observerPosition) where
  trans _ _ _ hfirst hsecond := Std.TransCmp.isLE_trans hfirst hsecond

end Order

/-! ## The rows of the panel -/

section Rows

variable [PanelLibrary]

/-- The contacts the panel shows, in the order of the snapshot. -/
def shownContacts
    (filter : RepeaterFilter) (snapshot : Snapshot) : List ContactDto :=
  (snapshot.contacts.filter fun c => isRepeaterOrRoom c.contactType).filter
    fun c => filter.shows (repeaterGroup c)

def observerPosition (snapshot : Snapshot) : Option (ℚ × ℚ) :=
  snapshot.selfInfo.map fun s => (s.lat, s.lon)

def sortedContacts
    (filter : RepeaterFilter) (snapshot : Snapshot) : List ContactDto :=
  sortRepeaters (shownContacts filter snapshot) filter
    (observerPosition snapshot)

/-- The contact with the prefix belongs into the row: as many of the shown
contacts come before it, being less, or equal and earlier in the snapshot. -/
def BelongsInRow
    (filter : RepeaterFilter) (snapshot : Snapshot)
    (publicKeyPrefixHex : String) (row : ℕ) : Prop :=
  ∃ index c, (shownContacts filter snapshot)[index]? = some c ∧
    c.publicKeyPrefixHex = publicKeyPrefixHex ∧
    StableSort.rowOf (NotAfter filter (observerPosition snapshot))
      (shownContacts filter snapshot) index c = row

theorem belongsInRow_iff
    (filter : RepeaterFilter) (snapshot : Snapshot)
    (publicKeyPrefixHex : String) (row : ℕ) :
    BelongsInRow filter snapshot publicKeyPrefixHex row ↔
      ∃ c, (sortedContacts filter snapshot)[row]? = some c ∧
        c.publicKeyPrefixHex = publicKeyPrefixHex := by
  constructor
  · rintro ⟨index, c, hindex, hname, hrow⟩
    refine ⟨c, ?_, hname⟩
    exact (StableSort.getElem?_insertionSort_eq_some_iff _ row c).mpr
      ⟨index, hindex, hrow⟩
  · rintro ⟨c, hsorted, hname⟩
    obtain ⟨index, hindex, hrow⟩ :=
      (StableSort.getElem?_insertionSort_eq_some_iff _ row c).mp hsorted
    exact ⟨index, c, hindex, hname, hrow⟩

end Rows

end MeshController
