import Mathlib.Data.List.DropRight
import MeshController.TextLines

/-!
# Replies to the region command

A repeater prints its regions one to a line: as many spaces as the region is
deep, its name, a mark for the home region and one for flooding.  The two
marks are read off the end of a line, so that a name which has none of their
characters at its end comes back, and a line which was cut still has its depth.
-/

namespace MeshController

open TextLines

structure RegionHierarchyEntryDto where
  name : String
  depth : UInt8
  isHome : Bool
  floodAllowed : Bool
deriving DecidableEq

structure RegionHierarchyDto where
  fetchedAtUnix : ℤ
  entries : List RegionHierarchyEntryDto
  rawText : String
deriving DecidableEq

/-- What is read behind the indentation of a line: the mark of flooding with
its space, then the mark of the home region, then the name. -/
def parseMarked (trimmed : List Char) (depth : UInt8) :
    RegionHierarchyEntryDto :=
  let floodAllowed := [' ', 'F'].isSuffixOf trimmed
  let withoutFlood :=
    if floodAllowed then trimmed.take (trimmed.length - 2) else trimmed
  let isHome := withoutFlood.getLast? = some '^'
  { name := String.ofList
      (if isHome then withoutFlood.dropLast else withoutFlood)
    depth := depth
    isHome := isHome
    floodAllowed := floodAllowed }

/-- A blank line has no entry.  The depth is cast to a byte. -/
def parseRegionLine (line : List Char) : Option RegionHierarchyEntryDto :=
  let unindented := line.dropWhile fun c => c = ' '
  let depth := UInt8.ofNat (line.length - unindented.length)
  let trimmed := unindented.rdropWhile fun c => c = '\r'
  if trimmed = [] then none else some (parseMarked trimmed depth)

def parseRegionHierarchy (rawText : String) (fetchedAtUnix : ℤ) :
    RegionHierarchyDto where
  fetchedAtUnix := fetchedAtUnix
  entries := (lines rawText.toList).filterMap parseRegionLine
  rawText := rawText

/-! ## What the firmware prints -/

/-- A region of the firmware, whose line ends with a line feed or with a
carriage return and a line feed. -/
structure PrintedRegion where
  entry : RegionHierarchyEntryDto
  carriageReturn : Bool
  nonempty : entry.name.toList ≠ []
  noSpace : ' ' ∉ entry.name.toList
  noLineFeed : '\n' ∉ entry.name.toList
  noReturn : '\r' ∉ entry.name.toList
  unmarked : entry.name.toList.getLast? ≠ some '^'

namespace PrintedRegion

variable (region : PrintedRegion)

def homeMarked : List Char :=
  region.entry.name.toList ++ if region.entry.isHome then ['^'] else []

/-- What stands behind the indentation. -/
def marked : List Char :=
  region.homeMarked ++ if region.entry.floodAllowed then [' ', 'F'] else []

def body : List Char :=
  List.replicate region.entry.depth.toNat ' ' ++ region.marked

def ending : List Char :=
  if region.carriageReturn then ['\r'] else []

/-- The line as it is printed. -/
def printed : List Char :=
  region.body ++ region.ending ++ ['\n']

variable {region}

theorem homeMarked_ne_nil : region.homeMarked ≠ [] := by
  simp [homeMarked, region.nonempty]

theorem marked_ne_nil : region.marked ≠ [] := by
  simp [marked, homeMarked_ne_nil]

theorem head_marked_ne (ending : List Char) :
    (region.marked ++ ending).head? ≠ some ' ' := by
  have hname := region.nonempty
  have hspace := region.noSpace
  unfold marked homeMarked
  generalize region.entry.name.toList = name at hname hspace
  cases name with
  | nil => exact absurd rfl hname
  | cons c rest =>
      rw [List.mem_cons, not_or] at hspace
      simpa using Ne.symm hspace.1

theorem mem_marked {c : Char} (hmem : c ∈ region.marked) :
    c ∈ region.entry.name.toList ∨ c = '^' ∨ c = ' ' ∨ c = 'F' := by
  unfold marked homeMarked at hmem
  rcases List.mem_append.mp hmem with hhome | hflood
  · rcases List.mem_append.mp hhome with hname | hmark
    · exact Or.inl hname
    · split at hmark <;> simp_all
  · split at hflood <;> simp_all

theorem lineFeed_not_mem_line : '\n' ∉ region.body ++ region.ending := by
  intro hmem
  rcases List.mem_append.mp hmem with hbody | hending
  · rcases List.mem_append.mp hbody with hindent | hmarked
    · simp at hindent
    · rcases mem_marked hmarked with hname | hmark
      · exact region.noLineFeed hname
      · simp at hmark
  · unfold ending at hending
    split at hending <;> simp at hending

theorem return_not_mem_marked : '\r' ∉ region.marked := by
  intro hmem
  rcases mem_marked hmem with hname | hmark
  · exact region.noReturn hname
  · simp at hmark

theorem not_flood_suffix_homeMarked :
    [' ', 'F'].isSuffixOf region.homeMarked = false := by
  rw [Bool.eq_false_iff, ne_eq, List.isSuffixOf_iff_suffix]
  intro hsuffix
  have hmem : ' ' ∈ region.homeMarked := hsuffix.subset List.mem_cons_self
  rcases List.mem_append.mp hmem with hname | hmark
  · exact region.noSpace hname
  · split at hmark <;> simp at hmark

theorem parseMarked_marked (region : PrintedRegion) (depth : UInt8) :
    parseMarked region.marked depth = { region.entry with depth := depth } := by
  have hflood : [' ', 'F'].isSuffixOf region.marked =
      region.entry.floodAllowed := by
    by_cases hallowed : region.entry.floodAllowed = true
    · rw [hallowed, List.isSuffixOf_iff_suffix, marked, hallowed, if_pos rfl]
      exact List.suffix_append _ _
    · rw [marked, if_neg hallowed, List.append_nil,
        not_flood_suffix_homeMarked]
      exact (Bool.eq_false_of_not_eq_true hallowed).symm
  have hwithout : (if region.entry.floodAllowed = true then
      region.marked.take (region.marked.length - 2) else region.marked) =
        region.homeMarked := by
    by_cases hallowed : region.entry.floodAllowed = true
    · rw [if_pos hallowed, marked, hallowed, if_pos rfl]
      exact List.take_left' (by simp)
    · rw [if_neg hallowed, marked, if_neg hallowed, List.append_nil]
  unfold parseMarked
  simp only [hflood, hwithout]
  by_cases hmarked : region.entry.isHome = true
  · have hlast : region.homeMarked = region.entry.name.toList ++ ['^'] := by
      rw [homeMarked, if_pos hmarked]
    simp [hlast, hmarked]
  · have hlast : region.homeMarked = region.entry.name.toList := by
      rw [homeMarked, if_neg hmarked, List.append_nil]
    have hunmarked := region.unmarked
    simp [hlast, hmarked, hunmarked]

/-! ## Reading a line -/

theorem dropWhile_indented
    {count : ℕ} {rest : List Char} (hrest : rest.head? ≠ some ' ') :
    (List.replicate count ' ' ++ rest).dropWhile (fun c => c = ' ') =
      rest := by
  rw [List.dropWhile_append_of_pos (by simp)]
  cases rest with
  | nil => rfl
  | cons c rest =>
      rw [List.dropWhile_cons_of_neg]
      simpa using hrest

theorem parseRegionLine_indented
    (depth : UInt8) {rest : List Char} (hrest : rest.head? ≠ some ' ') :
    parseRegionLine (List.replicate depth.toNat ' ' ++ rest) =
      if rest.rdropWhile (fun c => c = '\r') = [] then none
      else some (parseMarked (rest.rdropWhile fun c => c = '\r') depth) := by
  unfold parseRegionLine
  simp only [dropWhile_indented hrest, List.length_append,
    List.length_replicate, Nat.add_sub_cancel, UInt8.ofNat_toNat]

theorem rdropWhile_return
    {text : List Char} (htext : '\r' ∉ text) {ending : List Char}
    (hending : ∀ c ∈ ending, c = '\r') :
    (text ++ ending).rdropWhile (fun c => c = '\r') = text := by
  induction ending using List.reverseRecOn with
  | nil =>
      rw [List.append_nil, List.rdropWhile_eq_self_iff]
      intro hne
      rw [decide_eq_true_eq]
      intro hlast
      exact htext (hlast ▸ List.getLast_mem hne)
  | append_singleton ending c ih =>
      have hc : c = '\r' := hending c (by simp)
      rw [← List.append_assoc, List.rdropWhile_concat_pos _ _ _ (by simp [hc])]
      apply ih
      intro other hmem
      exact hending other (by simp [hmem])

/-- A line is read as the region it was printed from, with or without the
carriage return. -/
theorem parseRegionLine_body
    (region : PrintedRegion) {ending : List Char}
    (hending : ∀ c ∈ ending, c = '\r') :
    parseRegionLine (region.body ++ ending) = some region.entry := by
  rw [body, List.append_assoc,
    parseRegionLine_indented _ (head_marked_ne ending),
    rdropWhile_return return_not_mem_marked hending, if_neg marked_ne_nil,
    parseMarked_marked]

theorem mem_ending {c : Char} (hmem : c ∈ region.ending) : c = '\r' := by
  unfold ending at hmem
  split at hmem
  · simpa using hmem
  · simp at hmem

/-- Whatever is left of a line which was cut, it has the depth of the line. -/
theorem depth_of_cut
    {front : List Char} (hfront : front <+: region.body ++ region.ending)
    {entry : RegionHierarchyEntryDto}
    (hentry : parseRegionLine front = some entry) :
    entry.depth = region.entry.depth := by
  rw [body, List.append_assoc] at hfront
  rcases List.prefix_or_prefix_of_prefix hfront (List.prefix_append _ _) with
    hblank | hindented
  · have hspaces : front.dropWhile (fun c => c = ' ') = [] := by
      rw [List.dropWhile_eq_nil_iff]
      intro c hmem
      have hspace := List.eq_of_mem_replicate (hblank.subset hmem)
      simp [hspace]
    simp [parseRegionLine, hspaces] at hentry
  · rcases hindented with ⟨rest, rfl⟩
    rw [List.prefix_append_right_inj] at hfront
    have hhead : rest.head? ≠ some ' ' := by
      have hmarked := @head_marked_ne region region.ending
      rcases hfront with ⟨behind, hbehind⟩
      rw [← hbehind] at hmarked
      cases rest with
      | nil => simp
      | cons c rest => simpa using hmarked
    rw [parseRegionLine_indented _ hhead] at hentry
    split at hentry
    · contradiction
    · rw [← Option.some.inj hentry]
      rfl

theorem stripReturn_line (region : PrintedRegion) :
    stripReturn (region.body ++ region.ending) = region.body := by
  by_cases hreturn : region.carriageReturn = true
  · rw [ending, if_pos hreturn]
    exact stripReturn_append_return _
  · rw [ending, if_neg hreturn, List.append_nil]
    apply stripReturn_of_getLast_ne
    intro hlast
    rcases List.mem_append.mp (List.mem_of_getLast? hlast) with hindent |
      hmarked
    · simp at hindent
    · exact return_not_mem_marked hmarked

theorem front_of_cut
    {front : List Char} (hfront : front <+: region.printed)
    (hcut : front ≠ region.printed) :
    front <+: region.body ++ region.ending := by
  rw [printed, List.prefix_concat_iff] at hfront
  exact hfront.resolve_left hcut

end PrintedRegion

open PrintedRegion

/-- Every line in full is read as its region, and then what is left. -/
theorem entries_of_text
    (regions : List PrintedRegion) {rest : List Char} (hrest : '\n' ∉ rest) :
    (lines (textOf printed regions ++ rest)).filterMap parseRegionLine =
      regions.map entry ++ (parseRegionLine rest).toList := by
  induction regions with
  | nil =>
      rw [textOf, List.flatMap_nil, List.nil_append, lines_unended hrest]
      by_cases hempty : rest = []
      · rw [if_pos hempty, hempty]
        rfl
      · rw [if_neg hempty]
        cases hentry : parseRegionLine rest <;> simp [hentry]
  | cons region later ih =>
      have hbody : parseRegionLine region.body = some region.entry := by
        rw [← List.append_nil region.body]
        exact parseRegionLine_body region (by simp)
      have htext : textOf printed (region :: later) ++ rest =
          (region.body ++ region.ending) ++
            '\n' :: (textOf printed later ++ rest) := by
        simp [textOf, printed]
      rw [htext, lines_cons lineFeed_not_mem_line, stripReturn_line,
        List.filterMap_cons_some hbody, ih]
      rfl

section CutReply

variable {regions : List PrintedRegion} {cut : List Char} {full : ℕ}
  {rest : List Char}

theorem rest_of_cutAt
    (hcut : CutAt printed regions cut full rest) {region : PrintedRegion}
    (hregion : regions[full]? = some region) :
    rest <+: region.body ++ region.ending := by
  rcases hcut.rest_lt region hregion with ⟨hfront, hne⟩
  exact front_of_cut hfront hne

theorem lineFeed_not_mem_rest
    (hcut : CutAt printed regions cut full rest) : '\n' ∉ rest := by
  cases hregion : regions[full]? with
  | none =>
      rw [hcut.rest_nil hregion]
      exact List.not_mem_nil
  | some region =>
      intro hmem
      exact lineFeed_not_mem_line
        ((rest_of_cutAt hcut hregion).subset hmem)

/-- The depth of a region is printed before its name: what is left of its line
is read at that depth or not at all. -/
theorem exists_region_of_rest
    (hcut : CutAt printed regions cut full rest)
    {other : RegionHierarchyEntryDto}
    (hother : parseRegionLine rest = some other) :
    ∃ region, regions[full]? = some region ∧
      other.depth = region.entry.depth := by
  cases hregion : regions[full]? with
  | none =>
      rw [hcut.rest_nil hregion] at hother
      cases hother
  | some region =>
      use region
      exact ⟨rfl, depth_of_cut (rest_of_cutAt hcut hregion) hother⟩

theorem parseRegionLine_of_body_in_rest
    (hcut : CutAt printed regions cut full rest) {region : PrintedRegion}
    (hregion : regions[full]? = some region) (hbody : region.body <+: rest) :
    parseRegionLine rest = some region.entry := by
  rcases hbody with ⟨ending, rfl⟩
  have hending := rest_of_cutAt hcut hregion
  rw [List.prefix_append_right_inj] at hending
  exact parseRegionLine_body region fun c hmem =>
    mem_ending (hending.subset hmem)

end CutReply

/-- What the firmware printed is read back.  Of a reply which was cut, every
line in full is read as its region, and what is left of the next line gives at
most one further entry: it has the depth of that line, and is the line's own if
only the line break is missing. -/
theorem region_reply_survives_cut
    (regions : List PrintedRegion) (fetchedAtUnix : ℤ) :
    (parseRegionHierarchy (String.ofList (textOf printed regions))
      fetchedAtUnix).entries = regions.map entry ∧
    ∀ cut, cut <+: textOf printed regions →
      ∃ full rest further, CutAt printed regions cut full rest ∧
        (parseRegionHierarchy (String.ofList cut) fetchedAtUnix).entries =
          (regions.take full).map entry ++ further ∧
        further.length ≤ 1 ∧
        (∀ other ∈ further, ∃ region, regions[full]? = some region ∧
          other.depth = region.entry.depth) ∧
        ∀ region, regions[full]? = some region → region.body <+: rest →
          further = [region.entry] := by
  constructor
  · have hwhole := entries_of_text regions (List.not_mem_nil (a := '\n'))
    rw [List.append_nil] at hwhole
    unfold parseRegionHierarchy
    simp only [String.toList_ofList]
    rw [hwhole]
    exact List.append_nil _
  · intro cut hcut
    rcases exists_cutAt regions hcut with ⟨full, rest, hcutAt⟩
    have hrest := lineFeed_not_mem_rest hcutAt
    use full, rest, (parseRegionLine rest).toList
    constructor
    · exact hcutAt
    constructor
    · unfold parseRegionHierarchy
      simp only [String.toList_ofList, hcutAt.cut_eq]
      exact entries_of_text _ hrest
    constructor
    · cases parseRegionLine rest <;> simp
    constructor
    · intro other hother
      rw [Option.mem_toList] at hother
      exact exists_region_of_rest hcutAt hother
    · intro region hregion hbody
      rw [parseRegionLine_of_body_in_rest hcutAt hregion hbody]
      rfl

def printedWorld : PrintedRegion where
  entry :=
    { name := "World", depth := 0, isHome := false, floodAllowed := true }
  carriageReturn := true
  nonempty := by decide
  noSpace := by decide
  noLineFeed := by decide
  noReturn := by decide
  unmarked := by decide

/-- A region whose name is the mark of the flooded ones. -/
def printedHome : PrintedRegion where
  entry := { name := "F", depth := 1, isHome := true, floodAllowed := true }
  carriageReturn := false
  nonempty := by decide
  noSpace := by decide
  noLineFeed := by decide
  noReturn := by decide
  unmarked := by decide

theorem region_reply_survives_cut_home :
    (parseRegionHierarchy "World F\r\n F^ F\n" 0).entries =
      [printedWorld.entry, printedHome.entry] ∧
    ∃ full rest further,
      CutAt printed [printedWorld, printedHome] "World F\r\n F^".toList
        full rest ∧
      (parseRegionHierarchy "World F\r\n F^" 0).entries =
        ([printedWorld, printedHome].take full).map entry ++ further ∧
      further.length ≤ 1 := by
  have hsurvives :=
    region_reply_survives_cut [printedWorld, printedHome] 0
  constructor
  · exact hsurvives.1
  · have hfront : "World F\r\n F^".toList <+:
        textOf printed [printedWorld, printedHome] := by decide
    rcases hsurvives.2 _ hfront with
      ⟨full, rest, further, hcutAt, hentries, hfew, _⟩
    exact ⟨full, rest, further, hcutAt, hentries, hfew⟩

example : (parseRegionHierarchy "World F\n  Fran" 0).entries =
    [{ name := "World", depth := 0, isHome := false, floodAllowed := true },
      { name := "Fran", depth := 2, isHome := false, floodAllowed := false }] :=
  by decide

end MeshController
