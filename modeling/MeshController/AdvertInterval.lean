import MeshController.ManagedPackets

/-!
# The interval between two advertisements

The contact's page estimates how often it advertises from the two newest
packets in which it does.  A relayed advertisement is received once more, and
the packet page groups such receptions.  The estimate does not: it is the time
between two advertisements exactly when the two newest receptions are not of
one transmission.
-/

namespace MeshController

open WindowGrouping

/-- `packets` are newest first. -/
def contactAdvertIntervalSecs
    (packets : List PacketLogEntry) (contact : ContactDto) : Option ℤ := do
  let front := asciiLowercase contact.publicKeyPrefixHex
  let adverts := packets.filterMap fun entry =>
    (entry.header.bind PacketHeaderInfo.advertisement).bind fun adv =>
      if front.isPrefixOf (asciiLowercase adv.publicKeyHex) then
        some entry.atUnix
      else none
  let newest ← adverts[0]?
  let second ← adverts[1]?
  return newest - second

/-! ### The receptions it looks at -/

def isAdvertOf (contact : ContactDto) (entry : PacketLogEntry) : Bool :=
  (entry.header.bind PacketHeaderInfo.advertisement).any fun adv =>
    (asciiLowercase contact.publicKeyPrefixHex).isPrefixOf
      (asciiLowercase adv.publicKeyHex)

section Positions

variable (packets : List PacketLogEntry) (contact : ContactDto)

/-- The receptions of the contact's advertisements, by position. -/
def advertPositions : List (Fin packets.length) :=
  (List.finRange packets.length).filter fun i =>
    isAdvertOf contact (packets.get i)

/-- The two newest of them. -/
def newestTwo : Option (Fin packets.length × Fin packets.length) := do
  let newest ← (advertPositions packets contact)[0]?
  let second ← (advertPositions packets contact)[1]?
  return (newest, second)

theorem filterMap_adverts :
    packets.filterMap (fun entry =>
        (entry.header.bind PacketHeaderInfo.advertisement).bind fun adv =>
          if (asciiLowercase contact.publicKeyPrefixHex).isPrefixOf
            (asciiLowercase adv.publicKeyHex) then
            some entry.atUnix
          else none) =
      (advertPositions packets contact).map fun i =>
        (packets.get i).atUnix := by
  have hentry : ∀ entry : PacketLogEntry,
      ((entry.header.bind PacketHeaderInfo.advertisement).bind fun adv =>
          if (asciiLowercase contact.publicKeyPrefixHex).isPrefixOf
            (asciiLowercase adv.publicKeyHex) then
            some entry.atUnix
          else none) =
        if isAdvertOf contact entry then some entry.atUnix else none := by
    intro entry
    rw [isAdvertOf]
    cases entry.header.bind PacketHeaderInfo.advertisement <;> rfl
  calc
    _ = packets.filterMap fun entry =>
        if isAdvertOf contact entry then some entry.atUnix else none := by
      simp only [hentry]
    _ = (packets.filter (isAdvertOf contact)).map PacketLogEntry.atUnix := by
      rw [← List.filterMap_eq_map, ← List.filterMap_eq_filter,
        List.filterMap_filterMap]
      congr 1
      funext entry
      cases hadvert : isAdvertOf contact entry <;>
        simp [Option.guard, hadvert]
    _ = _ := by
      nth_rewrite 1 [← List.map_get_finRange packets]
      rw [List.filter_map, List.map_map]
      rfl

theorem contactAdvertIntervalSecs_eq :
    contactAdvertIntervalSecs packets contact =
      (newestTwo packets contact).map fun pair =>
        (packets.get pair.1).atUnix - (packets.get pair.2).atUnix := by
  rw [contactAdvertIntervalSecs, filterMap_adverts, newestTwo]
  simp only [List.getElem?_map]
  cases (advertPositions packets contact)[0]? with
  | none => rfl
  | some newest => cases (advertPositions packets contact)[1]? <;> rfl

variable {packets contact}

theorem newestTwo_eq_some_iff (newest second : Fin packets.length) :
    newestTwo packets contact = some (newest, second) ↔
      ∃ rest, advertPositions packets contact = newest :: second :: rest := by
  rw [newestTwo]
  match advertPositions packets contact with
  | [] => simp
  | [only] => simp
  | first :: other :: rest => simp

theorem length_advertPositions :
    (advertPositions packets contact).length =
      packets.countP (isAdvertOf contact) := by
  rw [advertPositions, ← List.countP_eq_length_filter]
  nth_rewrite 5 [← List.map_get_finRange packets]
  rw [List.countP_map]
  rfl

theorem contactAdvertIntervalSecs_eq_none_iff :
    contactAdvertIntervalSecs packets contact = none ↔
      packets.countP (isAdvertOf contact) < 2 := by
  rw [contactAdvertIntervalSecs_eq, Option.map_eq_none_iff,
    ← length_advertPositions, newestTwo]
  match advertPositions packets contact with
  | [] => simp
  | [only] => simp
  | first :: other :: rest => simp

theorem lt_of_newestTwo
    {newest second : Fin packets.length}
    (hnewest : newestTwo packets contact = some (newest, second)) :
    newest < second := by
  rcases (newestTwo_eq_some_iff newest second).mp hnewest with ⟨rest, hadverts⟩
  have hsorted : (advertPositions packets contact).Pairwise (· < ·) :=
    (List.pairwise_lt_finRange _).filter _
  rw [hadverts, List.pairwise_cons] at hsorted
  exact hsorted.1 second List.mem_cons_self

theorem countP_eraseIdx
    {i : Fin packets.length} (hadvert : i ∈ advertPositions packets contact) :
    (packets.eraseIdx i).countP (isAdvertOf contact) + 1 =
      packets.countP (isAdvertOf contact) := by
  have hpositive : isAdvertOf contact packets[i.val] = true := by
    simpa [advertPositions] using hadvert
  rw [← (List.getElem_cons_eraseIdx_perm i.isLt).countP_eq,
    List.countP_cons_of_pos hpositive]

/-! ### One advertisement, received several times -/

/-- The packet page shows the two in one group. -/
def InOneGroup (first second : Fin packets.length) : Prop :=
  ∃ group ∈ groupPositions packets,
    first ∈ group.members ∧ second ∈ group.members

theorem InOneGroup.symm
    {first second : Fin packets.length} (hgroup : InOneGroup first second) :
    InOneGroup second first := by
  rcases hgroup with ⟨group, hmem, hfirst, hsecond⟩
  exact ⟨group, hmem, hsecond, hfirst⟩

/-- Other payloads, or one payload which was not received for longer than the
window. -/
def HeardApart (newest second : Fin packets.length) : Prop :=
  ¬SamePayload (packets.get newest) (packets.get second) ∨
    ∃ newer older : Fin packets.length, NextReception newer older ∧
      SamePayload (packets.get newer) (packets.get newest) ∧
      newest ≤ newer ∧ older ≤ second ∧
      groupWindowSecs < (packets.get newer).atUnix - (packets.get older).atUnix

theorem heardApart_iff
    {newest second : Fin packets.length} (hlt : newest < second) :
    HeardApart newest second ↔ ¬InOneGroup newest second := by
  rw [InOneGroup, exists_group_iff_sameTransmission, SameTransmission,
    min_eq_left hlt.le, max_eq_right hlt.le, HeardApart]
  constructor
  · rintro (hother | ⟨newer, older, hnext, hsame, habove, hbelow, hgap⟩)
    · rintro (heq | ⟨hsame, _⟩)
      · exact hlt.ne heq
      · exact hother hsame
    · rintro (heq | ⟨_, hgaps⟩)
      · exact hlt.ne heq
      · exact (hgaps newer older hnext hsame habove hbelow).not_gt hgap
  · intro happart
    by_contra hclose
    simp only [not_or, not_not, not_exists, not_and, not_lt] at hclose
    exact happart (Or.inr hclose)

variable (packets contact) in
/-- The interval is between two advertisements, so that there is none for one
advertisement however often it is received, nor does one more reception make
an interval. -/
structure MeasuresAdvertisements : Prop where
  distinct : ∀ newest second,
    newestTwo packets contact = some (newest, second) →
      ¬InOneGroup newest second
  repeated : (∀ first ∈ advertPositions packets contact,
      ∀ second ∈ advertPositions packets contact, InOneGroup first second) →
    contactAdvertIntervalSecs packets contact = none
  relayed : ∀ relay ∈ advertPositions packets contact,
    ∀ heard ∈ advertPositions packets contact, relay ≠ heard →
      InOneGroup relay heard →
        contactAdvertIntervalSecs (packets.eraseIdx relay) contact = none →
          contactAdvertIntervalSecs packets contact = none

theorem exists_newestTwo
    (hsome : contactAdvertIntervalSecs packets contact ≠ none) :
    ∃ newest second rest,
      newestTwo packets contact = some (newest, second) ∧
        advertPositions packets contact = newest :: second :: rest := by
  rw [contactAdvertIntervalSecs_eq] at hsome
  cases hnewest : newestTwo packets contact with
  | none => exact absurd (by rw [hnewest]; rfl) hsome
  | some pair =>
      rcases (newestTwo_eq_some_iff pair.1 pair.2).mp hnewest with
        ⟨rest, hadverts⟩
      exact ⟨pair.1, pair.2, rest, rfl, hadverts⟩

/-- Two receptions in one group beside two which are not: three at least. -/
theorem one_left_of_relayed
    (hdistinct : ∀ newest second,
      newestTwo packets contact = some (newest, second) →
        ¬InOneGroup newest second)
    {relay heard : Fin packets.length}
    (hrelay : relay ∈ advertPositions packets contact)
    (hheard : heard ∈ advertPositions packets contact)
    (hne : relay ≠ heard) (hgroup : InOneGroup relay heard)
    (hsome : contactAdvertIntervalSecs packets contact ≠ none) :
    contactAdvertIntervalSecs (packets.eraseIdx relay) contact ≠ none := by
  rcases exists_newestTwo hsome with ⟨newest, second, rest, hnewest, hadverts⟩
  have happart := hdistinct newest second hnewest
  have hthree : rest ≠ [] := by
    rintro rfl
    rw [hadverts, List.mem_pair] at hrelay hheard
    rcases hrelay with rfl | rfl
    · rcases hheard with rfl | rfl
      · exact hne rfl
      · exact happart hgroup
    · rcases hheard with rfl | rfl
      · exact happart hgroup.symm
      · exact hne rfl
  rw [Ne, contactAdvertIntervalSecs_eq_none_iff]
  have hcount := countP_eraseIdx hrelay
  have hlength := List.length_pos_of_ne_nil hthree
  have hall := @length_advertPositions packets contact
  rw [hadverts, List.length_cons, List.length_cons] at hall
  omega

/-- The interval is one between advertisements if and only if the two newest
receptions were heard apart. -/
theorem measuresAdvertisements_iff
    (packets : List PacketLogEntry) (contact : ContactDto) :
    MeasuresAdvertisements packets contact ↔
      ∀ newest second, newestTwo packets contact = some (newest, second) →
        HeardApart newest second := by
  constructor
  · intro hmeasures newest second hnewest
    rw [heardApart_iff (lt_of_newestTwo hnewest)]
    exact hmeasures.distinct newest second hnewest
  · intro hapart
    have hdistinct : ∀ newest second,
        newestTwo packets contact = some (newest, second) →
          ¬InOneGroup newest second := by
      intro newest second hnewest
      rw [← heardApart_iff (lt_of_newestTwo hnewest)]
      exact hapart newest second hnewest
    constructor
    · exact hdistinct
    · intro hall
      by_contra hsome
      rcases exists_newestTwo hsome with
        ⟨newest, second, rest, hnewest, hadverts⟩
      apply hdistinct newest second hnewest
      exact hall newest (by simp [hadverts]) second (by simp [hadverts])
    · intro relay hrelay heard hheard hne hgroup hnone
      by_contra hsome
      exact one_left_of_relayed hdistinct hrelay hheard hne hgroup hsome hnone

end Positions

def advertReception
    (id : ℕ) (atUnix : ℤ) (publicKeyHex payloadHex : String) :
    PacketLogEntry :=
  let heard := heardPacket id atUnix "Advert" payloadHex
  { heard with
    header := heard.header.map fun header =>
      { header with
        advertisement := some
          { publicKeyHex := publicKeyHex
            name := some "hilltop"
            advTypeName := "Repeater"
            lat := none
            lon := none } } }

/-- One advertisement, heard directly and five seconds later from a repeater,
has an interval, and only since it was relayed. -/
theorem relayed_advert_has_interval :
    let heard := advertReception 1 100 "aabbccddeeff0011" "aabb"
    let relayed := advertReception 2 105 "aabbccddeeff0011" "aabb"
    let contact := managedContact "aabbccddeeff"
    contactAdvertIntervalSecs [heard] contact = none ∧
      contactAdvertIntervalSecs [relayed, heard] contact = some 5 ∧
      ¬MeasuresAdvertisements [relayed, heard] contact := by
  intro heard relayed contact
  refine ⟨by decide, by decide, ?_⟩
  intro hmeasures
  have hgroup : @InOneGroup [relayed, heard] 0 1 := by
    unfold InOneGroup
    decide
  exact hmeasures.distinct 0 1 (by decide) hgroup

end MeshController
