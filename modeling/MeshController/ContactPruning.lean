import MeshController.MeshCommands

/-!
# Which contacts are pruned

An entry protects the contacts whose 12-digit prefix its key starts with.  A
key in the configuration may itself be a prefix; one of fewer than 12 digits
starts with no contact's prefix and protects nothing.
-/

namespace MeshController

open HexEncoding

def contactsToPrune
    (contacts : List ContactDto) (managedRepeaters : List ManagedRepeater) :
    List ContactDto :=
  contacts.filter fun c =>
    !managedRepeaters.any fun r => r.matches c.publicKeyPrefixHex

/-- The contact's public key starts with the key of the entry, whatever the
letter case. -/
def ManagedRepeater.Names (repeater : ManagedRepeater) (c : Contact) : Prop :=
  asciiLowercase repeater.publicKeyHex <+:
    asciiLowercase (hexEncode c.publicKey.toList)

def Contact.prefixHex (c : Contact) : String := hexEncode c.prefixBytes

@[simp] theorem publicKeyPrefixHex_ofContact (c : Contact) :
    (ContactDto.ofContact c).publicKeyPrefixHex = c.prefixHex := rfl

@[simp] theorem length_asciiLowercase (text : String) :
    (asciiLowercase text).length = text.length := by
  rw [asciiLowercase, List.length_map, String.length_toList]

@[simp] theorem asciiLowercase_hexEncode (bytes : List UInt8) :
    asciiLowercase (hexEncode bytes) = hexDigits bytes := by
  rw [asciiLowercase, toList_hexEncode, map_toLower_hexDigits]

theorem length_hexDigits_prefixBytes (c : Contact) :
    (hexDigits c.prefixBytes).length = 12 := by
  simp [Contact.prefixBytes]

theorem mem_contactsToPrune_iff
    {contacts : List ContactDto} {managedRepeaters : List ManagedRepeater}
    {c : ContactDto} :
    c ∈ contactsToPrune contacts managedRepeaters ↔
      c ∈ contacts ∧
        ∀ r ∈ managedRepeaters, r.matches c.publicKeyPrefixHex = false := by
  simp [contactsToPrune]

/-- An entry of at least 12 digits which names a contact matches it. -/
theorem ManagedRepeater.matches_of_names
    {repeater : ManagedRepeater} {c : Contact} (hnames : repeater.Names c)
    (hlong : 12 ≤ repeater.publicKeyHex.length) :
    repeater.matches c.prefixHex = true := by
  rw [repeater.matches_iff, Contact.prefixHex, asciiLowercase_hexEncode]
  unfold ManagedRepeater.Names at hnames
  rw [asciiLowercase_hexEncode] at hnames
  have hfront : hexDigits c.prefixBytes <+:
      hexDigits c.publicKey.toList :=
    hexDigits_prefix (List.take_prefix 6 _)
  apply List.prefix_of_prefix_length_le hfront hnames
  rw [length_hexDigits_prefixBytes, length_asciiLowercase]
  exact hlong

/-- No contact which a configured entry names is pruned, exactly if every
contact which is named by an entry of fewer than 12 digits is also matched by
some entry. -/
theorem named_contacts_spared_iff
    (contacts : List Contact) (managedRepeaters : List ManagedRepeater) :
    (∀ c ∈ contacts,
      ContactDto.ofContact c ∈
        contactsToPrune (contacts.map ContactDto.ofContact)
          managedRepeaters →
        ∀ r ∈ managedRepeaters, ¬ r.Names c) ↔
    ∀ c ∈ contacts,
      (∃ r ∈ managedRepeaters, r.publicKeyHex.length < 12 ∧ r.Names c) →
        ∃ r ∈ managedRepeaters, r.matches c.prefixHex = true := by
  constructor
  · rintro hspared c hmem ⟨short, hshort, _, hnames⟩
    by_contra hnone
    have hunmatched : ∀ r ∈ managedRepeaters,
        r.matches c.prefixHex = false := by
      intro r hr
      cases hmatches : r.matches c.prefixHex with
      | false => rfl
      | true => exact absurd ⟨r, hr, hmatches⟩ hnone
    have hpruned : ContactDto.ofContact c ∈
        contactsToPrune (contacts.map ContactDto.ofContact)
          managedRepeaters := by
      rw [mem_contactsToPrune_iff]
      exact ⟨List.mem_map_of_mem hmem, hunmatched⟩
    exact hspared c hmem hpruned short hshort hnames
  · intro hcovered c hmem hpruned r hr hnames
    have hunmatched := (mem_contactsToPrune_iff.mp hpruned).2
    have hmatched : ∃ other ∈ managedRepeaters,
        other.matches c.prefixHex = true := by
      rcases lt_or_ge r.publicKeyHex.length 12 with hshort | hlong
      · exact hcovered c hmem ⟨r, hr, hshort, hnames⟩
      · exact ⟨r, hr, ManagedRepeater.matches_of_names hnames hlong⟩
    rcases hmatched with ⟨other, hother, hmatches⟩
    have hfalse := hunmatched other hother
    rw [publicKeyPrefixHex_ofContact, hmatches] at hfalse
    contradiction

def hilltop : Contact where
  publicKey := Vector.replicate 32 0xab
  contactType := 2
  advName := "hilltop"
  lastAdvert := 0
  advLat := 0
  advLon := 0

/-- The same repeater, as it is overheard. -/
def heardHilltop : DiscoveredNode where
  name := "hilltop"
  publicKeyHex :=
    "abababababababababababababababababababababababababababababababab"
  publicKeyPrefixHex := "abababababab"
  isRepeater := true
  advType := 2
  lat := 0
  lon := 0
  lastSeenUnix := 0
  lastSnr := none
  lastRssi := none
  lastHopCount := none
  prefix_of_key := by decide

/-- A contact is pruned although the configuration lists a prefix of its
key. -/
theorem named_contact_pruned_of_short_prefix :
    ¬ ∀ (contacts : List Contact) (managedRepeaters : List ManagedRepeater),
      (∀ r ∈ managedRepeaters, r.publicKeyHex.toList.all isHexDigit = true) →
      ∀ c ∈ contacts,
        ContactDto.ofContact c ∈
          contactsToPrune (contacts.map ContactDto.ofContact)
            managedRepeaters →
          ∀ r ∈ managedRepeaters, ¬ r.Names c := by
  intro hclaim
  have hpruned : ContactDto.ofContact hilltop ∈
      contactsToPrune [ContactDto.ofContact hilltop]
        [⟨"hilltop", "ab", none, .managed⟩] := by
    rw [mem_contactsToPrune_iff]
    refine ⟨List.mem_singleton_self _, ?_⟩
    decide
  have hspared := hclaim [hilltop] [⟨"hilltop", "ab", none, .managed⟩]
    (by decide) hilltop (by simp) hpruned ⟨"hilltop", "ab", none, .managed⟩
    (by simp)
  apply hspared
  rw [ManagedRepeater.Names, asciiLowercase_hexEncode]
  decide

end MeshController
