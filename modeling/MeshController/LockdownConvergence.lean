import MeshController.LockdownRequests

/-!
# What a lockdown comes to

Whatever fails, no configured contact is removed and every due correction is
requested.  If nothing fails, the node is locked down, and the next pass finds
nothing to do.
-/

namespace MeshController

open HexEncoding MeshClient

section Lockdown

variable [HexDecoder] {answers : LockdownAnswers}
  {managedRepeaters : List ManagedRepeater} {companion : Companion}
  {cache : List Contact}

/-- What a lockdown makes of the node: every part goes by the answers to the
requests about that part alone. -/
structure LockdownEffect
    (answers : LockdownAnswers) (managedRepeaters : List ManagedRepeater)
    (companion final : Companion) : Prop where
  autoaddConfig : final.autoaddConfig =
    if answers.getAutoaddConfig && answers.setAutoaddConfig.takesEffect then 0
    else companion.autoaddConfig
  maxChannels : final.maxChannels = companion.maxChannels
  channels : ∀ idx, final.channels idx =
    if idx ∈ channelsToCheck answers companion ∧
        answers.getChannel idx = true ∧
          (answers.setChannel idx).takesEffect = true then .empty
    else companion.channels idx
  contacts : ∀ c ∈ companion.contacts, c ∈ final.contacts ↔
    (∃ r ∈ managedRepeaters, r.matches c.prefixHex = true) ∨
      (answers.removeContact c.prefixHex).takesEffect = false
  newContacts : ∀ c ∈ final.contacts, c ∉ companion.contacts →
    ∃ r ∈ managedRepeaters, r.matches c.prefixHex = true
  declared : ∀ i r d, managedRepeaters[i]? = some r →
    toDeclare companion.contacts r = some d →
      (answers.declare i).takesEffect = true →
        ∃ c ∈ final.contacts, c.publicKey = d.publicKey

theorem lockdown_effect
    (hdecodes : DecodesHex) {config : Config}
    (hon : config.daemon.observerNodeManagedConfig = true)
    (hread : cache.Perm companion.contacts)
    (hdistinct : (companion.contacts.map Contact.prefixHex).Nodup) :
    LockdownEffect answers config.managedRepeaters companion
      (lockdown answers config (connect companion cache)).companion := by
  have hcacheDistinct : (cache.map Contact.prefixHex).Nodup :=
    (hread.map Contact.prefixHex).nodup_iff.mpr hdistinct
  have hfinal : (lockdown answers config (connect companion cache)).companion =
      (enforcements answers config.managedRepeaters companion cache).foldl
        Companion.attempt
        ((declarations answers config.managedRepeaters cache).foldl
          Companion.attempt companion) := by
    rw [(after_lockdown answers companion cache hon).companion,
      List.foldl_append]
    rfl
  have hsettings : (lockdown answers config
      (connect companion cache)).companion.settings =
        (companion.quieted answers).settings := by
    rw [hfinal]
    exact settings_foldl_enforcements settings_declarations
  simp only [Companion.settings, Prod.mk.injEq] at hsettings
  rcases hsettings with ⟨hflags, hmax, hchannels⟩
  refine ⟨hflags, hmax, fun idx => congrFun hchannels idx, ?_, ?_, ?_⟩
  · intro c hmem
    rw [hfinal, mem_contacts_of_enforcements settings_declarations,
      contact_spared_iff hdecodes hcacheDistinct (hread.mem_iff.mpr hmem)]
    exact and_iff_right (contact_kept_of_declarations hdecodes hread hmem)
  · intro c hmem hnew
    rw [hfinal, mem_contacts_of_enforcements settings_declarations] at hmem
    exact (contact_origin_of_declarations hdecodes hmem.1).resolve_left hnew
  · intro i r d hr hdeclare heffect
    exact contact_declared_of_lockdown hdecodes hon hr
      ((toDeclare_of_read hread r d).mpr hdeclare) heffect

/-- Every correction which is due is requested, whatever becomes of the
others. -/
structure DueCorrectionsRequested
    (answers : LockdownAnswers) (managedRepeaters : List ManagedRepeater)
    (companion : Companion) (issued : List MutatingRpc) : Prop where
  declare : ∀ d, .addContact d ∈ issued ↔
    ∃ r ∈ managedRepeaters, toDeclare companion.contacts r = some d
  autoAdd : .setAutoaddConfig 0 ∈ issued ↔
    answers.getAutoaddConfig = true ∧ companion.autoaddConfig ≠ 0
  channel : ∀ idx, .setChannel idx .empty ∈ issued ↔
    (answers.deviceQuery = true ∧
      ∃ maxChannels ∈ companion.maxChannels, idx < maxChannels.toNat) ∧
        answers.getChannel idx = true ∧ companion.channels idx ≠ .empty
  contact : ∀ c, .removeContact c ∈ issued ↔
    c ∈ companion.contacts ∧
      ∀ r ∈ managedRepeaters, r.matches c.prefixHex = false

theorem lockdown_requests
    (hdecodes : DecodesHex) {config : Config}
    (hon : config.daemon.observerNodeManagedConfig = true)
    (hread : cache.Perm companion.contacts)
    (hdistinct : (companion.contacts.map Contact.prefixHex).Nodup) :
    DueCorrectionsRequested answers config.managedRepeaters companion
      (lockdown answers config (connect companion cache)).issued := by
  have hcacheDistinct : (cache.map Contact.prefixHex).Nodup :=
    (hread.map Contact.prefixHex).nodup_iff.mpr hdistinct
  have hissued := (after_lockdown answers companion cache hon).issued
  have hmem : ∀ rpc,
      rpc ∈ (lockdown answers config (connect companion cache)).issued ↔
        (∃ a ∈ declarations answers config.managedRepeaters cache,
          a.rpc = rpc) ∨
        (∃ a ∈ autoAddCorrection answers companion, a.rpc = rpc) ∨
        (∃ a ∈ channelRemovals answers companion, a.rpc = rpc) ∨
        ∃ a ∈ contactRemovals answers config.managedRepeaters cache,
          a.rpc = rpc := by
    intro rpc
    rw [hissued]
    simp [connect, enforcements]
  simp only [rpc_of_declarations, rpc_of_autoAddCorrection,
    rpc_of_channelRemovals, rpc_of_contactRemovals hdecodes hcacheDistinct,
    toDeclare_of_read hread, hread.mem_iff, mem_channelsToCheck_iff] at hmem
  refine ⟨?_, ?_, ?_, ?_⟩
  · intro d
    rw [hmem]
    simp
  · rw [hmem]
    simp
  · intro idx
    rw [hmem]
    simp
  · intro c
    rw [hmem]
    simp

/-! ## Locked down -/

/-- The node adds no contacts by itself, has no channel, and its contacts are
the configured repeaters. -/
structure LockedDown
    (managedRepeaters : List ManagedRepeater) (companion : Companion) :
    Prop where
  autoAdd : companion.autoaddConfig = 0
  channels : ∀ maxChannels ∈ companion.maxChannels,
    ∀ idx < maxChannels.toNat, companion.channels idx = .empty
  contacts : ∀ c ∈ companion.contacts,
    ∃ r ∈ managedRepeaters, r.matches c.prefixHex = true
  declared : ∀ r ∈ managedRepeaters, ∀ key : Vector UInt8 32,
    asciiLowercase r.publicKeyHex = hexDigits key.toList →
      ∃ c ∈ companion.contacts, r.matches c.prefixHex = true

theorem lockedDown_of_allSucceed
    (hdecodes : DecodesHex) {final : Companion}
    (heffect : LockdownEffect answers managedRepeaters companion final)
    (hall : answers.AllSucceed) : LockedDown managedRepeaters final := by
  refine ⟨?_, ?_, ?_, ?_⟩
  · rw [heffect.autoaddConfig, hall.getAutoaddConfig, hall.setAutoaddConfig]
    rfl
  · intro maxChannels hmax idx hlt
    rw [heffect.maxChannels] at hmax
    rw [heffect.channels, if_pos]
    refine ⟨mem_channelsToCheck_iff.mpr ⟨hall.deviceQuery, _, hmax, hlt⟩,
      hall.getChannel idx, ?_⟩
    rw [hall.setChannel]
    rfl
  · intro c hmem
    by_cases hold : c ∈ companion.contacts
    · have hspared := (heffect.contacts c hold).mp hmem
      rw [hall.removeContact] at hspared
      exact hspared.resolve_right (by simp [RpcOutcome.takesEffect])
    · exact heffect.newContacts c hmem hold
  · intro r hr key hkey
    have hdeclare := contactToDeclare_of_fullKey hdecodes hkey
    have hmatches := matches_of_contactToDeclare hdecodes hdeclare
    by_cases hknown : ∃ c ∈ companion.contacts, r.matches c.prefixHex = true
    · rcases hknown with ⟨c, hmem, hmatch⟩
      exact ⟨c, (heffect.contacts c hmem).mpr (Or.inl ⟨r, hr, hmatch⟩), hmatch⟩
    · have hunknown : ∀ c ∈ companion.contacts,
          r.matches c.prefixHex = false := by
        intro c hmem
        cases hmatch : r.matches c.prefixHex with
        | false => rfl
        | true => exact absurd ⟨c, hmem, hmatch⟩ hknown
      rcases List.mem_iff_getElem?.mp hr with ⟨i, hi⟩
      obtain ⟨c, hmem, hsame⟩ := heffect.declared i r _ hi
        (toDeclare_eq_some_iff.mpr ⟨hunknown, hdeclare⟩)
        (by rw [hall.declare]; rfl)
      refine ⟨c, hmem, ?_⟩
      rw [Contact.prefixHex_congr hsame]
      exact hmatches

theorem lockdown_idle_of_lockedDown
    (hdecodes : DecodesHex) {config : Config}
    (hon : config.daemon.observerNodeManagedConfig = true)
    (hread : cache.Perm companion.contacts)
    (hlocked : LockedDown config.managedRepeaters companion) :
    (lockdown answers config (connect companion cache)).issued = [] := by
  have hdeclarations : declarations answers config.managedRepeaters cache =
      [] := declarations_eq_nil hdecodes hread hlocked.declared
  have hauto : autoAddCorrection answers companion = none := by
    simp [autoAddCorrection, hlocked.autoAdd]
  have hchannels : channelRemovals answers companion = [] := by
    rw [List.eq_nil_iff_forall_not_mem]
    intro a ha
    rcases mem_channelRemovals_iff.mp ha with ⟨idx, hcheck, _, hset, _⟩
    rcases mem_channelsToCheck_iff.mp hcheck with ⟨_, maxChannels, hmax, hlt⟩
    rw [hlocked.channels maxChannels hmax idx hlt] at hset
    contradiction
  have hprune : contactsToPrune (cache.map ContactDto.ofContact)
      config.managedRepeaters = [] := by
    rw [List.eq_nil_iff_forall_not_mem]
    intro dto hdto
    rw [mem_contactsToPrune_iff, List.mem_map] at hdto
    rcases hdto with ⟨⟨c, hmem, rfl⟩, hunmatched⟩
    rcases hlocked.contacts c (hread.mem_iff.mp hmem) with ⟨r, hr, hmatches⟩
    rw [publicKeyPrefixHex_ofContact] at hunmatched
    rw [hunmatched r hr] at hmatches
    contradiction
  rw [(after_lockdown answers companion cache hon).issued, hdeclarations,
    enforcements, hauto, hchannels, contactRemovals, hprune]
  rfl

/-- Whatever the requests come to, no contact which a configured entry matches
is removed, and what is due is requested.  A lockdown in which all requests
succeed leaves the node locked down, and the next one requests nothing. -/
theorem observer_lockdown
    (hdecodes : DecodesHex) (config : Config)
    (hon : config.daemon.observerNodeManagedConfig = true)
    (companion : Companion) (cache : List Contact)
    (hread : cache.Perm companion.contacts)
    (hdistinct : (companion.contacts.map Contact.prefixHex).Nodup)
    (answers : LockdownAnswers) {client : MeshClient}
    (hclient : client = lockdown answers config (connect companion cache)) :
    (∀ c, (∃ r ∈ config.managedRepeaters, r.matches c.prefixHex = true) →
      .removeContact c ∉ client.issued ∧
        (c ∈ companion.contacts → c ∈ client.companion.contacts)) ∧
    DueCorrectionsRequested answers config.managedRepeaters companion
      client.issued ∧
    (answers.AllSucceed →
      LockedDown config.managedRepeaters client.companion ∧
        ∀ (later : LockdownAnswers) (reread : List Contact),
          reread.Perm client.companion.contacts →
            (lockdown later config
              (connect client.companion reread)).issued = []) := by
  subst hclient
  have heffect : LockdownEffect answers config.managedRepeaters companion
      (lockdown answers config (connect companion cache)).companion :=
    lockdown_effect hdecodes hon hread hdistinct
  have hrequests : DueCorrectionsRequested answers config.managedRepeaters
      companion (lockdown answers config (connect companion cache)).issued :=
    lockdown_requests hdecodes hon hread hdistinct
  refine ⟨?_, hrequests, ?_⟩
  · rintro c ⟨r, hr, hmatches⟩
    constructor
    · intro hrequested
      have hunmatched := ((hrequests.contact c).mp hrequested).2
      rw [hunmatched r hr] at hmatches
      contradiction
    · intro hmem
      exact (heffect.contacts c hmem).mpr (Or.inl ⟨r, hr, hmatches⟩)
  · intro hall
    have hlocked := lockedDown_of_allSucceed hdecodes heffect hall
    refine ⟨hlocked, ?_⟩
    intro later reread hreread
    exact lockdown_idle_of_lockedDown hdecodes hon hreread hlocked

end Lockdown

def stranger : Contact :=
  { hilltop with
    publicKey := Vector.replicate 32 0x5a
    advName := "stranger" }

/-- A node in use, with auto-add on and the public channel set. -/
def Companion.inUse (contacts : List Contact) : Companion where
  autoaddConfig := 1
  maxChannels := some 8
  channels := fun idx =>
    if idx = 0 then ⟨"Public", Vector.replicate 16 0x8b⟩ else .empty
  contacts := contacts

/-- The configuration which lists the hilltop repeater under this key. -/
def Config.withHilltop (publicKeyHex : String) : Config :=
  { Config.bare with
    managedRepeaters := [⟨"hilltop", publicKeyHex, none, .managed⟩] }

section Example

attribute [local instance] plainDecoder

theorem observer_lockdown_stranger :
    ∃ client,
      client = lockdown .succeeding
        (.withHilltop (hexEncode hilltop.publicKey.toList))
        (connect (.inUse [stranger]) [stranger]) ∧
      .removeContact stranger ∈ client.issued ∧
      LockedDown [⟨"hilltop", hexEncode hilltop.publicKey.toList, none,
        .managed⟩] client.companion := by
  refine ⟨_, rfl, ?_⟩
  have hresult := observer_lockdown decodesHex_plainDecoder
    (.withHilltop (hexEncode hilltop.publicKey.toList)) rfl
    (.inUse [stranger]) [stranger] (List.Perm.refl _)
    (by simp [Companion.inUse]) .succeeding rfl
  rcases hresult with ⟨_, hrequests, hlocked⟩
  refine ⟨(hrequests.contact stranger).mpr ⟨by simp [Companion.inUse], ?_⟩,
    (hlocked LockdownAnswers.allSucceed_succeeding).1⟩
  intro r hr
  rw [List.mem_singleton.mp hr]
  decide

end Example

end MeshController
