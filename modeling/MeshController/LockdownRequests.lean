import MeshController.KeyedStore
import MeshController.ObserverLockdown

/-!
# The requests of a lockdown

The corrections of one lockdown as four lists of requests, told from the node
and the contact list as they were on connecting, and what such lists do to the
node.
-/

namespace MeshController

open HexEncoding MeshClient

/-! ## What a list of requests does to the node -/

def Companion.settings (companion : Companion) :
    UInt8 × Option UInt8 × (ℕ → ChannelInfoData) :=
  (companion.autoaddConfig, companion.maxChannels, companion.channels)

def MutatingRpc.concernsContacts : MutatingRpc → Bool
  | setAutoaddConfig _ => false
  | setChannel _ _ => false
  | addContact _ => true
  | removeContact _ => true

section Attempts

variable {attempts : List Attempt} {companion : Companion}

theorem settings_foldl_attempt
    (hcontacts : ∀ a ∈ attempts, a.rpc.concernsContacts = true) :
    (attempts.foldl Companion.attempt companion).settings =
      companion.settings := by
  induction attempts generalizing companion with
  | nil => rfl
  | cons a rest ih =>
      have hrest : ∀ a ∈ rest, a.rpc.concernsContacts = true := by
        intro other hmem
        exact hcontacts other (by simp [hmem])
      have hfirst := hcontacts a (by simp)
      obtain ⟨rpc, outcome⟩ := a
      rw [List.foldl_cons, ih hrest]
      cases rpc with
      | setAutoaddConfig flags => contradiction
      | setChannel idx channel => contradiction
      | addContact contact | removeContact contact =>
          cases outcome <;> rfl

theorem contact_kept_of_adds
    (hadds : ∀ a ∈ attempts, ∃ d, a.rpc = .addContact d)
    {c : Contact}
    (hother : ∀ a ∈ attempts, ∀ d, a.rpc = .addContact d →
      d.publicKey ≠ c.publicKey)
    (hmem : c ∈ companion.contacts) :
    c ∈ (attempts.foldl Companion.attempt companion).contacts := by
  induction attempts generalizing companion with
  | nil => exact hmem
  | cons a rest ih =>
      rcases hadds a (by simp) with ⟨d, hrpc⟩
      rw [List.foldl_cons]
      apply ih
      · intro other hrest
        exact hadds other (by simp [hrest])
      · intro other hrest
        exact hother other (by simp [hrest])
      · have hdistinct := hother a (by simp) d hrpc
        unfold Companion.attempt
        rw [hrpc]
        split
        · simp [Companion.perform, hmem, hdistinct.symm]
        · exact hmem

theorem contact_origin_of_adds
    (hadds : ∀ a ∈ attempts, ∃ d, a.rpc = .addContact d)
    {c : Contact}
    (hmem : c ∈ (attempts.foldl Companion.attempt companion).contacts) :
    c ∈ companion.contacts ∨ ∃ a ∈ attempts, a.rpc = .addContact c := by
  induction attempts generalizing companion with
  | nil => exact Or.inl hmem
  | cons a rest ih =>
      rcases hadds a (by simp) with ⟨d, hrpc⟩
      have hrest : ∀ a ∈ rest, ∃ d, a.rpc = .addContact d := by
        intro other hmem
        exact hadds other (by simp [hmem])
      rcases ih hrest hmem with hbefore | ⟨other, hother, hadd⟩
      · unfold Companion.attempt at hbefore
        rw [hrpc] at hbefore
        split at hbefore
        · simp only [Companion.perform, List.mem_append, List.mem_filter,
            List.mem_singleton] at hbefore
          rcases hbefore with ⟨hold, _⟩ | hnew
          · exact Or.inl hold
          · right
            refine ⟨a, by simp, ?_⟩
            rw [hrpc, hnew]
        · exact Or.inl hbefore
      · exact Or.inr ⟨other, by simp [hother], hadd⟩

theorem contact_declared_of_adds
    (hadds : ∀ a ∈ attempts, ∃ d, a.rpc = .addContact d)
    {publicKey : Vector UInt8 32}
    (hthere : (∃ c ∈ companion.contacts, c.publicKey = publicKey) ∨
      ∃ a ∈ attempts, a.outcome.takesEffect = true ∧
        ∃ d, a.rpc = .addContact d ∧ d.publicKey = publicKey) :
    ∃ c ∈ (attempts.foldl Companion.attempt companion).contacts,
      c.publicKey = publicKey := by
  induction attempts generalizing companion with
  | nil => simpa using hthere
  | cons a rest ih =>
      rcases hadds a (by simp) with ⟨d, hrpc⟩
      rw [List.foldl_cons]
      apply ih
      · intro other hrest
        exact hadds other (by simp [hrest])
      · rcases hthere with
          ⟨c, hmem, hkey⟩ | ⟨other, hother, heffect, e, he, hkey⟩
        · left
          unfold Companion.attempt
          rw [hrpc]
          split
          · by_cases hsame : c.publicKey = d.publicKey
            · refine ⟨d, by simp [Companion.perform], ?_⟩
              rw [← hsame, hkey]
            · exact ⟨c, by simp [Companion.perform, hmem, hsame], hkey⟩
          · exact ⟨c, hmem, hkey⟩
        · rcases List.mem_cons.mp hother with hfirst | hrest
          · left
            subst hfirst
            rw [hrpc] at he
            have hde : d = e := by simpa using he
            subst hde
            refine ⟨d, ?_, hkey⟩
            simp [Companion.attempt, heffect, hrpc, Companion.perform]
          · exact Or.inr ⟨other, hrest, heffect, e, he, hkey⟩

theorem mem_contacts_of_removals
    (hremovals : ∀ a ∈ attempts, ∃ d, a.rpc = .removeContact d)
    {c : Contact} :
    c ∈ (attempts.foldl Companion.attempt companion).contacts ↔
      c ∈ companion.contacts ∧
        ∀ a ∈ attempts, a.outcome.takesEffect = true →
          ∀ d, a.rpc = .removeContact d → d.publicKey ≠ c.publicKey := by
  induction attempts generalizing companion with
  | nil => simp
  | cons a rest ih =>
      rcases hremovals a (by simp) with ⟨d, hrpc⟩
      have hrest : ∀ a ∈ rest, ∃ d, a.rpc = .removeContact d := by
        intro other hmem
        exact hremovals other (by simp [hmem])
      have hfirst : c ∈ (companion.attempt a).contacts ↔
          c ∈ companion.contacts ∧ (a.outcome.takesEffect = true →
            d.publicKey ≠ c.publicKey) := by
        unfold Companion.attempt
        rw [hrpc]
        cases a.outcome.takesEffect with
        | false => simp
        | true => simp [Companion.perform, ne_comm]
      rw [List.foldl_cons, ih hrest, hfirst, List.forall_mem_cons, and_assoc]
      simp [hrpc]

theorem channels_of_removals
    (hremovals : ∀ a ∈ attempts, ∃ idx, a.rpc = .setChannel idx .empty)
    (idx : ℕ) :
    (attempts.foldl Companion.attempt companion).channels idx =
      if ∃ a ∈ attempts, a.outcome.takesEffect = true ∧
          a.rpc = .setChannel idx .empty then .empty
      else companion.channels idx := by
  induction attempts generalizing companion with
  | nil => simp
  | cons a rest ih =>
      rcases hremovals a (by simp) with ⟨first, hrpc⟩
      have hrest : ∀ a ∈ rest, ∃ idx, a.rpc = .setChannel idx .empty := by
        intro other hmem
        exact hremovals other (by simp [hmem])
      have hfirst : (companion.attempt a).channels idx =
          if a.outcome.takesEffect = true ∧ first = idx then .empty
          else companion.channels idx := by
        unfold Companion.attempt
        rw [hrpc]
        by_cases heffect : a.outcome.takesEffect = true
        · by_cases hidx : first = idx
          · subst hidx
            simp [Companion.perform, heffect]
          · have hother : idx ≠ first := fun hsame => hidx hsame.symm
            simp [Companion.perform, heffect, hidx,
              Function.update_of_ne hother]
        · simp [heffect]
      rw [List.foldl_cons, ih hrest, hfirst]
      simp only [List.exists_mem_cons_iff, hrpc, MutatingRpc.setChannel.injEq,
        and_true]
      split
      next hlater => rw [if_pos (Or.inr hlater)]
      next hnone =>
        by_cases hnow : a.outcome.takesEffect = true ∧ first = idx
        · rw [if_pos hnow, if_pos (Or.inl hnow)]
        · rw [if_neg hnow, if_neg (not_or.mpr ⟨hnow, hnone⟩)]

theorem others_of_channel_removals
    (hremovals : ∀ a ∈ attempts, ∃ idx, a.rpc = .setChannel idx .empty) :
    (attempts.foldl Companion.attempt companion).autoaddConfig =
        companion.autoaddConfig ∧
      (attempts.foldl Companion.attempt companion).maxChannels =
        companion.maxChannels ∧
      (attempts.foldl Companion.attempt companion).contacts =
        companion.contacts := by
  induction attempts generalizing companion with
  | nil => exact ⟨rfl, rfl, rfl⟩
  | cons a rest ih =>
      rcases hremovals a (by simp) with ⟨idx, hrpc⟩
      have hrest : ∀ a ∈ rest, ∃ idx, a.rpc = .setChannel idx .empty := by
        intro other hmem
        exact hremovals other (by simp [hmem])
      rcases ih hrest with ⟨hauto, hmax, hcontacts⟩
      rw [List.foldl_cons, hauto, hmax, hcontacts]
      unfold Companion.attempt
      rw [hrpc]
      split <;> exact ⟨rfl, rfl, rfl⟩

end Attempts

theorem ChannelInfoData.isSet_eq_false_iff (channel : ChannelInfoData) :
    channel.isSet = false ↔ channel = .empty := by
  obtain ⟨name, secret⟩ := channel
  simp [ChannelInfoData.isSet, ChannelInfoData.empty]

/-! ## Which contacts are declared and removed -/

theorem isPrefixOf_prefixBytes_iff (first second : Contact) :
    first.prefixBytes.isPrefixOf second.publicKey.toList = true ↔
      second.prefixHex = first.prefixHex := by
  have hlength : first.prefixBytes.length = 6 := by
    simp [Contact.prefixBytes]
  rw [List.isPrefixOf_iff_prefix, List.prefix_iff_eq_take, hlength]
  constructor
  · intro htake
    rw [Contact.prefixHex, Contact.prefixHex, htake]
    rfl
  · intro hsame
    exact (hexEncode_injective hsame).symm

section Decoding

variable [HexDecoder]

theorem toDeclare_eq_some_iff
    {cache : List Contact} {repeater : ManagedRepeater} {d : Contact} :
    toDeclare cache repeater = some d ↔
      (∀ c ∈ cache, repeater.matches c.prefixHex = false) ∧
        contactToDeclare repeater = .ok d := by
  unfold toDeclare
  cases hany : cache.any fun c => repeater.matches c.prefixHex with
  | true =>
      rcases List.any_eq_true.mp hany with ⟨c, hmem, hmatches⟩
      simp only [if_true, reduceCtorEq, false_iff, not_and]
      intro hnone
      rw [hnone c hmem] at hmatches
      contradiction
  | false =>
      have hnone := List.any_eq_false.mp hany
      have hall : ∀ c ∈ cache, repeater.matches c.prefixHex = false := by
        simpa using hnone
      cases contactToDeclare repeater with
      | error reason => simp [Except.toOption]
      | ok contact =>
          simpa [Except.toOption] using fun _ : contact = d => hall

theorem publicKey_ne_of_toDeclare
    (hdecodes : DecodesHex) {cache : List Contact}
    {repeater : ManagedRepeater} {d c : Contact}
    (hdeclare : toDeclare cache repeater = some d) (hmem : c ∈ cache) :
    d.publicKey ≠ c.publicKey := by
  intro hsame
  rcases toDeclare_eq_some_iff.mp hdeclare with ⟨hnone, hcontact⟩
  have hmatches := matches_of_contactToDeclare hdecodes hcontact
  rw [Contact.prefixHex_congr hsame, hnone c hmem] at hmatches
  contradiction

theorem resolveContact_prefixHex
    (hdecodes : DecodesHex) (cache : List Contact) (c : Contact) :
    (resolveContact cache c.prefixHex).toOption =
      KeyedStore.get Contact.prefixHex cache c.prefixHex := by
  have hdecode : HexDecoder.hexDecode c.prefixHex = .ok c.prefixBytes := by
    rw [hdecodes, Contact.prefixHex, asciiLowercase_hexEncode]
  have hfind : (cache.find? fun other =>
      c.prefixBytes.isPrefixOf other.publicKey.toList) =
        KeyedStore.get Contact.prefixHex cache c.prefixHex := by
    unfold KeyedStore.get
    congr 1
    funext other
    rw [Bool.eq_iff_iff, isPrefixOf_prefixBytes_iff, decide_eq_true_iff]
  unfold resolveContact
  simp only [hdecode]
  rw [hfind]
  cases KeyedStore.get Contact.prefixHex cache c.prefixHex <;> rfl

end Decoding

/-! ## The requests of one lockdown -/

section Settings

variable (answers : LockdownAnswers)

def channelRemovals (companion : Companion) : List Attempt :=
  (channelsToCheck answers companion).filterMap
    (channelCorrection answers companion)

variable {answers} {companion : Companion} {a : Attempt}

theorem mem_channelRemovals_iff :
    a ∈ channelRemovals answers companion ↔
      ∃ idx ∈ channelsToCheck answers companion,
        answers.getChannel idx = true ∧
          (companion.channels idx).isSet = true ∧
            a = ⟨.setChannel idx .empty, answers.setChannel idx⟩ := by
  simp only [channelRemovals, List.mem_filterMap, channelCorrection]
  constructor
  · rintro ⟨idx, hidx, hsome⟩
    split at hsome
    next hdue =>
      rw [Bool.and_eq_true] at hdue
      exact ⟨idx, hidx, hdue.1, hdue.2, (Option.some.inj hsome).symm⟩
    next => contradiction
  · rintro ⟨idx, hidx, hget, hset, ha⟩
    exact ⟨idx, hidx, by simp [hget, hset, ha]⟩

theorem mem_channelsToCheck_iff {idx : ℕ} :
    idx ∈ channelsToCheck answers companion ↔
      answers.deviceQuery = true ∧
        ∃ maxChannels ∈ companion.maxChannels, idx < maxChannels.toNat := by
  unfold channelsToCheck
  cases answers.deviceQuery with
  | false => simp
  | true => cases hmax : companion.maxChannels <;> simp

theorem rpc_of_autoAddCorrection {rpc : MutatingRpc} :
    (∃ a ∈ autoAddCorrection answers companion, a.rpc = rpc) ↔
      rpc = .setAutoaddConfig 0 ∧
        answers.getAutoaddConfig = true ∧ companion.autoaddConfig ≠ 0 := by
  unfold autoAddCorrection
  split
  next hdue =>
    simp only [Bool.and_eq_true, decide_eq_true_eq] at hdue
    simp [hdue, eq_comm]
  next hdue =>
    simp only [Bool.and_eq_true, decide_eq_true_eq] at hdue
    simp [hdue]

theorem rpc_of_channelRemovals {rpc : MutatingRpc} :
    (∃ a ∈ channelRemovals answers companion, a.rpc = rpc) ↔
      ∃ idx, rpc = .setChannel idx .empty ∧
        idx ∈ channelsToCheck answers companion ∧
          answers.getChannel idx = true ∧ companion.channels idx ≠ .empty := by
  constructor
  · rintro ⟨a, ha, hrpc⟩
    rcases mem_channelRemovals_iff.mp ha with ⟨idx, hmem, hget, hset, rfl⟩
    refine ⟨idx, hrpc.symm, hmem, hget, ?_⟩
    rw [Ne, ← ChannelInfoData.isSet_eq_false_iff, hset]
    simp
  · rintro ⟨idx, rfl, hmem, hget, hset⟩
    rw [Ne, ← ChannelInfoData.isSet_eq_false_iff, Bool.not_eq_false] at hset
    exact ⟨_, mem_channelRemovals_iff.mpr ⟨idx, hmem, hget, hset, rfl⟩, rfl⟩

theorem channelRemovals_congr
    {other : Companion} (hmax : other.maxChannels = companion.maxChannels)
    (hchannels : other.channels = companion.channels) :
    channelRemovals answers other = channelRemovals answers companion := by
  unfold channelRemovals channelCorrection channelsToCheck
  rw [hmax, hchannels]

theorem foldl_autoAddCorrection
    {other : Companion} (hflags : other.autoaddConfig = companion.autoaddConfig) :
    (autoAddCorrection answers companion).toList.foldl Companion.attempt
        other =
      { other with
        autoaddConfig :=
          if answers.getAutoaddConfig && answers.setAutoaddConfig.takesEffect
          then 0 else companion.autoaddConfig } := by
  unfold autoAddCorrection
  rw [← hflags]
  cases hget : answers.getAutoaddConfig with
  | false => rfl
  | true =>
      by_cases hoff : other.autoaddConfig = 0
      · obtain ⟨flags, maxChannels, channels, contacts⟩ := other
        simp only at hoff
        simp [hoff]
      · cases heffect : answers.setAutoaddConfig.takesEffect <;>
          simp [hoff, heffect, Companion.attempt, Companion.perform]

theorem foldl_channelRemovals
    {other : Companion} (hchannels : other.channels = companion.channels) :
    (channelRemovals answers companion).foldl Companion.attempt other =
      { other with
        channels := fun idx =>
          if idx ∈ channelsToCheck answers companion ∧
              answers.getChannel idx = true ∧
                (answers.setChannel idx).takesEffect = true then .empty
          else companion.channels idx } := by
  have hremovals : ∀ a ∈ channelRemovals answers companion,
      ∃ idx, a.rpc = .setChannel idx .empty := by
    intro a hmem
    rcases mem_channelRemovals_iff.mp hmem with ⟨idx, _, _, _, rfl⟩
    exact ⟨idx, rfl⟩
  obtain ⟨hflags, hmax, hcontacts⟩ :
      ((channelRemovals answers companion).foldl Companion.attempt
          other).autoaddConfig = other.autoaddConfig ∧ _ ∧ _ :=
    others_of_channel_removals hremovals
  refine Companion.ext hflags hmax ?_ hcontacts
  funext idx
  rw [channels_of_removals hremovals, hchannels]
  by_cases hset : (companion.channels idx).isSet = true
  · congr 1
    rw [eq_iff_iff]
    constructor
    · rintro ⟨a, ha, heffect, hrpc⟩
      rcases mem_channelRemovals_iff.mp ha with ⟨found, hmem, hget, _, rfl⟩
      obtain ⟨rfl, _⟩ := MutatingRpc.setChannel.inj hrpc
      exact ⟨hmem, hget, heffect⟩
    · rintro ⟨hmem, hget, heffect⟩
      exact ⟨_, mem_channelRemovals_iff.mpr ⟨idx, hmem, hget, hset, rfl⟩,
        heffect, rfl⟩
  · have hempty : companion.channels idx = .empty := by
      simpa [ChannelInfoData.isSet_eq_false_iff] using hset
    simp [hempty]

/-- The node without its auto-add and its channels, as far as the requests
took effect. -/
def Companion.quieted
    (companion : Companion) (answers : LockdownAnswers) : Companion :=
  { companion with
    autoaddConfig :=
      if answers.getAutoaddConfig && answers.setAutoaddConfig.takesEffect
      then 0 else companion.autoaddConfig
    channels := fun idx =>
      if idx ∈ channelsToCheck answers companion ∧
          answers.getChannel idx = true ∧
            (answers.setChannel idx).takesEffect = true then .empty
      else companion.channels idx }

theorem foldl_quieting
    {other : Companion} (hsettings : other.settings = companion.settings) :
    (channelRemovals answers companion).foldl Companion.attempt
        ((autoAddCorrection answers companion).toList.foldl Companion.attempt
          other) =
      { companion.quieted answers with contacts := other.contacts } := by
  simp only [Companion.settings, Prod.mk.injEq] at hsettings
  rcases hsettings with ⟨hflags, hmax, hchannels⟩
  rw [foldl_autoAddCorrection hflags]
  rw [foldl_channelRemovals]
  · simp only [Companion.quieted, hmax]
  · exact hchannels

end Settings

section Lockdown

variable [HexDecoder] (answers : LockdownAnswers)

def declarations
    (managedRepeaters : List ManagedRepeater) (cache : List Contact) :
    List Attempt :=
  managedRepeaters.zipIdx.filterMap (declaration answers cache)

def contactRemovals
    (managedRepeaters : List ManagedRepeater) (cache : List Contact) :
    List Attempt :=
  (contactsToPrune (cache.map ContactDto.ofContact) managedRepeaters).filterMap
    (removal answers cache)

variable {answers} {managedRepeaters : List ManagedRepeater}
  {cache : List Contact} {companion : Companion} {a : Attempt}

theorem mem_declarations_iff :
    a ∈ declarations answers managedRepeaters cache ↔
      ∃ r i d, managedRepeaters[i]? = some r ∧ toDeclare cache r = some d ∧
        a = ⟨.addContact d, answers.declare i⟩ := by
  simp only [declarations, List.mem_filterMap, declaration,
    Option.map_eq_some_iff, Prod.exists, List.mk_mem_zipIdx_iff_getElem?]
  constructor
  · rintro ⟨r, i, hr, d, hd, ha⟩
    exact ⟨r, i, d, hr, hd, ha.symm⟩
  · rintro ⟨r, i, d, hr, hd, ha⟩
    exact ⟨r, i, hr, d, hd, ha.symm⟩

/-- With distinct prefixes, it is the contact itself that is looked up. -/
theorem mem_contactRemovals_iff
    (hdecodes : DecodesHex) (hdistinct : (cache.map Contact.prefixHex).Nodup) :
    a ∈ contactRemovals answers managedRepeaters cache ↔
      ∃ c ∈ cache, (∀ r ∈ managedRepeaters, r.matches c.prefixHex = false) ∧
        a = ⟨.removeContact c, answers.removeContact c.prefixHex⟩ := by
  have hresolve : ∀ c ∈ cache,
      (resolveContact cache c.prefixHex).toOption = some c := by
    intro c hmem
    rw [resolveContact_prefixHex hdecodes]
    exact KeyedStore.get_of_mem hdistinct hmem
  simp only [contactRemovals, List.mem_filterMap, mem_contactsToPrune_iff,
    List.mem_map, removal, Option.map_eq_some_iff]
  constructor
  · rintro ⟨_, ⟨⟨c, hmem, rfl⟩, hunmatched⟩, d, hd, ha⟩
    rw [publicKeyPrefixHex_ofContact, hresolve c hmem] at hd
    obtain rfl := Option.some.inj hd
    exact ⟨c, hmem, hunmatched, ha.symm⟩
  · rintro ⟨c, hmem, hunmatched, ha⟩
    exact ⟨ContactDto.ofContact c, ⟨⟨c, hmem, rfl⟩, hunmatched⟩, c,
      hresolve c hmem, ha.symm⟩

theorem rpc_of_declarations {rpc : MutatingRpc} :
    (∃ a ∈ declarations answers managedRepeaters cache, a.rpc = rpc) ↔
      ∃ d, rpc = .addContact d ∧
        ∃ r ∈ managedRepeaters, toDeclare cache r = some d := by
  constructor
  · rintro ⟨a, ha, hrpc⟩
    rcases mem_declarations_iff.mp ha with ⟨r, i, d, hr, hdeclare, rfl⟩
    exact ⟨d, hrpc.symm, r, List.mem_of_getElem? hr, hdeclare⟩
  · rintro ⟨d, rfl, r, hr, hdeclare⟩
    rcases List.mem_iff_getElem?.mp hr with ⟨i, hi⟩
    exact ⟨_, mem_declarations_iff.mpr ⟨r, i, d, hi, hdeclare, rfl⟩, rfl⟩

theorem rpc_of_contactRemovals
    (hdecodes : DecodesHex) (hdistinct : (cache.map Contact.prefixHex).Nodup)
    {rpc : MutatingRpc} :
    (∃ a ∈ contactRemovals answers managedRepeaters cache, a.rpc = rpc) ↔
      ∃ c, rpc = .removeContact c ∧ c ∈ cache ∧
        ∀ r ∈ managedRepeaters, r.matches c.prefixHex = false := by
  constructor
  · rintro ⟨a, ha, hrpc⟩
    rcases (mem_contactRemovals_iff hdecodes hdistinct).mp ha with
      ⟨c, hmem, hunmatched, rfl⟩
    exact ⟨c, hrpc.symm, hmem, hunmatched⟩
  · rintro ⟨c, rfl, hmem, hunmatched⟩
    exact ⟨_, (mem_contactRemovals_iff hdecodes hdistinct).mpr
      ⟨c, hmem, hunmatched, rfl⟩, rfl⟩

theorem contact_spared_iff
    (hdecodes : DecodesHex) (hdistinct : (cache.map Contact.prefixHex).Nodup)
    {c : Contact} (hmem : c ∈ cache) :
    (∀ a ∈ contactRemovals answers managedRepeaters cache,
      a.outcome.takesEffect = true →
        ∀ d, a.rpc = .removeContact d → d.publicKey ≠ c.publicKey) ↔
      (∃ r ∈ managedRepeaters, r.matches c.prefixHex = true) ∨
        (answers.removeContact c.prefixHex).takesEffect = false := by
  constructor
  · intro hspared
    by_contra hneither
    rw [not_or, not_exists] at hneither
    have hunmatched : ∀ r ∈ managedRepeaters,
        r.matches c.prefixHex = false := by
      intro r hr
      simpa [hr] using hneither.1 r
    have hrequest : (⟨.removeContact c, answers.removeContact c.prefixHex⟩ :
        Attempt) ∈ contactRemovals answers managedRepeaters cache :=
      (mem_contactRemovals_iff hdecodes hdistinct).mpr
        ⟨c, hmem, hunmatched, rfl⟩
    exact hspared _ hrequest (by simpa using hneither.2) c rfl rfl
  · intro hor a ha heffect d hrpc hsame
    rcases (mem_contactRemovals_iff hdecodes hdistinct).mp ha with
      ⟨pruned, _, hunmatched, rfl⟩
    obtain rfl := MutatingRpc.removeContact.inj hrpc
    rw [Contact.prefixHex_congr hsame] at hunmatched heffect
    rcases hor with ⟨r, hr, hmatches⟩ | hineffective
    · rw [hunmatched r hr] at hmatches
      contradiction
    · rw [hineffective] at heffect
      contradiction

theorem settings_declarations :
    ((declarations answers managedRepeaters cache).foldl Companion.attempt
      companion).settings = companion.settings := by
  apply settings_foldl_attempt
  intro a hmem
  rcases mem_declarations_iff.mp hmem with ⟨r, i, d, _, _, ha⟩
  rw [ha]
  rfl

theorem adds_of_declarations :
    ∀ a ∈ declarations answers managedRepeaters cache,
      ∃ d, a.rpc = .addContact d := by
  intro a hmem
  rcases mem_declarations_iff.mp hmem with ⟨r, i, d, _, _, ha⟩
  exact ⟨d, by rw [ha]⟩

theorem contact_kept_of_declarations
    (hdecodes : DecodesHex) (hread : cache.Perm companion.contacts)
    {c : Contact} (hmem : c ∈ companion.contacts) :
    c ∈ ((declarations answers managedRepeaters cache).foldl Companion.attempt
      companion).contacts := by
  apply contact_kept_of_adds adds_of_declarations _ hmem
  intro a ha d hrpc
  rcases mem_declarations_iff.mp ha with ⟨r, i, declared, _, hdeclare, rfl⟩
  obtain rfl := MutatingRpc.addContact.inj hrpc
  exact publicKey_ne_of_toDeclare hdecodes hdeclare
    (hread.mem_iff.mpr hmem)

theorem toDeclare_of_read
    (hread : cache.Perm companion.contacts) (r : ManagedRepeater)
    (d : Contact) :
    toDeclare cache r = some d ↔ toDeclare companion.contacts r = some d := by
  simp only [toDeclare_eq_some_iff, hread.mem_iff]

theorem declarations_eq_nil
    (hdecodes : DecodesHex) (hread : cache.Perm companion.contacts)
    (hknown : ∀ r ∈ managedRepeaters, ∀ key : Vector UInt8 32,
      asciiLowercase r.publicKeyHex = hexDigits key.toList →
        ∃ c ∈ companion.contacts, r.matches c.prefixHex = true) :
    declarations answers managedRepeaters cache = [] := by
  rw [List.eq_nil_iff_forall_not_mem]
  intro a ha
  rcases mem_declarations_iff.mp ha with ⟨r, i, d, hr, hdeclare, _⟩
  rw [toDeclare_of_read hread, toDeclare_eq_some_iff] at hdeclare
  obtain ⟨c, hmem, hmatches⟩ := hknown r (List.mem_of_getElem? hr)
    d.publicKey (fullKey_of_contactToDeclare hdecodes hdeclare.2)
  rw [hdeclare.1 c hmem] at hmatches
  contradiction

theorem contact_origin_of_declarations
    (hdecodes : DecodesHex) {c : Contact}
    (hmem : c ∈ ((declarations answers managedRepeaters cache).foldl
      Companion.attempt companion).contacts) :
    c ∈ companion.contacts ∨
      ∃ r ∈ managedRepeaters, r.matches c.prefixHex = true := by
  rcases contact_origin_of_adds adds_of_declarations hmem with
    hold | ⟨a, ha, hrpc⟩
  · exact Or.inl hold
  · right
    rcases mem_declarations_iff.mp ha with ⟨r, i, d, hr, hdeclare, rfl⟩
    obtain rfl := MutatingRpc.addContact.inj hrpc
    exact ⟨r, List.mem_of_getElem? hr, matches_of_contactToDeclare hdecodes
      (toDeclare_eq_some_iff.mp hdeclare).2⟩

theorem removals_of_contactRemovals :
    ∀ a ∈ contactRemovals answers managedRepeaters cache,
      ∃ d ∈ cache, a.rpc = .removeContact d := by
  intro a hmem
  simp only [contactRemovals, List.mem_filterMap, removal,
    Option.map_eq_some_iff] at hmem
  rcases hmem with ⟨dto, _, d, hresolve, rfl⟩
  refine ⟨d, ?_, rfl⟩
  unfold resolveContact at hresolve
  cases hdecode : HexDecoder.hexDecode dto.publicKeyPrefixHex with
  | error reason => simp [hdecode, Except.toOption] at hresolve
  | ok prefixBytes =>
      simp only [hdecode] at hresolve
      cases hfind : cache.find? fun c =>
          prefixBytes.isPrefixOf c.publicKey.toList with
      | none => simp [hfind, Except.toOption] at hresolve
      | some found =>
          simp only [hfind, Except.toOption, Option.some.injEq] at hresolve
          rw [← hresolve]
          exact List.mem_of_find?_eq_some hfind

/-! ## The passes on any client -/

/-- The requests of `enforce_observer_node_config`. -/
def enforcements
    (answers : LockdownAnswers) (managedRepeaters : List ManagedRepeater)
    (companion : Companion) (cache : List Contact) : List Attempt :=
  (autoAddCorrection answers companion).toList ++
    (channelRemovals answers companion ++
      contactRemovals answers managedRepeaters cache)

theorem after_enforceObserverNodeConfig
    (answers : LockdownAnswers) (client : MeshClient) {config : Config}
    (hon : config.daemon.observerNodeManagedConfig = true) :
    client.After
      (enforcements answers config.managedRepeaters client.companion
        client.cache)
      (enforceObserverNodeConfig answers config client) := by
  unfold enforceObserverNodeConfig
  rw [if_pos hon]
  have hauto := after_enforceAutoAdd answers client
  have hfolded := hauto.companion
  rw [foldl_autoAddCorrection rfl] at hfolded
  generalize enforceAutoAdd answers client = quiet at hauto hfolded ⊢
  have hwiped := after_enforceChannels answers quiet
  have hremovals : channelRemovals answers quiet.companion =
      channelRemovals answers client.companion := by
    apply channelRemovals_congr
    · rw [hfolded]
    · rw [hfolded]
  change quiet.After (channelRemovals answers quiet.companion) _ at hwiped
  rw [hremovals] at hwiped
  generalize enforceChannels answers quiet = wiped at hwiped ⊢
  have hpruned := after_pruneContacts answers wiped config.managedRepeaters
  rw [MeshClient.contacts, hwiped.cache, hauto.cache] at hpruned
  exact hauto.trans (hwiped.trans hpruned)

theorem enforcements_congr
    {other : Companion} (hsettings : other.settings = companion.settings) :
    enforcements answers managedRepeaters other cache =
      enforcements answers managedRepeaters companion cache := by
  simp only [Companion.settings, Prod.mk.injEq] at hsettings
  rcases hsettings with ⟨hflags, hmax, hchannels⟩
  unfold enforcements
  rw [channelRemovals_congr hmax hchannels, autoAddCorrection, hflags]
  rfl

/-- All requests of a lockdown are told from the node and the contact list as
they were on connecting. -/
theorem after_lockdown
    (answers : LockdownAnswers) (companion : Companion) (cache : List Contact)
    {config : Config} (hon : config.daemon.observerNodeManagedConfig = true) :
    (connect companion cache).After
      (declarations answers config.managedRepeaters cache ++
        enforcements answers config.managedRepeaters companion cache)
      (lockdown answers config (connect companion cache)) := by
  have hdeclared : (connect companion cache).After
      (declarations answers config.managedRepeaters cache)
      (reconcileManagedRepeaters answers config.managedRepeaters
        (connect companion cache)) :=
    after_reconcileManagedRepeaters answers (connect companion cache)
      config.managedRepeaters
  have hsettings : (reconcileManagedRepeaters answers config.managedRepeaters
      (connect companion cache)).companion.settings = companion.settings := by
    rw [hdeclared.companion]
    exact settings_declarations
  have hcache : (reconcileManagedRepeaters answers config.managedRepeaters
      (connect companion cache)).cache = cache := hdeclared.cache
  have henforced := after_enforceObserverNodeConfig answers
    (reconcileManagedRepeaters answers config.managedRepeaters
      (connect companion cache)) hon
  rw [enforcements_congr hsettings, hcache] at henforced
  exact hdeclared.trans henforced

theorem settings_foldl_enforcements
    {other : Companion} (hsettings : other.settings = companion.settings) :
    ((enforcements answers managedRepeaters companion cache).foldl
      Companion.attempt other).settings =
        (companion.quieted answers).settings := by
  unfold enforcements
  rw [List.foldl_append, List.foldl_append, foldl_quieting hsettings]
  apply settings_foldl_attempt
  intro a hmem
  rcases removals_of_contactRemovals a hmem with ⟨d, _, hrpc⟩
  rw [hrpc]
  rfl

theorem mem_contacts_of_enforcements
    {other : Companion} (hsettings : other.settings = companion.settings)
    {c : Contact} :
    c ∈ ((enforcements answers managedRepeaters companion cache).foldl
      Companion.attempt other).contacts ↔
    c ∈ other.contacts ∧
      ∀ a ∈ contactRemovals answers managedRepeaters cache,
        a.outcome.takesEffect = true →
          ∀ d, a.rpc = .removeContact d → d.publicKey ≠ c.publicKey := by
  unfold enforcements
  rw [List.foldl_append, List.foldl_append, foldl_quieting hsettings]
  apply mem_contacts_of_removals
  intro a hmem
  rcases removals_of_contactRemovals a hmem with ⟨d, _, hrpc⟩
  exact ⟨d, hrpc⟩

/-- A repeater which is declared is there after the lockdown. -/
theorem contact_declared_of_lockdown
    (hdecodes : DecodesHex) {config : Config}
    (hon : config.daemon.observerNodeManagedConfig = true)
    {i : ℕ} {r : ManagedRepeater} {d : Contact}
    (hr : config.managedRepeaters[i]? = some r)
    (hdeclare : toDeclare cache r = some d)
    (heffect : (answers.declare i).takesEffect = true) :
    ∃ c ∈ (lockdown answers config
      (connect companion cache)).companion.contacts,
        c.publicKey = d.publicKey := by
  have hrequest : (⟨.addContact d, answers.declare i⟩ : Attempt) ∈
      declarations answers config.managedRepeaters cache :=
    mem_declarations_iff.mpr ⟨r, i, d, hr, hdeclare, rfl⟩
  obtain ⟨c, hmem, hkey⟩ : ∃ c ∈
      ((declarations answers config.managedRepeaters cache).foldl
        Companion.attempt companion).contacts, c.publicKey = d.publicKey :=
    contact_declared_of_adds adds_of_declarations
      (Or.inr ⟨_, hrequest, heffect, d, rfl, rfl⟩)
  refine ⟨c, ?_, hkey⟩
  rw [(after_lockdown answers companion cache hon).companion,
    List.foldl_append]
  refine (mem_contacts_of_enforcements settings_declarations).mpr ⟨hmem, ?_⟩
  intro a ha _ pruned hrpc hsame
  rcases removals_of_contactRemovals a ha with ⟨other, hother, hremoval⟩
  rw [hremoval] at hrpc
  obtain rfl := MutatingRpc.removeContact.inj hrpc
  exact publicKey_ne_of_toDeclare hdecodes hdeclare hother
    (hkey.symm.trans hsame.symm)

end Lockdown

end MeshController
