import MeshController.CompanionNode

/-!
# Locking the observation node down

On every connect the configured repeaters are declared, and then the node's
own auto-add, its channels and all other contacts are taken away.  Each of
these corrections is one request, made or not made whatever became of the
others.
-/

namespace MeshController

open HexEncoding MeshClient

/-- What becomes of each request.  `declare` goes by the position of the
repeater in the configuration, `removeContact` by the prefix of the contact. -/
structure LockdownAnswers where
  declare : ℕ → RpcOutcome
  getAutoaddConfig : Bool
  setAutoaddConfig : RpcOutcome
  deviceQuery : Bool
  getChannel : ℕ → Bool
  setChannel : ℕ → RpcOutcome
  removeContact : String → RpcOutcome

/-- Every request succeeds. -/
structure LockdownAnswers.AllSucceed (answers : LockdownAnswers) : Prop where
  declare : ∀ i, answers.declare i = .ok
  getAutoaddConfig : answers.getAutoaddConfig = true
  setAutoaddConfig : answers.setAutoaddConfig = .ok
  deviceQuery : answers.deviceQuery = true
  getChannel : ∀ idx, answers.getChannel idx = true
  setChannel : ∀ idx, answers.setChannel idx = .ok
  removeContact : ∀ key, answers.removeContact key = .ok

def LockdownAnswers.succeeding : LockdownAnswers where
  declare := fun _ => .ok
  getAutoaddConfig := true
  setAutoaddConfig := .ok
  deviceQuery := true
  getChannel := fun _ => true
  setChannel := fun _ => .ok
  removeContact := fun _ => .ok

theorem LockdownAnswers.allSucceed_succeeding : succeeding.AllSucceed :=
  ⟨fun _ => rfl, rfl, rfl, rfl, fun _ => rfl, fun _ => rfl, fun _ => rfl⟩

def ChannelInfoData.isSet (channel : ChannelInfoData) : Bool :=
  channel.name ≠ "" || channel.secret ≠ Vector.replicate 16 0

section Passes

variable [HexDecoder] (answers : LockdownAnswers)

def reconcileOne (client : MeshClient) (entry : ManagedRepeater × ℕ) :
    MeshClient :=
  let alreadyKnown := client.contacts.any fun c =>
    entry.1.matches c.publicKeyPrefixHex
  if alreadyKnown then client
  else
    announceIfDone (.managedRepeaterDeclared entry.1.name)
      (client.declareContact entry.1 (answers.declare entry.2))

def reconcileManagedRepeaters
    (managedRepeaters : List ManagedRepeater) (client : MeshClient) :
    MeshClient :=
  managedRepeaters.zipIdx.foldl (reconcileOne answers) client

def enforceAutoAdd (client : MeshClient) : MeshClient :=
  if answers.getAutoaddConfig && client.companion.autoaddConfig ≠ 0 then
    announceIfDone (.observerNodeConfigEnforced "disabled contact auto-add")
      (client.disableAutoAddContacts answers.setAutoaddConfig)
  else client

def enforceChannel (client : MeshClient) (idx : ℕ) : MeshClient :=
  if answers.getChannel idx && (client.companion.channels idx).isSet then
    announceIfDone
      (.observerNodeConfigEnforced ("removed channel " ++ toString idx))
      (client.removeChannel idx (answers.setChannel idx))
  else client

def enforceChannels (client : MeshClient) : MeshClient :=
  let maxChannels :=
    if answers.deviceQuery then client.companion.maxChannels else none
  match maxChannels with
  | some maxChannels =>
      (List.range maxChannels.toNat).foldl (enforceChannel answers) client
  | none => client

def pruneOne (client : MeshClient) (contact : ContactDto) : MeshClient :=
  announceIfDone
    (.observerNodeConfigEnforced
      ("pruned non-managed contact " ++ contact.name))
    (client.removeContact contact.publicKeyPrefixHex
      (answers.removeContact contact.publicKeyPrefixHex))

def pruneContacts
    (managedRepeaters : List ManagedRepeater) (client : MeshClient) :
    MeshClient :=
  (contactsToPrune client.contacts managedRepeaters).foldl (pruneOne answers)
    client

def enforceObserverNodeConfig (config : Config) (client : MeshClient) :
    MeshClient :=
  if config.daemon.observerNodeManagedConfig then
    pruneContacts answers config.managedRepeaters
      (enforceChannels answers (enforceAutoAdd answers client))
  else client

/-- What the mesh task does to the node on every connect. -/
def lockdown (config : Config) (client : MeshClient) : MeshClient :=
  enforceObserverNodeConfig answers config
    (reconcileManagedRepeaters answers config.managedRepeaters client)

end Passes

/-! ## One correction -/

/-- A request and what becomes of it. -/
structure Attempt where
  rpc : MutatingRpc
  outcome : RpcOutcome

def Companion.attempt (companion : Companion) (attempt : Attempt) : Companion :=
  if attempt.outcome.takesEffect then companion.perform attempt.rpc
  else companion

/-- A correction which is made if there is anything to correct. -/
def MeshClient.correct
    (client : MeshClient) (kind : MeshEventKind) : Option Attempt → MeshClient
  | none => client
  | some attempt =>
      announceIfDone kind (client.call attempt.rpc attempt.outcome)

/-- What a client is after a list of requests. -/
structure MeshClient.After
    (client : MeshClient) (attempts : List Attempt) (next : MeshClient) :
    Prop where
  cache : next.cache = client.cache
  issued : next.issued = client.issued ++ attempts.map Attempt.rpc
  companion : next.companion =
    attempts.foldl Companion.attempt client.companion

theorem MeshClient.After.refl (client : MeshClient) : client.After [] client :=
  ⟨rfl, by simp, rfl⟩

theorem MeshClient.After.trans
    {client middle next : MeshClient} {first second : List Attempt}
    (hfirst : client.After first middle) (hsecond : middle.After second next) :
    client.After (first ++ second) next := by
  refine ⟨hsecond.cache.trans hfirst.cache, ?_, ?_⟩
  · rw [hsecond.issued, hfirst.issued, List.map_append, List.append_assoc]
  · rw [hsecond.companion, hfirst.companion, List.foldl_append]

theorem MeshClient.after_correct
    (client : MeshClient) (kind : MeshEventKind) (attempt : Option Attempt) :
    client.After attempt.toList (client.correct kind attempt) := by
  cases attempt with
  | none => exact After.refl client
  | some attempt =>
      obtain ⟨rpc, outcome⟩ := attempt
      cases outcome <;> exact ⟨rfl, rfl, rfl⟩

/-- A loop of corrections none of which changes what a later one is. -/
theorem MeshClient.after_foldl_correct
    {Item : Type*} {step : MeshClient → Item → MeshClient}
    {kind : Item → MeshEventKind}
    {attemptOf : MeshClient → Item → Option Attempt}
    (hstep : ∀ client item,
      step client item = client.correct (kind item) (attemptOf client item))
    {items : List Item}
    (hkeeps : items.Pairwise fun first second => ∀ client,
      attemptOf (step client first) second = attemptOf client second)
    (client : MeshClient) :
    client.After (items.filterMap (attemptOf client))
      (items.foldl step client) := by
  induction items generalizing client with
  | nil => exact After.refl client
  | cons item rest ih =>
      rw [List.pairwise_cons] at hkeeps
      have hfirst : client.After (attemptOf client item).toList
          (step client item) := by
        rw [hstep]
        exact client.after_correct _ _
      have hrest : rest.filterMap (attemptOf (step client item)) =
          rest.filterMap (attemptOf client) := by
        apply List.filterMap_congr
        intro other hmem
        exact hkeeps.1 other hmem client
      have hboth := hfirst.trans (ih hkeeps.2 (step client item))
      rw [hrest] at hboth
      cases hattempt : attemptOf client item <;>
        simpa [hattempt] using hboth

/-! ## Corrections of auto-add and of the channels -/

section Settings

variable (answers : LockdownAnswers)

def autoAddCorrection (companion : Companion) : Option Attempt :=
  if answers.getAutoaddConfig && companion.autoaddConfig ≠ 0 then
    some ⟨.setAutoaddConfig 0, answers.setAutoaddConfig⟩
  else none

def channelCorrection (companion : Companion) (idx : ℕ) : Option Attempt :=
  if answers.getChannel idx && (companion.channels idx).isSet then
    some ⟨.setChannel idx .empty, answers.setChannel idx⟩
  else none

def channelsToCheck (companion : Companion) : List ℕ :=
  if answers.deviceQuery then
    companion.maxChannels.elim [] fun maxChannels =>
      List.range maxChannels.toNat
  else []

variable (client : MeshClient)

theorem enforceAutoAdd_eq :
    enforceAutoAdd answers client =
      client.correct (.observerNodeConfigEnforced "disabled contact auto-add")
        (autoAddCorrection answers client.companion) := by
  unfold enforceAutoAdd autoAddCorrection
  split <;> rfl

theorem enforceChannel_eq (idx : ℕ) :
    enforceChannel answers client idx =
      client.correct
        (.observerNodeConfigEnforced ("removed channel " ++ toString idx))
        (channelCorrection answers client.companion idx) := by
  unfold enforceChannel channelCorrection
  split <;> rfl

theorem enforceChannels_eq :
    enforceChannels answers client =
      (channelsToCheck answers client.companion).foldl
        (enforceChannel answers) client := by
  unfold enforceChannels channelsToCheck
  cases answers.deviceQuery with
  | false => rfl
  | true => cases client.companion.maxChannels <;> rfl

theorem after_enforceAutoAdd :
    client.After (autoAddCorrection answers client.companion).toList
      (enforceAutoAdd answers client) := by
  rw [enforceAutoAdd_eq]
  exact client.after_correct _ _

theorem nodup_channelsToCheck (companion : Companion) :
    (channelsToCheck answers companion).Nodup := by
  unfold channelsToCheck
  cases answers.deviceQuery with
  | false => exact List.nodup_nil
  | true =>
      cases companion.maxChannels with
      | none => exact List.nodup_nil
      | some maxChannels => exact List.nodup_range

theorem channelCorrection_after_enforceChannel
    {first second : ℕ} (hdistinct : first ≠ second) :
    channelCorrection answers (enforceChannel answers client first).companion
      second = channelCorrection answers client.companion second := by
  have hafter := client.after_correct
    (.observerNodeConfigEnforced ("removed channel " ++ toString first))
    (channelCorrection answers client.companion first)
  have hchannel : (enforceChannel answers client first).companion.channels
      second = client.companion.channels second := by
    rw [enforceChannel_eq, hafter.companion]
    unfold channelCorrection
    split
    · simp only [Option.toList_some, List.foldl_cons, List.foldl_nil,
        Companion.attempt]
      split
      · exact Function.update_of_ne hdistinct.symm _ _
      · rfl
    · rfl
  simp only [channelCorrection, hchannel]

theorem after_enforceChannels :
    client.After
      ((channelsToCheck answers client.companion).filterMap
        (channelCorrection answers client.companion))
      (enforceChannels answers client) := by
  rw [enforceChannels_eq]
  have hkeeps := (nodup_channelsToCheck answers client.companion).imp
    fun hdistinct client =>
      channelCorrection_after_enforceChannel answers client hdistinct
  exact client.after_foldl_correct (enforceChannel_eq answers) hkeeps

end Settings

/-! ## Corrections of the contacts -/

section Contacts

variable [HexDecoder]

/-- The contact a repeater still has to be declared as. -/
def toDeclare (cache : List Contact) (repeater : ManagedRepeater) :
    Option Contact :=
  if cache.any fun c => repeater.matches c.prefixHex then none
  else (contactToDeclare repeater).toOption

variable (answers : LockdownAnswers)

def declaration (cache : List Contact) (entry : ManagedRepeater × ℕ) :
    Option Attempt :=
  (toDeclare cache entry.1).map fun contact =>
    ⟨.addContact contact, answers.declare entry.2⟩

def removal (cache : List Contact) (contact : ContactDto) : Option Attempt :=
  (resolveContact cache contact.publicKeyPrefixHex).toOption.map
    fun resolved =>
      ⟨.removeContact resolved,
        answers.removeContact contact.publicKeyPrefixHex⟩

variable (client : MeshClient)

theorem reconcileOne_eq (entry : ManagedRepeater × ℕ) :
    reconcileOne answers client entry =
      client.correct (.managedRepeaterDeclared entry.1.name)
        (declaration answers client.cache entry) := by
  have hknown : (client.contacts.any fun c =>
      entry.1.matches c.publicKeyPrefixHex) =
        client.cache.any fun c => entry.1.matches c.prefixHex := by
    rw [MeshClient.contacts, List.any_map]
    rfl
  unfold reconcileOne declaration toDeclare
  rw [hknown]
  cases client.cache.any fun c => entry.1.matches c.prefixHex with
  | true => rfl
  | false =>
      unfold MeshClient.declareContact
      cases contactToDeclare entry.1 <;> rfl

theorem pruneOne_eq (contact : ContactDto) :
    pruneOne answers client contact =
      client.correct
        (.observerNodeConfigEnforced
          ("pruned non-managed contact " ++ contact.name))
        (removal answers client.cache contact) := by
  unfold pruneOne MeshClient.removeContact removal
  cases resolveContact client.cache contact.publicKeyPrefixHex <;> rfl

theorem after_reconcileManagedRepeaters
    (managedRepeaters : List ManagedRepeater) :
    client.After
      (managedRepeaters.zipIdx.filterMap (declaration answers client.cache))
      (reconcileManagedRepeaters answers managedRepeaters client) := by
  have hkeeps : managedRepeaters.zipIdx.Pairwise fun first second =>
      ∀ client : MeshClient,
        declaration answers (reconcileOne answers client first).cache second =
          declaration answers client.cache second := by
    apply List.pairwise_of_forall
    intro first second client
    rw [reconcileOne_eq, (client.after_correct _ _).cache]
  exact client.after_foldl_correct (reconcileOne_eq answers) hkeeps

theorem after_pruneContacts (managedRepeaters : List ManagedRepeater) :
    client.After
      ((contactsToPrune client.contacts managedRepeaters).filterMap
        (removal answers client.cache))
      (pruneContacts answers managedRepeaters client) := by
  have hkeeps : (contactsToPrune client.contacts managedRepeaters).Pairwise
      fun first second => ∀ client : MeshClient,
        removal answers (pruneOne answers client first).cache second =
          removal answers client.cache second := by
    apply List.pairwise_of_forall
    intro first second client
    rw [pruneOne_eq, (client.after_correct _ _).cache]
  exact client.after_foldl_correct (pruneOne_eq answers) hkeeps

end Contacts

end MeshController
