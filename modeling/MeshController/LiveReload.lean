import MeshController.LockdownConvergence

/-!
# A live reload against a reconnect

On connecting, the mesh task declares the configured repeaters and then
enforces the lockdown.  A reload sends `ResyncObserverConfig`, which only
enforces.  The two agree on the node exactly if there is nothing to declare.
-/

namespace MeshController

open HexEncoding MeshClient

/-- The daemon while its mesh connection is up. -/
structure ConnectedDaemon where
  config : Config
  client : MeshClient

/-- `reload_once`, as far as the node goes: the configuration is replaced, and
the answer is whether `ResyncObserverConfig` is sent.  What could not be
loaded is `none`. -/
def ConnectedDaemon.reloadOnce
    (daemon : ConnectedDaemon) : Option Config → ConnectedDaemon × Bool
  | none => (daemon, false)
  | some newConfig =>
      ({ daemon with config := newConfig },
        newConfig.daemon.observerNodeManagedConfig)

section Paths

variable [HexDecoder] (answers : LockdownAnswers)

/-- The arm of `handle_command` for `ResyncObserverConfig`. -/
def ConnectedDaemon.handleResyncObserverConfig
    (daemon : ConnectedDaemon) : ConnectedDaemon :=
  { daemon with
    client := enforceObserverNodeConfig answers daemon.config daemon.client }

/-- A reload and the command it sends. -/
def ConnectedDaemon.liveReload
    (daemon : ConnectedDaemon) (loaded : Option Config) : ConnectedDaemon :=
  match daemon.reloadOnce loaded with
  | (reloaded, true) => reloaded.handleResyncObserverConfig answers
  | (reloaded, false) => reloaded

/-- The connection is lost and made again under the new configuration, and the
contacts are read afresh. -/
def ConnectedDaemon.reconnect
    (daemon : ConnectedDaemon) (newConfig : Config) : ConnectedDaemon where
  config := newConfig
  client := lockdown answers newConfig
    (connect daemon.client.companion daemon.client.cache)

end Paths

/-- The same node as far as a lockdown goes. -/
structure SameNode (first second : Companion) : Prop where
  autoaddConfig : first.autoaddConfig = second.autoaddConfig
  channels : first.channels = second.channels
  contacts : ∀ c, c ∈ first.contacts ↔ c ∈ second.contacts

section Agreement

variable [HexDecoder] {answers : LockdownAnswers} {daemon : ConnectedDaemon}
  {newConfig : Config}

theorem companion_liveReload
    (hon : newConfig.daemon.observerNodeManagedConfig = true) :
    (daemon.liveReload answers (some newConfig)).client.companion =
      (enforcements answers newConfig.managedRepeaters daemon.client.companion
        daemon.client.cache).foldl Companion.attempt
          daemon.client.companion := by
  simp only [ConnectedDaemon.liveReload, ConnectedDaemon.reloadOnce, hon]
  exact (after_enforceObserverNodeConfig answers daemon.client hon).companion

theorem companion_reconnect
    (hon : newConfig.daemon.observerNodeManagedConfig = true) :
    (daemon.reconnect answers newConfig).client.companion =
      (enforcements answers newConfig.managedRepeaters daemon.client.companion
        daemon.client.cache).foldl Companion.attempt
          ((declarations answers newConfig.managedRepeaters
            daemon.client.cache).foldl Companion.attempt
              daemon.client.companion) := by
  unfold ConnectedDaemon.reconnect
  rw [(after_lockdown answers _ _ hon).companion, List.foldl_append]
  rfl

theorem contact_old_of_liveReload
    (hon : newConfig.daemon.observerNodeManagedConfig = true)
    {c : Contact}
    (hmem : c ∈
      (daemon.liveReload answers (some newConfig)).client.companion.contacts) :
    c ∈ daemon.client.companion.contacts := by
  rw [companion_liveReload hon, mem_contacts_of_enforcements rfl] at hmem
  exact hmem.1

/-- A reconnect declares what the node does not know, and a live reload adds
nothing: if they agree, the node knew every repeater. -/
theorem known_of_sameNode
    (hdecodes : DecodesHex)
    (hon : newConfig.daemon.observerNodeManagedConfig = true)
    (hread : daemon.client.cache.Perm daemon.client.companion.contacts)
    (hsame : SameNode
      (daemon.liveReload .succeeding (some newConfig)).client.companion
      (daemon.reconnect .succeeding newConfig).client.companion)
    {r : ManagedRepeater} (hr : r ∈ newConfig.managedRepeaters)
    {key : Vector UInt8 32}
    (hkey : asciiLowercase r.publicKeyHex = hexDigits key.toList) :
    ∃ c ∈ daemon.client.companion.contacts, r.matches c.prefixHex = true := by
  by_contra hunknown
  have hnone : ∀ c ∈ daemon.client.cache, r.matches c.prefixHex = false := by
    intro c hmem
    cases hmatches : r.matches c.prefixHex with
    | false => rfl
    | true => exact absurd ⟨c, hread.mem_iff.mp hmem, hmatches⟩ hunknown
  have hcontact := contactToDeclare_of_fullKey hdecodes hkey
  have hdeclare := toDeclare_eq_some_iff.mpr ⟨hnone, hcontact⟩
  rcases List.mem_iff_getElem?.mp hr with ⟨i, hi⟩
  obtain ⟨c, hmem, hsameKey⟩ : ∃ c ∈
      (daemon.reconnect .succeeding newConfig).client.companion.contacts,
        c.publicKey = key :=
    contact_declared_of_lockdown hdecodes hon hi hdeclare rfl
  have hold := contact_old_of_liveReload hon ((hsame.contacts c).mpr hmem)
  have hmatches := matches_of_contactToDeclare hdecodes hcontact
  rw [← Contact.prefixHex_congr hsameKey] at hmatches
  exact hunknown ⟨c, hold, hmatches⟩

/-- A live reload does to the node what a reconnect does, exactly if every
entry of the new configuration which gives a full key already matches a
contact. -/
theorem live_reload_agrees_iff
    (hdecodes : DecodesHex) (daemon : ConnectedDaemon) (newConfig : Config)
    (hon : newConfig.daemon.observerNodeManagedConfig = true)
    (hread : daemon.client.cache.Perm daemon.client.companion.contacts) :
    SameNode
        (daemon.liveReload .succeeding (some newConfig)).client.companion
        (daemon.reconnect .succeeding newConfig).client.companion ↔
      ∀ r ∈ newConfig.managedRepeaters, ∀ key : Vector UInt8 32,
        asciiLowercase r.publicKeyHex = hexDigits key.toList →
          ∃ c ∈ daemon.client.companion.contacts,
            r.matches c.prefixHex = true := by
  constructor
  · intro hsame r hr key hkey
    exact known_of_sameNode hdecodes hon hread hsame hr hkey
  · intro hknown
    have hequal :
        (daemon.liveReload .succeeding (some newConfig)).client.companion =
          (daemon.reconnect .succeeding newConfig).client.companion := by
      rw [companion_liveReload hon, companion_reconnect hon,
        declarations_eq_nil hdecodes hread hknown]
      rfl
    rw [hequal]
    exact ⟨rfl, rfl, fun _ => Iff.rfl⟩

end Agreement

section Example

attribute [local instance] plainDecoder

/-- The hilltop repeater is in the configuration already, and the node knows
it. -/
theorem live_reload_agrees_iff_hilltop :
    SameNode
      ((⟨.bare, connect (.inUse [hilltop, stranger]) [hilltop, stranger]⟩ :
        ConnectedDaemon).liveReload .succeeding
          (some (.withHilltop (hexEncode hilltop.publicKey.toList)))
            ).client.companion
      ((⟨.bare, connect (.inUse [hilltop, stranger]) [hilltop, stranger]⟩ :
        ConnectedDaemon).reconnect .succeeding
          (.withHilltop (hexEncode hilltop.publicKey.toList))
            ).client.companion := by
  apply (live_reload_agrees_iff decodesHex_plainDecoder _ _ rfl
    (List.Perm.refl _)).mpr
  intro r hr key _
  rw [List.mem_singleton.mp hr]
  exact ⟨hilltop, by simp [connect, Companion.inUse], by decide⟩

/-- A repeater is added to the configuration which the node does not know. -/
theorem live_reload_disagrees_on_new_repeater :
    ¬ ∀ (daemon : ConnectedDaemon) (newConfig : Config),
      newConfig.daemon.observerNodeManagedConfig = true →
      daemon.client.cache.Perm daemon.client.companion.contacts →
      SameNode
        (daemon.liveReload .succeeding (some newConfig)).client.companion
        (daemon.reconnect .succeeding newConfig).client.companion := by
  intro hclaim
  have hsame := hclaim ⟨.bare, connect (.inUse []) []⟩
    (.withHilltop (hexEncode hilltop.publicKey.toList)) rfl
    (List.Perm.refl _)
  have hkey : asciiLowercase (hexEncode hilltop.publicKey.toList) =
      hexDigits hilltop.publicKey.toList := asciiLowercase_hexEncode _
  obtain ⟨c, hmem, _⟩ := known_of_sameNode decodesHex_plainDecoder rfl
    (List.Perm.refl _) hsame (List.mem_singleton_self _) hkey
  exact absurd hmem List.not_mem_nil

end Example

end MeshController
