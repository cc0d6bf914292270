import MeshController.BrokerTasks
import MeshController.KeyedPatch

/-!
# A configuration diff as a patch

What `diff_config` reports of the brokers is applied like a patch: removed
names are dropped, changed and added brokers are put under their names.  On
configurations which name their brokers apart, this leads from the brokers of
the old configuration to those of the new one.
-/

namespace MeshController

open TaskRegistry

instance (config : Config) : Decidable config.BrokersNamedApart :=
  inferInstanceAs (Decidable (List.Nodup _))

def Config.brokersByName (config : Config) :
    String → Option MqttBrokerConfig :=
  KeyedStore.get MqttBrokerConfig.name config.mqttBrokers

/-- Nothing is to be done. -/
def ConfigDiff.empty : ConfigDiff where
  restartRequired := []
  mqttAdded := []
  mqttRemoved := []
  mqttChanged := []

def ConfigDiff.addedNames (diff : ConfigDiff) : List String :=
  diff.mqttAdded.map MqttBrokerConfig.name

def ConfigDiff.changedNames (diff : ConfigDiff) : List String :=
  diff.mqttChanged.map MqttBrokerConfig.name

/-- In the order of `reload_once`. -/
def ConfigDiff.apply
    (diff : ConfigDiff) (brokers : String → Option MqttBrokerConfig) :
    String → Option MqttBrokerConfig :=
  KeyedPatch.patch MqttBrokerConfig.name diff.mqttRemoved
    (diff.mqttChanged ++ diff.mqttAdded) brokers

/-- The brokers after the diffs along a chain of configurations. -/
def applyDiffs (brokers : String → Option MqttBrokerConfig) :
    Config → List Config → String → Option MqttBrokerConfig
  | _, [] => brokers
  | old, new :: later =>
      applyDiffs ((diffConfig old new).apply brokers) new later

/-- No name stands in two parts of the diff. -/
structure ConfigDiff.NamesApart (diff : ConfigDiff) : Prop where
  addedRemoved : diff.addedNames.Disjoint diff.mqttRemoved
  addedChanged : diff.addedNames.Disjoint diff.changedNames
  removedChanged : diff.mqttRemoved.Disjoint diff.changedNames

/-- The bare configuration with one broker. -/
def Config.withHomeBroker (host : String) : Config :=
  { Config.bare with mqttBrokers := [.withDefaults "home" host] }

theorem apply_diffConfig
    {old new : Config}
    (hold : old.BrokersNamedApart) (hnew : new.BrokersNamedApart) :
    (diffConfig old new).apply old.brokersByName = new.brokersByName :=
  KeyedPatch.patch_diff hold hnew

theorem namesApart_diffConfig
    {old new : Config}
    (hold : old.BrokersNamedApart) (hnew : new.BrokersNamedApart) :
    (diffConfig old new).NamesApart := by
  have hput : ((diffConfig old new).changedNames ++
      (diffConfig old new).addedNames).Nodup := by
    rw [ConfigDiff.changedNames, ConfigDiff.addedNames, ← List.map_append]
    exact nodup_changed_and_added hnew
  have hgone : (diffConfig old new).mqttRemoved.Disjoint
      ((diffConfig old new).changedNames ++
        (diffConfig old new).addedNames) := by
    rw [ConfigDiff.changedNames, ConfigDiff.addedNames, ← List.map_append]
    exact KeyedPatch.removed_disjoint_put hold
  rw [List.nodup_append'] at hput
  rw [List.disjoint_append_right] at hgone
  constructor
  · exact hgone.2.symm
  · exact hput.2.2.symm
  · exact hgone.1

theorem applyDiffs_eq_last
    {old : Config} {later : List Config}
    (hold : old.BrokersNamedApart)
    (hlater : ∀ config ∈ later, config.BrokersNamedApart) :
    applyDiffs old.brokersByName old later =
      (later.getLastD old).brokersByName := by
  induction later generalizing old with
  | nil => rfl
  | cons new later ih =>
      have hnew : new.BrokersNamedApart := hlater new List.mem_cons_self
      rw [applyDiffs, apply_diffConfig hold hnew, List.getLastD_cons]
      apply ih hnew
      intro config hmem
      exact hlater config (List.mem_cons_of_mem _ hmem)

theorem diffConfig_self {config : Config} (hapart : config.BrokersNamedApart) :
    diffConfig config config = ConfigDiff.empty := by
  have hbrokers := KeyedPatch.diff_self hapart
  simp [diffConfig, ConfigDiff.empty, hbrokers]

/-- The diff of two configurations leads from the brokers of the one to those
of the other, names no broker twice and none which stays as it is, and is
empty between a configuration and itself.  The diffs along a chain lead to the
brokers of the last configuration. -/
theorem diffConfig_isExactPatch
    (old new : Config) (later : List Config)
    (hold : old.BrokersNamedApart) (hnew : new.BrokersNamedApart)
    (hlater : ∀ config ∈ later, config.BrokersNamedApart) :
    (diffConfig old new).apply old.brokersByName = new.brokersByName ∧
      (diffConfig old new).NamesApart ∧
      (∀ broker ∈ old.mqttBrokers, broker ∈ new.mqttBrokers →
        broker.name ∉ (diffConfig old new).addedNames ∧
          broker.name ∉ (diffConfig old new).mqttRemoved ∧
          broker.name ∉ (diffConfig old new).changedNames) ∧
      diffConfig old old = ConfigDiff.empty ∧
      applyDiffs old.brokersByName old later =
        (later.getLastD old).brokersByName := by
  have hunchanged : ∀ broker ∈ old.mqttBrokers, broker ∈ new.mqttBrokers →
      broker.name ∉ (diffConfig old new).addedNames ∧
        broker.name ∉ (diffConfig old new).mqttRemoved ∧
        broker.name ∉ (diffConfig old new).changedNames := by
    intro broker hmemOld hmemNew
    have huntouched := key_untouched_of_unchanged hold hnew hmemOld hmemNew
    rw [List.map_append, List.mem_append, not_or] at huntouched
    exact ⟨huntouched.2.2, huntouched.1, huntouched.2.1⟩
  exact ⟨apply_diffConfig hold hnew, namesApart_diffConfig hold hnew,
    hunchanged, diffConfig_self hold, applyDiffs_eq_last hold hlater⟩

/-- From no broker to one, and on to another of the same name. -/
theorem diffConfig_isExactPatch_home :
    applyDiffs Config.bare.brokersByName .bare
        [.withHomeBroker "192.0.2.1", .withHomeBroker "192.0.2.2"] =
      (Config.withHomeBroker "192.0.2.2").brokersByName := by
  have hpatch := diffConfig_isExactPatch .bare (.withHomeBroker "192.0.2.1")
    [.withHomeBroker "192.0.2.1", .withHomeBroker "192.0.2.2"]
    (by decide) (by decide) (by decide)
  exact hpatch.2.2.2.2

end MeshController
