import MeshController.ConfigDiff

/-!
# The broker tasks across reloads

Broker tasks are found again by the name of their broker.  They follow the
configuration through any number of reloads, exactly if no configuration gives
one name to two brokers.
-/

namespace MeshController

open TaskRegistry

/-- One task runs for each configured broker, and its handle is kept under
the name of the broker. -/
def ReloadableDaemon.RunsItsBrokers (daemon : ReloadableDaemon) : Prop :=
  Follows MqttBrokerConfig.name daemon.brokerTasks daemon.config.mqttBrokers

def Config.BrokersNamedApart (config : Config) : Prop :=
  (config.mqttBrokers.map MqttBrokerConfig.name).Nodup

theorem sound_run (config : Config) :
    Sound MqttBrokerConfig.name (ReloadableDaemon.run config).brokerTasks :=
  sound_empty.afterStarts _

theorem sound_reloadOnce
    {daemon : ReloadableDaemon}
    (hsound : Sound MqttBrokerConfig.name daemon.brokerTasks)
    (loaded : Option Config) :
    Sound MqttBrokerConfig.name (daemon.reloadOnce loaded).brokerTasks := by
  cases loaded with
  | none => exact hsound
  | some newConfig => exact hsound.afterUpdate

theorem sound_after (startup : Config) (loads : List (Option Config)) :
    Sound MqttBrokerConfig.name
      (ReloadableDaemon.after startup loads).brokerTasks := by
  induction loads using List.reverseRecOn with
  | nil => exact sound_run startup
  | append_singleton before loaded ih =>
      rw [ReloadableDaemon.after, List.foldl_append]
      exact sound_reloadOnce ih loaded

theorem runsItsBrokers_reloadOnce
    {daemon : ReloadableDaemon}
    (hsound : Sound MqttBrokerConfig.name daemon.brokerTasks)
    (hruns : daemon.RunsItsBrokers) {loaded : Option Config}
    (hapart : ∀ newConfig ∈ loaded, newConfig.BrokersNamedApart) :
    (daemon.reloadOnce loaded).RunsItsBrokers := by
  cases loaded with
  | none => exact hruns
  | some newConfig => exact hruns.afterUpdate hsound (hapart newConfig rfl)

theorem runsItsBrokers_after
    {startup : Config} (hstartup : startup.BrokersNamedApart)
    {loads : List (Option Config)}
    (hloads : ∀ newConfig, some newConfig ∈ loads →
      newConfig.BrokersNamedApart) :
    (ReloadableDaemon.after startup loads).RunsItsBrokers := by
  induction loads using List.reverseRecOn with
  | nil => exact follows_starts hstartup
  | append_singleton before loaded ih =>
      have hbefore : ∀ newConfig, some newConfig ∈ before →
          newConfig.BrokersNamedApart := by
        intro newConfig hmem
        exact hloads newConfig (by simp [hmem])
      rw [ReloadableDaemon.after, List.foldl_append]
      apply runsItsBrokers_reloadOnce (sound_after startup before) (ih hbefore)
      intro newConfig hloaded
      apply hloads newConfig
      rw [Option.mem_def.mp hloaded]
      simp

/-- After the startup and after each reload, the broker tasks are those of the
configuration, exactly if every configuration of the run names its brokers
apart. -/
theorem broker_tasks_follow_config_iff
    (startup : Config) (loads : List (Option Config)) :
    (∀ before, before <+: loads →
      (ReloadableDaemon.after startup before).RunsItsBrokers) ↔
    startup.BrokersNamedApart ∧
      ∀ newConfig, some newConfig ∈ loads → newConfig.BrokersNamedApart := by
  constructor
  · intro hruns
    constructor
    · have hstart := hruns [] (List.nil_prefix)
      exact hstart.nodup_keys (sound_run startup)
    · intro newConfig hmem
      rcases List.append_of_mem hmem with ⟨before, rest, rfl⟩
      have hreload := hruns (before ++ [some newConfig])
        ⟨rest, by simp⟩
      have hnodup := hreload.nodup_keys (sound_after startup _)
      rw [ReloadableDaemon.after, List.foldl_append] at hnodup
      exact hnodup
  · rintro ⟨hstartup, hloads⟩ before hbefore
    apply runsItsBrokers_after hstartup
    intro newConfig hmem
    exact hloads newConfig (hbefore.subset hmem)

/-- Two brokers of one name are started, and only the second is tracked. -/
theorem broker_task_leaked_of_shared_name :
    ¬ ∀ (startup : Config) (loads : List (Option Config)),
      ∀ before, before <+: loads →
        (ReloadableDaemon.after startup before).RunsItsBrokers := by
  intro hclaim
  have hruns := hclaim
    { Config.bare with
      mqttBrokers := [.withDefaults "home" "192.0.2.1",
        .withDefaults "home" "192.0.2.2"] } [] [] (List.prefix_refl _)
  have hfirst := hruns.tracked ⟨0, .withDefaults "home" "192.0.2.1"⟩
    (by decide)
  exact absurd hfirst (by decide)

end MeshController
