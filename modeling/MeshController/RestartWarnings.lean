import MeshController.ConfigDiff

/-!
# Warnings of fields which need a restart

A reload compares with the configuration loaded before it, not with the one
the daemon was started with.  The warnings are about the running daemon
exactly as long as a field which once left its startup value never stays and
never returns.
-/

namespace MeshController

def StartupField.IsNamedIn
    (field : StartupField) (warnings : List String) : Prop :=
  ∃ line ∈ warnings, (field.label ++ ": ").toList <+: line.toList

/-- The warnings name exactly the fields whose value in the loaded
configuration is not the one bound at startup. -/
def WarnsExactly
    (startup newConfig : Config) (warnings : List String) : Prop :=
  ∀ field : StartupField, field.IsNamedIn warnings ↔
    field.value newConfig ≠ field.value startup

/-- The configuration which was loaded last; a failed load counts for
nothing. -/
def lastLoaded (startup : Config) (loads : List (Option Config)) : Config :=
  (KeyedStore.lastCarried id loads).getD startup

theorem config_after (startup : Config) (loads : List (Option Config)) :
    (ReloadableDaemon.after startup loads).config =
      lastLoaded startup loads := by
  induction loads using List.reverseRecOn with
  | nil => rfl
  | append_singleton before loaded ih =>
      rw [ReloadableDaemon.after, List.foldl_append, lastLoaded,
        KeyedStore.lastCarried_concat]
      cases loaded with
      | none => exact ih
      | some newConfig => rfl

theorem warnings_after_reload
    (startup newConfig : Config) (before : List (Option Config)) :
    (ReloadableDaemon.after startup (before ++ [some newConfig])).warnings =
      (diffConfig (lastLoaded startup before) newConfig).restartRequired := by
  rw [← config_after, ReloadableDaemon.after, List.foldl_append]
  rfl

/-! ## Which fields are named -/

theorem StartupField.mem_all (field : StartupField) : field ∈ all := by
  cases field <;> simp [all]

theorem StartupField.label_front_injective
    {first second : StartupField}
    (hfront : (first.label ++ ": ").toList <+: (second.label ++ ": ").toList) :
    first = second := by
  have hall : ∀ first ∈ all, ∀ second ∈ all,
      (first.label ++ ": ").toList <+: (second.label ++ ": ").toList →
        first = second := by decide
  exact hall first first.mem_all second second.mem_all hfront

theorem StartupField.label_front_of_warning
    (field : StartupField) (old new : Config) :
    (field.label ++ ": ").toList <+: (field.warning old new).toList := by
  simp [warning, List.append_assoc]

/-- A warning names the field it is about, and no other. -/
theorem isNamedIn_restartRequired_iff
    (field : StartupField) (old new : Config) :
    field.IsNamedIn (diffConfig old new).restartRequired ↔
      field.value old ≠ field.value new := by
  unfold StartupField.IsNamedIn diffConfig
  simp only [List.mem_map, List.mem_filter, decide_eq_true_eq]
  constructor
  · rintro ⟨_, ⟨other, ⟨_, hdiffers⟩, rfl⟩, hnamed⟩
    have hother := other.label_front_of_warning old new
    have hsame : field = other := by
      rcases List.prefix_or_prefix_of_prefix hnamed hother with
        hfront | hfront
      · exact StartupField.label_front_injective hfront
      · exact (StartupField.label_front_injective hfront).symm
    rw [hsame]
    exact hdiffers
  · intro hdiffers
    exact ⟨_, ⟨field, ⟨field.mem_all, hdiffers⟩, rfl⟩,
      field.label_front_of_warning old new⟩

def Config.verbose : Config :=
  { Config.bare with
    daemon := { Config.bare.daemon with logLevel := "debug" } }

end MeshController
