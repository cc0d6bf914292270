import MeshController.LetterCase

/-!
# Daemons which differ in the spelling of a key

Two runs of one command, given one key in two spellings, are compared step by
step.  A step may carry the key to the configuration or into a text; as long
as it carries the key nowhere else, the two daemons agree but for the spelling
of the keys in their entries.
-/

namespace MeshController

/-! ## States -/

/-- Configurations which differ in the spelling of keys only. -/
structure Config.Alike (first second : Config) : Prop where
  repeaters : AlikeRepeaters first.managedRepeaters second.managedRepeaters
  others : { first with managedRepeaters := second.managedRepeaters } = second

theorem Config.Alike.refl (config : Config) : config.Alike config := by
  constructor
  · exact .refl config.managedRepeaters
  · rfl

theorem Config.Alike.upsert
    {first second : Config} (halike : first.Alike second)
    {one other : RepeaterUpsert} (hrequest : one.Alike other) :
    (first.upsertManagedRepeater one).Alike
      (second.upsertManagedRepeater other) := by
  constructor
  · exact halike.repeaters.upsert hrequest
  · unfold Config.upsertManagedRepeater
    rw [← halike.others]

structure Daemon.Alike (first second : Daemon) : Prop where
  config : first.config.Alike second.config
  configFile : Option.Rel Config.Alike first.configFile second.configFile
  companionContacts : first.companionContacts = second.companionContacts
  discovered : first.discovered = second.discovered
  telemetry : first.telemetry = second.telemetry
  brokerStatus : first.brokerStatus = second.brokerStatus
  snapshot : first.snapshot = second.snapshot

theorem relAlike_refl (file : Option Config) :
    Option.Rel Config.Alike file file := by
  cases file with
  | none => exact .none
  | some config => exact .some (.refl config)

theorem Daemon.Alike.refl (daemon : Daemon) : daemon.Alike daemon := by
  constructor
  · exact .refl daemon.config
  · exact relAlike_refl daemon.configFile
  · rfl
  · rfl
  · rfl
  · rfl
  · rfl

theorem Daemon.Alike.rebuiltContacts
    {first second : Daemon} (halike : first.Alike second)
    (staleCache : Option (List ContactDto)) :
    first.rebuiltContacts staleCache = second.rebuiltContacts staleCache := by
  unfold Daemon.rebuiltContacts
  rw [halike.companionContacts, halike.discovered, halike.telemetry]
  exact halike.config.repeaters.buildSnapshotContacts _ _ _

/-! ## Steps -/

/-- Steps which differ in a text or in the spelling of a key only. -/
inductive MeshStep.Alike : MeshStep → MeshStep → Prop where
  | same (step : MeshStep) : MeshStep.Alike step step
  | upsert {first second : RepeaterUpsert} (halike : first.Alike second) :
      MeshStep.Alike (.upsertConfig first) (.upsertConfig second)
  | broadcast (first second : MeshEventKind) :
      MeshStep.Alike (.broadcast first) (.broadcast second)
  | refused (first second : String) :
      MeshStep.Alike (.reply (.error first)) (.reply (.error second))

def AlikeSteps (first second : List MeshStep) : Prop :=
  List.Forall₂ MeshStep.Alike first second

theorem AlikeSteps.refl (steps : List MeshStep) : AlikeSteps steps steps :=
  List.forall₂_same.mpr fun step _ => .same step

theorem Daemon.Alike.afterSame
    {first second : Daemon} (halike : first.Alike second) (step : MeshStep) :
    (first.afterStep step).Alike (second.afterStep step) := by
  have hconfig := halike.config
  have hfile := halike.configFile
  have hcontacts := halike.companionContacts
  have hdiscovered := halike.discovered
  have htelemetry := halike.telemetry
  have hbrokers := halike.brokerStatus
  have hsnapshot := halike.snapshot
  cases step with
  | upsertConfig request =>
      have hedited := hconfig.upsert (.refl request)
      constructor <;> assumption
  | saveConfig outcome =>
      cases outcome with
      | saved =>
          have hsaved : Option.Rel Config.Alike (some first.config)
            (some second.config) := .some hconfig
          constructor <;> assumption
      | failed reason left =>
          have hleft := relAlike_refl left
          constructor <;> assumption
  | removeFromCompanion contact | addToCompanion contact =>
      constructor
      · exact hconfig
      · exact hfile
      · simp only [Daemon.afterStep, hcontacts]
      · exact hdiscovered
      · exact htelemetry
      · exact hbrokers
      · exact hsnapshot
  | setTelemetry key telemetry =>
      constructor
      · exact hconfig
      · exact hfile
      · exact hcontacts
      · exact hdiscovered
      · simp only [Daemon.afterStep, htelemetry]
      · exact hbrokers
      · exact hsnapshot
  | refreshContacts staleCache =>
      have hrebuilt := halike.rebuiltContacts staleCache
      constructor
      · exact hconfig
      · exact hfile
      · exact hcontacts
      · exact hdiscovered
      · exact htelemetry
      · exact hbrokers
      · simp only [Daemon.afterStep, hrebuilt, hsnapshot]
  | broadcast kind | reply result => exact halike

theorem Daemon.Alike.afterStep
    {first second : Daemon} (halike : first.Alike second)
    {one other : MeshStep} (hstep : one.Alike other) :
    (first.afterStep one).Alike (second.afterStep other) := by
  cases hstep with
  | same => exact halike.afterSame one
  | broadcast | refused => exact halike
  | upsert hrequest =>
      constructor
      · exact halike.config.upsert hrequest
      · exact halike.configFile
      · exact halike.companionContacts
      · exact halike.discovered
      · exact halike.telemetry
      · exact halike.brokerStatus
      · exact halike.snapshot

theorem Daemon.Alike.afterSteps
    {first second : Daemon} (halike : first.Alike second)
    {one other : List MeshStep} (hsteps : AlikeSteps one other) :
    (one.foldl Daemon.afterStep first).Alike
      (other.foldl Daemon.afterStep second) := by
  induction hsteps generalizing first second with
  | nil => exact halike
  | cons hhead htail ih => exact ih (halike.afterStep hhead)

/-- What a list of steps replies, but for the texts. -/
def repliesOk (steps : List MeshStep) : List Bool :=
  (steps.filterMap MeshStep.replied).map Except.isOk

theorem AlikeSteps.repliesOk
    {one other : List MeshStep} (hsteps : AlikeSteps one other) :
    MeshController.repliesOk one = MeshController.repliesOk other := by
  unfold MeshController.repliesOk
  induction hsteps with
  | nil => rfl
  | @cons step₁ step₂ rest₁ rest₂ hhead htail ih =>
      cases hhead with
      | same =>
          cases hreplied : step₁.replied with
          | none => simp only [List.filterMap_cons, hreplied, ih]
          | some result =>
              simp only [List.filterMap_cons, hreplied, List.map_cons, ih]
      | upsert halike | broadcast => exact ih
      | refused => exact congrArg (false :: ·) ih

/-! ## Commands -/

/-- Outcomes which differ in the text of an error only. -/
inductive SameOutcome {Data : Type*} :
    Except String Data → Except String Data → Prop where
  | ok (value : Data) : SameOutcome (.ok value) (.ok value)
  | error (first second : String) : SameOutcome (.error first) (.error second)

namespace SameOutcome

variable {Data : Type*} {first second : Except String Data}

theorem refl (outcome : Except String Data) :
    SameOutcome outcome outcome := by
  cases outcome with
  | ok value => exact .ok value
  | error reason => exact .error reason reason

theorem isOk (hsame : SameOutcome first second) :
    first.isOk = second.isOk := by
  cases hsame <;> rfl

theorem toOption (hsame : SameOutcome first second) :
    first.toOption = second.toOption := by
  cases hsame <;> rfl

theorem map {Other : Type*} (f : Data → Other)
    (hsame : SameOutcome first second) :
    SameOutcome (first.map f) (second.map f) := by
  cases hsame with
  | ok value => exact .ok (f value)
  | error one other => exact .error one other

end SameOutcome

theorem mem_toOption_iff
    {Data : Type*} (outcome : Except String Data) (value : Data) :
    value ∈ outcome.toOption ↔ outcome = .ok value := by
  cases outcome <;> simp [Except.toOption]

theorem sameOutcome_of_eq_ok_iff
    {Data : Type*} {first second : Except String Data}
    (hok : ∀ value, first = .ok value ↔ second = .ok value) :
    SameOutcome first second := by
  cases first with
  | ok value =>
      rw [(hok value).mp rfl]
      exact .ok value
  | error reason =>
      cases second with
      | ok value => cases (hok value).mpr rfl
      | error other => exact .error reason other

/-- Answers which differ in their error texts only. -/
structure CommandView.Alike (first second : CommandView) : Prop where
  cachedContacts : first.cachedContacts = second.cachedContacts
  removal : SameOutcome first.removal second.removal
  declaration : SameOutcome first.declaration second.declaration
  save : first.save = second.save
  staleCache : first.staleCache = second.staleCache

theorem CommandView.Alike.refl (view : CommandView) : view.Alike view := by
  constructor
  · rfl
  · exact .refl view.removal
  · exact .refl view.declaration
  · rfl
  · rfl

theorem AlikeSteps.upsert
    {first second : RepeaterUpsert} (hrequest : first.Alike second)
    (save : SaveOutcome) {one other : List MeshStep}
    (hafterwards : AlikeSteps one other) :
    AlikeSteps (upsertManagedRepeaterConfigSteps first save one)
      (upsertManagedRepeaterConfigSteps second save other) := by
  unfold upsertManagedRepeaterConfigSteps
  apply List.Forall₂.cons (.upsert hrequest)
  apply List.Forall₂.cons (.same _)
  cases save with
  | saved => exact hafterwards
  | failed reason left => exact AlikeSteps.refl _

variable {first second : CommandView}

theorem AlikeSteps.declare
    (hview : first.Alike second) (name : String) {one other : List MeshStep}
    (hafterwards : AlikeSteps one other) :
    AlikeSteps (declareSteps first name one)
      (declareSteps second name other) := by
  have hdeclaration := hview.declaration
  unfold declareSteps
  generalize first.declaration = one at hdeclaration ⊢
  generalize second.declaration = other at hdeclaration ⊢
  cases hdeclaration with
  | error => exact .cons (.refused _ _) .nil
  | ok publicKey => exact .cons (.same _) (.cons (.same _) hafterwards)

theorem alikeSteps_addRepeater
    (hview : first.Alike second) {key₁ key₂ : String}
    (hsame : SameKey key₁ key₂) (name : String) (managed : Bool) :
    AlikeSteps (addRepeaterSteps first key₁ name managed)
      (addRepeaterSteps second key₂ name managed) := by
  have hfinished : AlikeSteps
      [.refreshContacts first.staleCache, .reply (.ok ())]
      [.refreshContacts second.staleCache, .reply (.ok ())] := by
    rw [hview.staleCache]
    exact .refl _
  have hregistered : (first.cachedContacts.any fun c =>
      equalIgnoringCase c.publicKeyPrefixHex (keyPrefixHex key₁)) =
        second.cachedContacts.any fun c =>
          equalIgnoringCase c.publicKeyPrefixHex (keyPrefixHex key₂) := by
    simp only [hview.cachedContacts,
      equalIgnoringCase_congr _ hsame.keyPrefixHex]
  by_cases hfull : IsFullKey key₁
  · have hother := hsame.isFullKey hfull
    rw [isFullKey_iff_checked] at hfull hother
    unfold addRepeaterSteps
    rw [if_neg hfull, if_neg hother]
    simp only [hregistered, hview.save]
    cases managed with
    | false =>
        simp only [Bool.false_eq_true, if_false]
        split
        · exact hfinished
        · exact hfinished.declare hview name
    | true =>
        simp only [if_true]
        split
        · apply AlikeSteps.upsert _ _ hfinished
          constructor
          · exact hsame.keyPrefixHex
          · rfl
          · rfl
          · exact .some hsame
        · apply AlikeSteps.declare hview
          apply AlikeSteps.upsert _ _ hfinished
          constructor
          · exact hsame.keyPrefixHex
          · rfl
          · rfl
          · exact .some hsame
  · have hother : ¬ IsFullKey key₂ := fun hfull₂ =>
      hfull (hsame.symm.isFullKey hfull₂)
    rw [isFullKey_iff_checked, not_not] at hfull hother
    unfold addRepeaterSteps
    rw [if_pos hfull, if_pos hother]
    exact .cons (.refused _ _) .nil

theorem alikeSteps_removeContact
    (hview : first.Alike second) (daemon : Daemon) (prefix₁ prefix₂ : String) :
    AlikeSteps (removeContactSteps daemon first prefix₁)
      (removeContactSteps daemon second prefix₂) := by
  have hremoval := hview.removal
  unfold removeContactSteps
  rw [hview.staleCache]
  generalize first.removal = one at hremoval ⊢
  generalize second.removal = other at hremoval ⊢
  cases hremoval with
  | error => exact .cons (.refused _ _) .nil
  | ok contact =>
      exact .cons (.same _) (.cons (.same _)
        (.cons (.broadcast _ _) (AlikeSteps.refl _)))

theorem alikeSteps_clearStatus
    (hsave : first.save = second.save)
    (hstale : first.staleCache = second.staleCache) (daemon : Daemon)
    {prefix₁ prefix₂ : String} (hsame : SameKey prefix₁ prefix₂)
    (name : String) :
    AlikeSteps (setRepeaterStatusSteps daemon first prefix₁ name none)
      (setRepeaterStatusSteps daemon second prefix₂ name none) := by
  unfold setRepeaterStatusSteps
  simp only [Option.isSome_none, Bool.false_and, Bool.false_eq_true, if_false]
  rw [hsave, hstale]
  apply AlikeSteps.upsert _ _ (.refl _)
  constructor
  · exact hsame
  · rfl
  · rfl
  · exact .none

end MeshController
