import MeshController.AlikeRuns
import MeshController.CliSession

/-!
# Adding a repeater from the command line

The tool sends the key as it was typed, and looks for the contact in the next
snapshot by the front of the typed key, letter for letter.  The daemon takes
a key in either case, and lists its contacts in small letters.
-/

namespace MeshController

/-! ## The tool -/

/-- The line the tool ends with. -/
inductive AddReport where
  | invalidKey (length : ℕ)
  | alreadyRegistered (name : String)
  | added (name : String) (managed : Bool)
  | stateMismatch (name : String)
  | notFoundAfterUpdate
  | error (reason : String)
  | connectionClosed
deriving DecidableEq

def AddReport.line : AddReport → String
  | .invalidKey length =>
      "a full 32-byte public key is required (64 hex characters, got " ++
        toString length ++ ")"
  | .alreadyRegistered name => "\"" ++ name ++ "\" is already registered"
  | .added name managed =>
      "🛰️  \"" ++ name ++ "\" added" ++ if managed then " (managed)" else ""
  | .stateMismatch name =>
      "\"" ++ name ++ "\" doesn't reflect the change yet — check " ++
        "`repeater list` or try again"
  | .notFoundAfterUpdate => "contact no longer found after the update"
  | .error reason => reason
  | .connectionClosed => "daemon closed the connection"

/-- Of the messages which follow the request, the first error or snapshot
decides. -/
def waitForOutcome (publicKeyPrefixHex : String) :
    List ServerMessage → Except AddReport (Option ContactDto)
  | [] => .error .connectionClosed
  | .error reason :: _ => .error (.error reason)
  | .snapshot snapshot :: _ =>
      .ok (snapshot.contacts.find? fun c =>
        c.publicKeyPrefixHex = publicKeyPrefixHex)
  | _ :: rest => waitForOutcome publicKeyPrefixHex rest

/-- The contact is there as it was asked for. -/
def ContactDto.asAsked (contact : ContactDto) (manage : Bool) : Bool :=
  contact.registered && (contact.managed || !manage)

/-- The contact for which nothing is left to do. -/
def alreadyAdded (first : Snapshot) (publicKeyHex : String) (manage : Bool) :
    Option ContactDto :=
  (first.contacts.find? fun c => equalIgnoringCase c.publicKeyPrefixHex
    (keyPrefixHex publicKeyHex)).filter fun existing => existing.asAsked manage

def addOutcome (manage : Bool) : Option ContactDto → AddReport
  | some c =>
      if c.asAsked manage then .added c.name c.managed
      else .stateMismatch c.name
  | none => .notFoundAfterUpdate

/-- `repeater add`, with the first snapshot and the messages received after
the two requests. -/
def cliAdd
    (publicKeyHex : String) (manage : Bool) (first : Snapshot)
    (received : List ServerMessage) : AddReport :=
  if publicKeyHex.utf8ByteSize ≠ 64 ∨ !publicKeyHex.toList.all isHexDigit then
    .invalidKey publicKeyHex.utf8ByteSize
  else
    match alreadyAdded first publicKeyHex manage with
    | some existing => .alreadyRegistered existing.name
    | none =>
        match waitForOutcome (keyPrefixHex publicKeyHex) received with
        | .ok found => addOutcome manage found
        | .error report => report

/-! ## Contact lists of the daemon -/

/-- A contact list as the daemon makes it. -/
def BuiltContacts (contacts : List ContactDto) : Prop :=
  ∃ (managedRepeaters : List ManagedRepeater)
    (companionContacts : List Contact) (discovered : List DiscoveredNode)
    (telemetry : String → Option TelemetryDto),
    contacts = buildSnapshotContacts managedRepeaters
      (companionContacts.map ContactDto.ofContact) discovered telemetry

/-- A refresh falls back on contacts read from the companion earlier. -/
def MeshStep.Genuine : MeshStep → Prop
  | .refreshContacts (some cached) =>
      ∃ cache : List Contact, cached = cache.map ContactDto.ofContact
  | _ => True

theorem BuiltContacts.afterStep
    {daemon : Daemon} (hbuilt : BuiltContacts daemon.snapshot.contacts)
    {step : MeshStep} (hgenuine : step.Genuine) :
    BuiltContacts (daemon.afterStep step).snapshot.contacts := by
  cases step with
  | refreshContacts staleCache =>
      cases staleCache with
      | none => exact ⟨_, daemon.companionContacts, _, _, rfl⟩
      | some cached =>
          rcases hgenuine with ⟨cache, rfl⟩
          exact ⟨_, cache, _, _, rfl⟩
  | saveConfig outcome => cases outcome <;> exact hbuilt
  | removeFromCompanion contact | addToCompanion contact
  | upsertConfig request | setTelemetry key telemetry | broadcast kind
  | reply result => exact hbuilt

theorem BuiltContacts.afterSteps
    {daemon : Daemon} (hbuilt : BuiltContacts daemon.snapshot.contacts)
    {steps : List MeshStep} (hgenuine : ∀ step ∈ steps, step.Genuine) :
    BuiltContacts (steps.foldl Daemon.afterStep daemon).snapshot.contacts := by
  induction steps generalizing daemon with
  | nil => exact hbuilt
  | cons step rest ih =>
      apply ih
      · exact hbuilt.afterStep (hgenuine step List.mem_cons_self)
      · intro other hmem
        exact hgenuine other (List.mem_cons_of_mem _ hmem)

theorem BuiltContacts.lowercase
    {contacts : List ContactDto} (hbuilt : BuiltContacts contacts)
    {contact : ContactDto} (hmem : contact ∈ contacts)
    (hregistered : contact.registered = true) :
    asciiLowercase contact.publicKeyPrefixHex =
      contact.publicKeyPrefixHex.toList := by
  rcases hbuilt with ⟨repeaters, companion, discovered, telemetry, rfl⟩
  rcases List.mem_append.mp hmem with hcompanion | hdiscovered
  · rw [List.map_map, List.mem_map] at hcompanion
    rcases hcompanion with ⟨c, _, rfl⟩
    have hfront : ((annotateContact repeaters telemetry ∘
        ContactDto.ofContact) c).publicKeyPrefixHex = c.prefixHex := rfl
    rw [hfront, Contact.prefixHex, asciiLowercase_hexEncode,
      HexEncoding.toList_hexEncode]
  · rcases List.mem_map.mp hdiscovered with ⟨node, _, rfl⟩
    cases hregistered

theorem BuiltContacts.same_prefix
    {contacts : List ContactDto} (hbuilt : BuiltContacts contacts)
    {contact other : ContactDto} (hmem : contact ∈ contacts)
    (hother : other ∈ contacts) (hregistered : contact.registered = true)
    (hfront : other.publicKeyPrefixHex = contact.publicKeyPrefixHex) :
    other.registered = true ∧ other.managed = contact.managed := by
  rcases hbuilt with ⟨repeaters, companion, discovered, telemetry, rfl⟩
  constructor
  · rcases List.mem_append.mp hother with hcompanion | hdiscovered
    · rw [List.map_map, List.mem_map] at hcompanion
      rcases hcompanion with ⟨c, _, rfl⟩
      rfl
    · rcases List.mem_map.mp hdiscovered with ⟨node, hnode, hshown⟩
      have hunknown := of_decide_eq_true (List.mem_filter.mp hnode).2
      rcases List.mem_append.mp hmem with hfetched | hheard
      · exfalso
        apply hunknown
        apply List.mem_map.mpr
        use contact
        constructor
        · exact hfetched
        · rw [← hfront, ← hshown]
          rfl
      · rcases List.mem_map.mp hheard with ⟨node, _, rfl⟩
        cases hregistered
  · rw [managed_of_mem_buildSnapshotContacts hother,
      managed_of_mem_buildSnapshotContacts hmem,
      repeaterStatus_of_mem_buildSnapshotContacts hother,
      repeaterStatus_of_mem_buildSnapshotContacts hmem, hfront]

def AllGenuine (steps : List MeshStep) : Prop :=
  ∀ step ∈ steps, step.Genuine

theorem AllGenuine.cons
    {step : MeshStep} (hstep : step.Genuine) {rest : List MeshStep}
    (hrest : AllGenuine rest) : AllGenuine (step :: rest) :=
  List.forall_mem_cons.mpr ⟨hstep, hrest⟩

theorem AllGenuine.reply (result : Except String Unit) :
    AllGenuine [.reply result] := by
  apply AllGenuine.cons
  · trivial
  · exact List.forall_mem_nil _

theorem AllGenuine.upsert
    (request : RepeaterUpsert) (save : SaveOutcome)
    {afterwards : List MeshStep} (hafterwards : AllGenuine afterwards) :
    AllGenuine (upsertManagedRepeaterConfigSteps request save afterwards) := by
  unfold upsertManagedRepeaterConfigSteps
  apply AllGenuine.cons
  · trivial
  apply AllGenuine.cons
  · trivial
  cases save with
  | saved => exact hafterwards
  | failed reason left => exact .reply _

theorem AllGenuine.declare
    (view : CommandView) (name : String)
    {afterwards : List MeshStep} (hafterwards : AllGenuine afterwards) :
    AllGenuine (declareSteps view name afterwards) := by
  unfold declareSteps
  cases view.declaration with
  | error reason => exact .reply _
  | ok publicKey =>
      apply AllGenuine.cons
      · trivial
      apply AllGenuine.cons
      · trivial
      · exact hafterwards

theorem allGenuine_addRepeaterSteps
    {view : CommandView}
    (hstale : (MeshStep.refreshContacts view.staleCache).Genuine)
    (publicKeyHex name : String) (managed : Bool) :
    AllGenuine (addRepeaterSteps view publicKeyHex name managed) := by
  have hfinished : AllGenuine
      [.refreshContacts view.staleCache, .reply (.ok ())] :=
    .cons hstale (.reply _)
  unfold addRepeaterSteps
  split
  · exact .reply _
  · cases managed with
    | false =>
        simp only [Bool.false_eq_true, if_false]
        split
        · exact hfinished
        · exact hfinished.declare view name
    | true =>
        simp only [if_true]
        split
        · exact hfinished.upsert _ _
        · exact (hfinished.upsert _ _).declare view name

/-! ## One run of the tool -/

/-- What the tool meets: the first snapshot, the daemon when it runs the
command and the answers the command gets, the messages which are forwarded
before the outcome, and what else happens to the daemon until it serves the
second snapshot. -/
structure AddExchange where
  first : Snapshot
  daemon : Daemon
  built : BuiltContacts daemon.snapshot.contacts
  view : CommandView
  stale_genuine : (MeshStep.refreshContacts view.staleCache).Genuine
  forwarded : List ServerMessage
  skipped : ∀ message ∈ forwarded, message.isVerdict = false
  meanwhile : List MeshStep
  meanwhile_genuine : AllGenuine meanwhile

namespace AddExchange

section Run

variable (exchange : AddExchange) (publicKeyHex name : String) (manage : Bool)

def steps : List MeshStep :=
  handleCommandSteps exchange.daemon exchange.view
    (.addRepeater publicKeyHex name manage)

/-- The daemon when it serves the second snapshot. -/
def reached : Daemon :=
  (exchange.steps publicKeyHex name manage ++ exchange.meanwhile).foldl
    Daemon.afterStep exchange.daemon

def listed : List ContactDto :=
  (exchange.reached publicKeyHex name manage).served.contacts

def received : List ServerMessage :=
  exchange.forwarded ++
    ((exchange.steps publicKeyHex name manage).filterMap
      MeshStep.replied).flatMap
        (DaemonCommand.answer (.addRepeater publicKeyHex name manage)
          exchange.daemon.telemetry) ++
    [.snapshot (exchange.reached publicKeyHex name manage).served]

def report : AddReport :=
  cliAdd publicKeyHex manage exchange.first
    (exchange.received publicKeyHex name manage)

/-- The tool asked for the repeater, the daemon added it, and the snapshot
lists the contact as it was asked for. -/
structure Succeeded : Prop where
  isFullKey : IsFullKey publicKeyHex
  sent : alreadyAdded exchange.first publicKeyHex manage = none
  executed : repliesOk (exchange.steps publicKeyHex name manage) = [true]
  listed : ∃ c ∈ exchange.listed publicKeyHex name manage,
    SameKey c.publicKeyPrefixHex (keyPrefixHex publicKeyHex) ∧
      c.asAsked manage = true

end Run

/-! ### What the tool finds -/

variable {exchange : AddExchange} {publicKeyHex name : String} {manage : Bool}

theorem builtContacts_listed
    (exchange : AddExchange) (publicKeyHex name : String) (manage : Bool) :
    BuiltContacts (exchange.listed publicKeyHex name manage) := by
  have hsteps : AllGenuine
      (exchange.steps publicKeyHex name manage ++ exchange.meanwhile) := by
    intro step hmem
    rcases List.mem_append.mp hmem with hcommand | hmeanwhile
    · exact allGenuine_addRepeaterSteps exchange.stale_genuine publicKeyHex
        name manage step hcommand
    · exact exchange.meanwhile_genuine step hmeanwhile
  exact exchange.built.afterSteps hsteps

theorem waitForOutcome_append
    {publicKeyPrefixHex : String} {forwarded : List ServerMessage}
    (hskipped : ∀ message ∈ forwarded, message.isVerdict = false)
    (rest : List ServerMessage) :
    waitForOutcome publicKeyPrefixHex (forwarded ++ rest) =
      waitForOutcome publicKeyPrefixHex rest := by
  induction forwarded with
  | nil => rfl
  | cons message others ih =>
      rw [List.forall_mem_cons] at hskipped
      have hother := hskipped.1
      cases message with
      | snapshot snapshot | error reason => cases hother
      | hello version | event event | packetLog backlog
      | packetLogEntry entry | telemetryResult key telemetry =>
          exact ih hskipped.2

/-- After a success the snapshot alone decides. -/
theorem Succeeded.report_eq
    (hsucceeded : exchange.Succeeded publicKeyHex name manage) :
    exchange.report publicKeyHex name manage =
      addOutcome manage
        ((exchange.listed publicKeyHex name manage).find? fun c =>
          c.publicKeyPrefixHex = keyPrefixHex publicKeyHex) := by
  have hchecked := (isFullKey_iff_checked publicKeyHex).mp hsucceeded.isFullKey
  have hexecuted := hsucceeded.executed
  unfold repliesOk at hexecuted
  rw [List.map_eq_singleton_iff] at hexecuted
  rcases hexecuted with ⟨result, hresult, hok⟩
  cases result with
  | error reason => cases hok
  | ok done =>
      unfold report cliAdd received
      rw [if_neg hchecked, hsucceeded.sent, List.append_assoc,
        waitForOutcome_append exchange.skipped, hresult]
      rfl

theorem asAsked_iff (contact : ContactDto) (manage : Bool) :
    contact.asAsked manage = true ↔
      contact.registered = true ∧
        (contact.managed = true ∨ manage = false) := by
  simp [ContactDto.asAsked]

/-- The search is for the very letters which were typed. -/
theorem Succeeded.added_iff
    (hsucceeded : exchange.Succeeded publicKeyHex name manage) :
    (∃ shown managed, exchange.report publicKeyHex name manage =
      .added shown managed) ↔
    asciiLowercase (keyPrefixHex publicKeyHex) =
      (keyPrefixHex publicKeyHex).toList := by
  have hbuilt := builtContacts_listed exchange publicKeyHex name manage
  rw [hsucceeded.report_eq]
  constructor
  · intro hadded
    rcases hadded with ⟨shown, managed, hadded⟩
    cases hfind : (exchange.listed publicKeyHex name manage).find? fun c =>
        c.publicKeyPrefixHex = keyPrefixHex publicKeyHex with
    | none => simp [hfind, addOutcome] at hadded
    | some c =>
        have hfront : c.publicKeyPrefixHex = keyPrefixHex publicKeyHex := by
          simpa using List.find?_some hfind
        rw [hfind, addOutcome] at hadded
        by_cases hasked : c.asAsked manage = true
        · have hregistered := ((asAsked_iff c manage).mp hasked).1
          rw [← hfront]
          exact hbuilt.lowercase (List.mem_of_find?_eq_some hfind) hregistered
        · rw [if_neg hasked] at hadded
          cases hadded
  · intro hlowercase
    rcases hsucceeded.listed with ⟨c, hmem, hsame, hasked⟩
    have hchecked := (asAsked_iff c manage).mp hasked
    have hfront : c.publicKeyPrefixHex = keyPrefixHex publicKeyHex := by
      apply String.toList_inj.mp
      rw [← hbuilt.lowercase hmem hchecked.1, hsame, hlowercase]
    cases hfind : (exchange.listed publicKeyHex name manage).find? fun c =>
        c.publicKeyPrefixHex = keyPrefixHex publicKeyHex with
    | none =>
        have hnone := List.find?_eq_none.mp hfind c hmem
        simp [hfront] at hnone
    | some found =>
        have hfound : found.publicKeyPrefixHex = keyPrefixHex publicKeyHex := by
          simpa using List.find?_some hfind
        have hstate := hbuilt.same_prefix hmem
          (List.mem_of_find?_eq_some hfind) hchecked.1
          (hfound.trans hfront.symm)
        have hfoundAsked : found.asAsked manage = true := by
          rw [asAsked_iff, hstate.1, hstate.2]
          exact ⟨rfl, hchecked.2⟩
        use found.name, found.managed
        rw [addOutcome, if_pos hfoundAsked]

/-! ### Other spellings -/

theorem reached_alike
    (exchange : AddExchange) {key₁ key₂ : String} (hsame : SameKey key₁ key₂)
    (name : String) (manage : Bool) :
    (exchange.reached key₁ name manage).Alike
      (exchange.reached key₂ name manage) := by
  unfold reached
  rw [List.foldl_append, List.foldl_append]
  have hcommand : AlikeSteps (exchange.steps key₁ name manage)
      (exchange.steps key₂ name manage) :=
    alikeSteps_addRepeater (.refl exchange.view) hsame name manage
  have hafter := (Daemon.Alike.refl exchange.daemon).afterSteps hcommand
  exact hafter.afterSteps (.refl exchange.meanwhile)

theorem listed_congr
    (exchange : AddExchange) {key₁ key₂ : String} (hsame : SameKey key₁ key₂)
    (name : String) (manage : Bool) :
    exchange.listed key₁ name manage =
      exchange.listed key₂ name manage := by
  have hsnapshot := (exchange.reached_alike hsame name manage).snapshot
  simp only [listed, Daemon.served, contacts_currentSnapshot, hsnapshot]

/-- Whether the daemon adds the repeater, and what it then lists, does not
depend on the spelling. -/
theorem Succeeded.respelled
    (hsucceeded : exchange.Succeeded publicKeyHex name manage)
    {other : String} (hsame : SameKey other publicKeyHex) :
    exchange.Succeeded other name manage := by
  have hcommand : AlikeSteps (exchange.steps other name manage)
      (exchange.steps publicKeyHex name manage) :=
    alikeSteps_addRepeater (.refl exchange.view) hsame name manage
  constructor
  · exact hsame.symm.isFullKey hsucceeded.isFullKey
  · rw [← hsucceeded.sent]
    unfold alreadyAdded
    simp only [equalIgnoringCase_congr _ hsame.keyPrefixHex]
  · rw [hcommand.repliesOk, hsucceeded.executed]
  · rw [exchange.listed_congr hsame]
    rcases hsucceeded.listed with ⟨c, hmem, hfront, hasked⟩
    use c
    constructor
    · exact hmem
    · exact ⟨hfront.trans hsame.symm.keyPrefixHex, hasked⟩

/-- The line the tool ends with tells of the success exactly if no capital was
typed among the first twelve digits; and it does so for every spelling exactly
if these digits have no letter. -/
theorem add_report_iff
    (hsucceeded : exchange.Succeeded publicKeyHex name manage) :
    ((∃ shown managed, exchange.report publicKeyHex name manage =
        .added shown managed) ↔
      ∀ c ∈ publicKeyHex.toList.take 12, c.isUpper = false) ∧
    (((∃ shown managed, exchange.report publicKeyHex name manage =
        .added shown managed) ∧
      ∀ other, SameKey other publicKeyHex →
        exchange.report other name manage =
          exchange.report publicKeyHex name manage) ↔
      ∀ c ∈ publicKeyHex.toList.take 12, c.isDigit = true) := by
  have hfull := hsucceeded.isFullKey
  have hadded := hsucceeded.added_iff
  rw [lowercase_front_iff hfull] at hadded
  constructor
  · exact hadded
  constructor
  · intro htruth c hmem
    have hcapital := sameKey_capitalizeDigits publicKeyHex
    have hrespelled := hsucceeded.respelled hcapital
    have hothers := hrespelled.added_iff
    rw [lowercase_front_iff hrespelled.isFullKey, htruth.2 _ hcapital]
      at hothers
    apply isDigit_of_not_isUpper (hfull.2 c (List.mem_of_mem_take hmem))
    · exact hadded.mp htruth.1 c hmem
    · apply hothers.mp htruth.1
      rw [capitalizeDigits, String.toList_ofList, ← List.map_take]
      exact List.mem_map_of_mem hmem
  · intro hdigits
    constructor
    · rw [hadded]
      intro c hmem
      rw [← toLower_eq_self_iff (hfull.2 c (List.mem_of_mem_take hmem))]
      exact toLower_of_isDigit (hdigits c hmem)
    · intro other hsame
      have hrespelled := hsucceeded.respelled hsame
      rw [hrespelled.report_eq, hsucceeded.report_eq,
        exchange.listed_congr hsame,
        keyPrefixHex_eq_of_isDigit hrespelled.isFullKey hsame hdigits]

def hilltopKey : String :=
  "abababababababababababababababababababababababababababababababab"

/-- The hilltop repeater is a contact of the companion already, and only the
configuration has to be changed. -/
def hilltop : AddExchange where
  first := .default
  daemon := { Daemon.bare with companionContacts := [MeshController.hilltop] }
  built := ⟨[], [], [], fun _ => none, rfl⟩
  view :=
    { CommandView.offline [.ofContact MeshController.hilltop] with
      staleCache := none }
  stale_genuine := trivial
  forwarded := []
  skipped := List.forall_mem_nil _
  meanwhile := []
  meanwhile_genuine := List.forall_mem_nil _

theorem isFullKey_hilltopKey : IsFullKey hilltopKey := by
  rw [isFullKey_iff_checked]
  decide

theorem succeeded_hilltop :
    hilltop.Succeeded hilltopKey "hilltop" true := by
  constructor
  · exact isFullKey_hilltopKey
  · rfl
  · decide
  · decide

theorem add_report_iff_hilltop :
    ∃ shown managed, hilltop.report hilltopKey "hilltop" true =
      .added shown managed := by
  rw [(add_report_iff succeeded_hilltop).1]
  simp [hilltopKey]

/-- The same key in capitals: the repeater is added and listed, and the tool
says that it is not found. -/
theorem added_not_found :
    ¬ ∀ (exchange : AddExchange) (publicKeyHex name : String) (manage : Bool),
      exchange.Succeeded publicKeyHex name manage →
        (∃ shown managed, exchange.report publicKeyHex name manage =
          .added shown managed) ∧
        ∀ other, SameKey other publicKeyHex →
          exchange.report other name manage =
            exchange.report publicKeyHex name manage := by
  intro hclaim
  have hcapitals := succeeded_hilltop.respelled
    (sameKey_capitalizeDigits hilltopKey)
  have hadded := (hclaim hilltop _ "hilltop" true hcapitals).1
  have hreport : hilltop.report (capitalizeDigits hilltopKey) "hilltop" true =
      .notFoundAfterUpdate := by decide
  rw [hreport] at hadded
  rcases hadded with ⟨shown, managed, hsame⟩
  cases hsame

end AddExchange

end MeshController
