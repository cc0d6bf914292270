import MeshController.Ipc

/-!
# Commands on the mesh connection

The mesh task runs one command at a time.  Each handler is written as the list
of the steps it takes which somebody else can observe: changes of the
companion, of the configuration and its file, of the snapshot, broadcasts and
the reply.  What the companion and the disk answer on the way is given by a
`CommandView`.
-/

namespace MeshController

inductive DaemonCommand where
  | removeContact (publicKeyPrefixHex : String)
  | setRepeaterStatus (publicKeyPrefixHex name : String)
      (status : Option RepeaterStatus)
  | addRepeater (publicKeyHex name : String) (managed : Bool)
  | requestTelemetry (publicKeyPrefixHex : String)
  | requestRepeaterDetail (publicKeyPrefixHex : String)
  | refreshNodeStats
  | signData (data : List UInt8)
  | resyncObserverConfig
deriving DecidableEq

/-- The commands which change the contact list or the configuration on behalf
of a client. -/
def DaemonCommand.isMutating : DaemonCommand → Bool
  | .removeContact .. => true
  | .setRepeaterStatus .. => true
  | .addRepeater .. => true
  | _ => false

/-- The command a client request is turned into; a snapshot is served without
one. -/
def ClientMessage.command : ClientMessage → Option DaemonCommand
  | .requestSnapshot => none
  | .removeContact publicKeyPrefixHex => some (.removeContact publicKeyPrefixHex)
  | .setRepeaterStatus publicKeyPrefixHex name status =>
      some (.setRepeaterStatus publicKeyPrefixHex name status)
  | .addRepeater publicKeyHex name managed =>
      some (.addRepeater publicKeyHex name managed)
  | .requestTelemetry publicKeyPrefixHex =>
      some (.requestTelemetry publicKeyPrefixHex)
  | .requestRepeaterDetail publicKeyPrefixHex =>
      some (.requestRepeaterDetail publicKeyPrefixHex)

/-- What the client is told when the mesh task answers. -/
def DaemonCommand.answer
    (cmd : DaemonCommand) (telemetry : String → Option TelemetryDto) :
    Except String Unit → List ServerMessage
  | .error reason => [.error reason]
  | .ok _ =>
      match cmd with
      | .requestTelemetry publicKeyPrefixHex =>
          (telemetry publicKeyPrefixHex).toList.map fun reading =>
            .telemetryResult publicKeyPrefixHex reading
      | _ => []

def timedOutReason : String :=
  "timed out waiting for the mesh node (offline?)"

/-- What the daemon and its companion node hold.  `configFile` is what loading
the file would give, `none` if it cannot be loaded. -/
structure Daemon where
  config : Config
  configFile : Option Config
  companionContacts : List Contact
  discovered : List DiscoveredNode
  telemetry : String → Option TelemetryDto
  brokerStatus : String → Option MqttBrokerStatus
  snapshot : Snapshot

/-- A failed save leaves `left` in the file. -/
inductive SaveOutcome where
  | saved
  | failed (reason : String) (left : Option Config)
deriving DecidableEq

inductive MeshStep where
  | removeFromCompanion (contact : Contact)
  | addToCompanion (contact : Contact)
  | upsertConfig (request : RepeaterUpsert)
  | saveConfig (outcome : SaveOutcome)
  | setTelemetry (publicKeyPrefixHex : String) (telemetry : TelemetryDto)
  | refreshContacts (staleCache : Option (List ContactDto))
  | broadcast (kind : MeshEventKind)
  | reply (result : Except String Unit)

/-- One correction of `enforce_observer_node_config`: what it reports, and the
contact it removed, if it removed one. -/
structure ObserverCorrection where
  detail : String
  removed : Option Contact
deriving DecidableEq

/-- The answers a command gets: the cached contacts, the outcomes of the
companion's RPCs and of saving the file.  `telemetrySummary` is the reading as
text; `staleCache` is used when the fresh contact list cannot be fetched. -/
structure CommandView where
  cachedContacts : List ContactDto
  removal : Except String Contact
  declaration : Except String (Vector UInt8 32)
  save : SaveOutcome
  telemetry : Except String TelemetryDto
  telemetrySummary : String
  corrections : List ObserverCorrection
  staleCache : Option (List ContactDto)

/-- The contact a managed repeater is declared as. -/
def declaredContact (name : String) (publicKey : Vector UInt8 32) : Contact where
  publicKey := publicKey
  contactType := 2
  advName := name
  lastAdvert := 0
  advLat := 0
  advLon := 0

def equalIgnoringCase (first second : String) : Bool :=
  asciiLowercase first = asciiLowercase second

def contactName (contacts : List ContactDto) (publicKeyPrefixHex : String) :
    String :=
  ((contacts.find? fun c =>
    equalIgnoringCase c.publicKeyPrefixHex publicKeyPrefixHex).map
      fun c => c.name).getD publicKeyPrefixHex

def failedToSave (reason : String) : String :=
  "failed to save config: " ++ reason

def failedToRegister (name reason : String) : String :=
  "failed to register \"" ++ name ++ "\": " ++ reason

/-- The steps under the config lock, and what follows if they succeed. -/
def upsertManagedRepeaterConfigSteps
    (request : RepeaterUpsert) (save : SaveOutcome)
    (afterwards : List MeshStep) : List MeshStep :=
  .upsertConfig request :: .saveConfig save ::
    match save with
    | .saved => afterwards
    | .failed reason _ => [.reply (.error (failedToSave reason))]

def removeContactSteps
    (daemon : Daemon) (view : CommandView) (publicKeyPrefixHex : String) :
    List MeshStep :=
  match view.removal with
  | .error reason => [.reply (.error reason)]
  | .ok contact =>
      [.removeFromCompanion contact,
        .refreshContacts view.staleCache,
        .broadcast (.contactRemoved
          (contactName daemon.snapshot.contacts publicKeyPrefixHex)
          publicKeyPrefixHex),
        .reply (.ok ())]

/-- Registers a repeater which is not a contact yet. -/
def declareSteps (view : CommandView) (name : String)
    (afterwards : List MeshStep) : List MeshStep :=
  match view.declaration with
  | .error reason => [.reply (.error (failedToRegister name reason))]
  | .ok publicKey =>
      .addToCompanion (declaredContact name publicKey) ::
        .broadcast (.managedRepeaterDeclared name) :: afterwards

def findDiscovered
    (discovered : List DiscoveredNode) (publicKeyPrefixHex : String) :
    Option DiscoveredNode :=
  discovered.find? fun node => node.publicKeyPrefixHex = publicKeyPrefixHex

theorem matches_of_findDiscovered
    {discovered : List DiscoveredNode} {publicKeyPrefixHex : String}
    {node : DiscoveredNode}
    (hfind : findDiscovered discovered publicKeyPrefixHex = some node) :
    asciiLowercase publicKeyPrefixHex <+:
      asciiLowercase node.publicKeyHex := by
  have hname : node.publicKeyPrefixHex = publicKeyPrefixHex := by
    simpa using List.find?_some hfind
  rw [← hname]
  exact node.prefix_matches_key

def setRepeaterStatusSteps
    (daemon : Daemon) (view : CommandView)
    (publicKeyPrefixHex name : String) (status : Option RepeaterStatus) :
    List MeshStep :=
  let announced :=
    [.broadcast (.repeaterStatusChanged name status),
      .refreshContacts view.staleCache,
      .reply (.ok ())]
  let alreadyRegistered := view.cachedContacts.any fun c =>
    c.publicKeyPrefixHex = publicKeyPrefixHex
  if status.isSome && !alreadyRegistered then
    match hfind : findDiscovered daemon.discovered publicKeyPrefixHex with
    | none =>
        [.reply (.error ("\"" ++ name ++ "\" hasn't been heard yet on the " ++
          "mesh, so its full public key isn't known — cannot register it"))]
    | some node =>
        declareSteps view name
          (upsertManagedRepeaterConfigSteps
            { publicKeyPrefixHex := publicKeyPrefixHex
              name := name
              status := status
              resolvedFullKeyHex := some node.publicKeyHex
              resolved_matches := by
                simpa using matches_of_findDiscovered hfind }
            view.save announced)
  else
    upsertManagedRepeaterConfigSteps
      { publicKeyPrefixHex := publicKeyPrefixHex
        name := name
        status := status
        resolvedFullKeyHex := none
        resolved_matches := by simp }
      view.save announced

def isHexDigit (c : Char) : Bool :=
  c.isDigit || ('a' ≤ c && c ≤ 'f') || ('A' ≤ c && c ≤ 'F')

def keyPrefixHex (publicKeyHex : String) : String :=
  String.ofList (publicKeyHex.toList.take 12)

theorem keyPrefixHex_matches (publicKeyHex : String) :
    asciiLowercase (keyPrefixHex publicKeyHex) <+:
      asciiLowercase publicKeyHex := by
  simp only [asciiLowercase, keyPrefixHex, String.toList_ofList, List.map_take]
  exact List.take_prefix _ _

def addRepeaterSteps
    (view : CommandView) (publicKeyHex name : String) (managed : Bool) :
    List MeshStep :=
  if publicKeyHex.utf8ByteSize ≠ 64 ∨ !publicKeyHex.toList.all isHexDigit then
    [.reply (.error ("\"" ++ name ++ "\" needs a full 32-byte public key " ++
      "(64 hex characters), got " ++ toString publicKeyHex.utf8ByteSize ++
      " characters"))]
  else
    let finished :=
      [.refreshContacts view.staleCache, .reply (.ok ())]
    let configured :=
      if managed then
        upsertManagedRepeaterConfigSteps
          { publicKeyPrefixHex := keyPrefixHex publicKeyHex
            name := name
            status := some .managed
            resolvedFullKeyHex := some publicKeyHex
            resolved_matches := by
              simpa using keyPrefixHex_matches publicKeyHex }
          view.save finished
      else finished
    let alreadyRegistered := view.cachedContacts.any fun c =>
      equalIgnoringCase c.publicKeyPrefixHex (keyPrefixHex publicKeyHex)
    if alreadyRegistered then configured
    else declareSteps view name configured

def Daemon.rebuiltContacts
    (daemon : Daemon) (staleCache : Option (List ContactDto)) :
    List ContactDto :=
  buildSnapshotContacts daemon.config.managedRepeaters
    (staleCache.getD (daemon.companionContacts.map ContactDto.ofContact))
    daemon.discovered daemon.telemetry

/-- `finalize_telemetry_success`, shared by the two telemetry commands. -/
def telemetrySteps
    (daemon : Daemon) (view : CommandView) (publicKeyPrefixHex : String) :
    List MeshStep :=
  match view.telemetry with
  | .error _ => []
  | .ok telemetry =>
      [.setTelemetry publicKeyPrefixHex telemetry,
        .refreshContacts view.staleCache,
        .broadcast (.telemetryReceived
          (contactName (daemon.rebuiltContacts view.staleCache)
            publicKeyPrefixHex)
          view.telemetrySummary)]

def enforceObserverNodeConfigSteps (view : CommandView) : List MeshStep :=
  (view.corrections.flatMap fun correction =>
    correction.removed.toList.map MeshStep.removeFromCompanion ++
      [.broadcast (.observerNodeConfigEnforced correction.detail)]) ++
  if view.corrections.any fun correction => correction.removed.isSome then
    [.refreshContacts view.staleCache]
  else []

def handleCommandSteps
    (daemon : Daemon) (view : CommandView) : DaemonCommand → List MeshStep
  | .removeContact publicKeyPrefixHex =>
      removeContactSteps daemon view publicKeyPrefixHex
  | .setRepeaterStatus publicKeyPrefixHex name status =>
      setRepeaterStatusSteps daemon view publicKeyPrefixHex name status
  | .addRepeater publicKeyHex name managed =>
      addRepeaterSteps view publicKeyHex name managed
  | .requestTelemetry publicKeyPrefixHex =>
      telemetrySteps daemon view publicKeyPrefixHex ++
        [.reply (view.telemetry.map fun _ => ())]
  | .requestRepeaterDetail publicKeyPrefixHex =>
      telemetrySteps daemon view publicKeyPrefixHex ++ [.reply (.ok ())]
  | .refreshNodeStats => [.reply (.ok ())]
  | .signData _ => [.reply (.ok ())]
  | .resyncObserverConfig =>
      if daemon.config.daemon.observerNodeManagedConfig then
        enforceObserverNodeConfigSteps view
      else []

/-! ## What a handler is made of -/

/-- A step on the way to the reply.  A handler announces neither the start nor
the end of a connection. -/
def MeshStep.onTheWay : MeshStep → Bool
  | .broadcast .connected => false
  | .broadcast .disconnected => false
  | .reply _ => false
  | _ => true

/-- A handler replies at most once, as the last thing it does. -/
inductive HandlerScript : List MeshStep → Prop where
  | done : HandlerScript []
  | reply (result : Except String Unit) : HandlerScript [.reply result]
  | step {head : MeshStep} {rest : List MeshStep}
      (hhead : head.onTheWay = true) (hrest : HandlerScript rest) :
      HandlerScript (head :: rest)

namespace HandlerScript

theorem prepend
    {first second : List MeshStep}
    (hfirst : ∀ step ∈ first, step.onTheWay = true)
    (hsecond : HandlerScript second) : HandlerScript (first ++ second) := by
  induction first with
  | nil => exact hsecond
  | cons head rest ih =>
      obtain ⟨hhead, hrest⟩ := List.forall_mem_cons.mp hfirst
      exact .step hhead (ih hrest)

theorem tail
    {head : MeshStep} {rest : List MeshStep}
    (hscript : HandlerScript (head :: rest)) : HandlerScript rest := by
  cases hscript with
  | reply result => exact .done
  | step hhead hrest => exact hrest

theorem eq_nil_of_reply
    {result : Except String Unit} {rest : List MeshStep}
    (hscript : HandlerScript (.reply result :: rest)) : rest = [] := by
  cases hscript with
  | reply result => rfl
  | step hhead hrest => cases hhead

theorem ne_disconnected
    {script : List MeshStep} (hscript : HandlerScript script) :
    ∀ step ∈ script, step ≠ .broadcast .disconnected := by
  induction hscript with
  | done => simp
  | reply result => simp
  | step hhead hrest ih =>
      rw [List.forall_mem_cons]
      refine ⟨?_, ih⟩
      rintro rfl
      cases hhead

theorem upsert
    (request : RepeaterUpsert) (save : SaveOutcome)
    {afterwards : List MeshStep} (hafterwards : HandlerScript afterwards) :
    HandlerScript
      (upsertManagedRepeaterConfigSteps request save afterwards) := by
  unfold upsertManagedRepeaterConfigSteps
  apply step rfl
  apply step rfl
  cases save with
  | saved => exact hafterwards
  | failed reason left => exact .reply _

theorem declare
    (view : CommandView) (name : String)
    {afterwards : List MeshStep} (hafterwards : HandlerScript afterwards) :
    HandlerScript (declareSteps view name afterwards) := by
  unfold declareSteps
  cases view.declaration with
  | error reason => exact .reply _
  | ok publicKey => exact .step rfl (.step rfl hafterwards)

theorem setRepeaterStatus
    (daemon : Daemon) (view : CommandView)
    (publicKeyPrefixHex name : String) (status : Option RepeaterStatus) :
    HandlerScript
      (setRepeaterStatusSteps daemon view publicKeyPrefixHex name status) := by
  have hannounced : HandlerScript
      [.broadcast (.repeaterStatusChanged name status),
        .refreshContacts view.staleCache, .reply (.ok ())] :=
    .step rfl (.step rfl (.reply _))
  unfold setRepeaterStatusSteps
  simp only
  split
  · split
    · exact .reply _
    · exact declare view name (upsert _ _ hannounced)
  · exact upsert _ _ hannounced

theorem addRepeater
    (view : CommandView) (publicKeyHex name : String) (managed : Bool) :
    HandlerScript (addRepeaterSteps view publicKeyHex name managed) := by
  have hfinished : HandlerScript
      [.refreshContacts view.staleCache, .reply (.ok ())] :=
    .step rfl (.reply _)
  have hconfigured : ∀ request, HandlerScript
      (if managed = true then
        upsertManagedRepeaterConfigSteps request view.save
          [.refreshContacts view.staleCache, .reply (.ok ())]
      else [.refreshContacts view.staleCache, .reply (.ok ())]) := by
    intro request
    split
    · exact upsert request _ hfinished
    · exact hfinished
  unfold addRepeaterSteps
  simp only
  split
  · exact .reply _
  · split
    · exact hconfigured _
    · exact declare view name (hconfigured _)

theorem telemetry
    (daemon : Daemon) (view : CommandView) (publicKeyPrefixHex : String)
    (result : Except String Unit) :
    HandlerScript
      (telemetrySteps daemon view publicKeyPrefixHex ++ [.reply result]) := by
  apply prepend ?_ (.reply result)
  unfold telemetrySteps
  cases view.telemetry <;> simp [MeshStep.onTheWay]

theorem enforceObserverNodeConfig (view : CommandView) :
    HandlerScript (enforceObserverNodeConfigSteps view) := by
  unfold enforceObserverNodeConfigSteps
  apply prepend
  · intro step hmem
    obtain ⟨correction, _, hstep⟩ := List.mem_flatMap.mp hmem
    rcases List.mem_append.mp hstep with hremoved | hannounced
    · obtain ⟨contact, _, rfl⟩ := List.mem_map.mp hremoved
      rfl
    · rw [List.mem_singleton.mp hannounced]
      rfl
  · split
    · exact .step rfl .done
    · exact .done

theorem handleCommand
    (daemon : Daemon) (view : CommandView) (cmd : DaemonCommand) :
    HandlerScript (handleCommandSteps daemon view cmd) := by
  cases cmd with
  | removeContact publicKeyPrefixHex =>
      simp only [handleCommandSteps, removeContactSteps]
      cases view.removal with
      | error reason => exact .reply _
      | ok contact => exact .step rfl (.step rfl (.step rfl (.reply _)))
  | setRepeaterStatus publicKeyPrefixHex name status =>
      exact setRepeaterStatus daemon view _ name status
  | addRepeater publicKeyHex name managed =>
      exact addRepeater view publicKeyHex name managed
  | requestTelemetry publicKeyPrefixHex
  | requestRepeaterDetail publicKeyPrefixHex =>
      exact telemetry daemon view publicKeyPrefixHex _
  | refreshNodeStats | signData data => exact .reply _
  | resyncObserverConfig =>
      simp only [handleCommandSteps]
      split
      · exact enforceObserverNodeConfig view
      · exact .done

end HandlerScript

/-! ## What a step changes -/

def Daemon.afterStep (daemon : Daemon) : MeshStep → Daemon
  | .removeFromCompanion contact =>
      { daemon with
        companionContacts := daemon.companionContacts.filter fun c =>
          c.publicKey ≠ contact.publicKey }
  | .addToCompanion contact =>
      { daemon with
        companionContacts := (daemon.companionContacts.filter fun c =>
          c.publicKey ≠ contact.publicKey) ++ [contact] }
  | .upsertConfig request =>
      { daemon with config := daemon.config.upsertManagedRepeater request }
  | .saveConfig .saved => { daemon with configFile := some daemon.config }
  | .saveConfig (.failed _ left) => { daemon with configFile := left }
  | .setTelemetry publicKeyPrefixHex telemetry =>
      { daemon with
        telemetry :=
          Function.update daemon.telemetry publicKeyPrefixHex
            (some telemetry) }
  | .refreshContacts staleCache =>
      { daemon with
        snapshot := { daemon.snapshot with
          contacts := daemon.rebuiltContacts staleCache } }
  | .broadcast _ => daemon
  | .reply _ => daemon

/-- A daemon which has just started on a bare configuration. -/
def Daemon.bare : Daemon where
  config := .bare
  configFile := some .bare
  companionContacts := []
  discovered := []
  telemetry := fun _ => none
  brokerStatus := fun _ => none
  snapshot := .default

def knownContact : ContactDto where
  name := "hilltop"
  publicKeyPrefixHex := "0a1b2c3d4e5f"
  lastAdvertUnix := 0
  lat := 0
  lon := 0
  registered := true
  managed := false
  repeaterStatus := none
  contactType := 2
  lastTelemetry := none

/-- A companion which knows the given contacts and cannot be reached, and a
disk which works. -/
def CommandView.offline (cachedContacts : List ContactDto) : CommandView where
  cachedContacts := cachedContacts
  removal := .error "timed out"
  declaration := .error "timed out"
  save := .saved
  telemetry := .error "timed out"
  telemetrySummary := ""
  corrections := []
  staleCache := some cachedContacts

def Daemon.served (daemon : Daemon) : Snapshot :=
  currentSnapshot daemon.snapshot daemon.config daemon.brokerStatus

theorem Daemon.snapshot_afterStep
    (daemon : Daemon) (step : MeshStep)
    (hother : ∀ staleCache, step ≠ .refreshContacts staleCache) :
    (daemon.afterStep step).snapshot = daemon.snapshot := by
  cases step with
  | saveConfig outcome => cases outcome <;> rfl
  | refreshContacts staleCache => exact absurd rfl (hother staleCache)
  | removeFromCompanion contact | addToCompanion contact
  | upsertConfig request | setTelemetry key telemetry | broadcast kind
  | reply result => rfl

theorem Daemon.config_afterStep
    (daemon : Daemon) (step : MeshStep)
    (hother : ∀ request, step ≠ .upsertConfig request) :
    (daemon.afterStep step).config = daemon.config := by
  cases step with
  | saveConfig outcome => cases outcome <;> rfl
  | upsertConfig request => exact absurd rfl (hother request)
  | removeFromCompanion contact | addToCompanion contact
  | refreshContacts staleCache | setTelemetry key telemetry | broadcast kind
  | reply result => rfl

theorem Daemon.configFile_afterStep
    (daemon : Daemon) (step : MeshStep)
    (hother : ∀ outcome, step ≠ .saveConfig outcome) :
    (daemon.afterStep step).configFile = daemon.configFile := by
  cases step with
  | saveConfig outcome => exact absurd rfl (hother outcome)
  | upsertConfig request | removeFromCompanion contact
  | addToCompanion contact | refreshContacts staleCache
  | setTelemetry key telemetry | broadcast kind | reply result => rfl

end MeshController
