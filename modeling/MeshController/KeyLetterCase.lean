import MeshController.AlikeRuns
import MeshController.FailedCommands
import MeshController.RepeaterDetail

/-!
# The letter case of the key a command carries

Every command which carries a key is run twice, with the key as it was given
and with its small letters as capitals.  Where the daemon looks a key up
ignoring case, or decodes it, the two runs agree.  A status is set by a
comparison letter for letter, and telemetry is stored under the very key it
was asked for.
-/

namespace MeshController

open HexEncoding MeshClient

/-! ## The two runs -/

/-- The command with the hex digits a to f of its key as capitals. -/
def DaemonCommand.capitalized : DaemonCommand → DaemonCommand
  | .removeContact publicKeyPrefixHex =>
      .removeContact (capitalizeDigits publicKeyPrefixHex)
  | .setRepeaterStatus publicKeyPrefixHex name status =>
      .setRepeaterStatus (capitalizeDigits publicKeyPrefixHex) name status
  | .addRepeater publicKeyHex name managed =>
      .addRepeater (capitalizeDigits publicKeyHex) name managed
  | .requestTelemetry publicKeyPrefixHex =>
      .requestTelemetry (capitalizeDigits publicKeyPrefixHex)
  | .requestRepeaterDetail publicKeyPrefixHex =>
      .requestRepeaterDetail (capitalizeDigits publicKeyPrefixHex)
  | .refreshNodeStats => .refreshNodeStats
  | .signData data => .signData data
  | .resyncObserverConfig => .resyncObserverConfig

/-- A session whose overheard nodes have their names from the radio: the key
of an advertisement is encoded in small letters. -/
structure HeardSession extends Session where
  heard : ∀ node ∈ daemon.discovered,
    ∃ publicKey : List UInt8, node.publicKeyHex = hexEncode publicKey

theorem heard_of_extractDiscoveredNode
    {event : MeshCoreEvent} {nowUnix : ℤ} {node : DiscoveredNode}
    (hextract : extractDiscoveredNode event nowUnix = some node) :
    ∃ publicKey : List UInt8, node.publicKeyHex = hexEncode publicKey := by
  unfold extractDiscoveredNode at hextract
  split at hextract
  next log _ =>
    split at hextract
    next header adv _ _ =>
      split at hextract
      next => cases hextract
      next =>
        use adv.publicKey.toList
        rw [← Option.some.inj hextract]
    next => cases hextract
  next => cases hextract

inductive LoginAnswer where
  | success
  | rejected
  | failed (reason : String)

/-- What the companion and the remote nodes answer.  A request to a remote
node is made of a contact, not of a key. -/
structure NodeAnswers where
  removal : Except String Unit
  declaration : Except String Unit
  login : Contact → String → LoginAnswer
  status : Contact → Except String StatusDto
  telemetry : Contact → Except String (List TelemetryReading)
  neighbours : Contact → Except String NeighboursDto
  regionReply : Contact → Except String (Option String)
  nowUnix : ℤ
  telemetrySummary : String
  save : SaveOutcome
  fetchesContacts : Bool
  corrections : List ObserverCorrection

def RepeaterDetailCategory.isOk : RepeaterDetailCategory → Bool
  | .status outcome => outcome.isOk
  | .telemetry outcome => outcome.isOk
  | .neighbours outcome => outcome.isOk
  | .regions outcome => outcome.isOk

namespace HeardSession

variable (session : HeardSession) (answers : NodeAnswers)

/-- The contacts a refresh falls back on. -/
def staleCache : Option (List ContactDto) :=
  if answers.fetchesContacts then none
  else some (session.cache.map ContactDto.ofContact)

section Requests

variable [HexDecoder] (publicKeyPrefixHex : String)

def login (password : String) : Except String Unit :=
  match resolveContact session.cache publicKeyPrefixHex with
  | .error reason => .error reason
  | .ok contact =>
      match answers.login contact password with
      | .success => .ok ()
      | .rejected =>
          .error ("login to " ++ publicKeyPrefixHex ++
            " was rejected (wrong password?)")
      | .failed reason => .error reason

/-- A request to the contact which the key resolves to. -/
def request {Data : Type} (answer : Contact → Except String Data) :
    Except String Data :=
  match resolveContact session.cache publicKeyPrefixHex with
  | .error reason => .error reason
  | .ok contact => answer contact

def requestRegionHierarchy : Except String RegionHierarchyDto :=
  session.request publicKeyPrefixHex fun contact =>
    match answers.regionReply contact with
    | .error reason => .error reason
    | .ok (some text) => .ok (parseRegionHierarchy text answers.nowUnix)
    | .ok none =>
        .error ("no reply from " ++ publicKeyPrefixHex ++ " to the " ++
          "\"region\" command (wrong login role, or genuinely no response)")

/-- The reading of a telemetry command, which logs in if there is a
password. -/
def requestTelemetry : Except String TelemetryDto :=
  let loggedIn :=
    match findRepeaterPassword session.daemon.config publicKeyPrefixHex with
    | some password => session.login answers publicKeyPrefixHex password
    | none => .ok ()
  match loggedIn with
  | .error reason => .error reason
  | .ok () =>
      (session.request publicKeyPrefixHex answers.telemetry).map fun readings =>
        { fetchedAtUnix := answers.nowUnix, readings := readings }

def detailAnswers : DetailAnswers where
  contacts := session.cache.map ContactDto.ofContact
  login := session.login answers publicKeyPrefixHex
  nowUnix := answers.nowUnix
  status := session.request publicKeyPrefixHex answers.status
  telemetry := session.request publicKeyPrefixHex answers.telemetry
  neighbours := session.request publicKeyPrefixHex answers.neighbours
  regions := session.requestRegionHierarchy answers publicKeyPrefixHex

def detailActions : List DetailAction :=
  requestRepeaterDetail session.daemon.config publicKeyPrefixHex
    (session.detailAnswers answers publicKeyPrefixHex)

end Requests

section Run

variable [HexDecoder] (cmd : DaemonCommand)

/-- The reading a command asks for by itself. -/
def readingOf : DaemonCommand → Except String TelemetryDto
  | .requestTelemetry publicKeyPrefixHex =>
      session.requestTelemetry answers publicKeyPrefixHex
  | _ => .error ""

def view : CommandView :=
  session.toSession.view
    { removal := answers.removal
      declaration := answers.declaration
      others :=
        { cachedContacts := []
          removal := .error ""
          declaration := .error ""
          save := answers.save
          telemetry := session.readingOf answers cmd
          telemetrySummary := answers.telemetrySummary
          corrections := answers.corrections
          staleCache := session.staleCache answers } }
    cmd

def steps : List MeshStep :=
  match cmd with
  | .requestRepeaterDetail publicKeyPrefixHex =>
      (session.detailActions answers publicKeyPrefixHex).flatMap
        (DetailAction.meshSteps session.daemon (session.view answers cmd)
          publicKeyPrefixHex)
  | _ => handleCommandSteps session.daemon (session.view answers cmd) cmd

def after : Daemon :=
  (session.steps answers cmd).foldl Daemon.afterStep session.daemon

/-- Success or failure of the command; a detail has it for each category. -/
def succeeded : List Bool :=
  match cmd with
  | .requestRepeaterDetail publicKeyPrefixHex =>
      (sentCategories
        (session.detailActions answers publicKeyPrefixHex)).map
          RepeaterDetailCategory.isOk
  | _ => repliesOk (session.steps answers cmd)

end Run

def nextContacts (daemon : Daemon) : List ContactDto :=
  daemon.rebuiltContacts (session.staleCache answers)

end HeardSession

def ContactDto.tierAndTelemetry (contact : ContactDto) :
    String × Option RepeaterStatus × Option TelemetryDto :=
  (contact.publicKeyPrefixHex, contact.repeaterStatus, contact.lastTelemetry)

/-- The two runs agree on all which does not show the spelling. -/
structure CaseBlind [HexDecoder] (session : HeardSession)
    (answers : NodeAnswers) (cmd : DaemonCommand) : Prop where
  succeeded : session.succeeded answers cmd =
    session.succeeded answers cmd.capitalized
  config : (session.after answers cmd).config.Alike
    (session.after answers cmd.capitalized).config
  companionContacts : (session.after answers cmd).companionContacts =
    (session.after answers cmd.capitalized).companionContacts
  nextContacts :
    (session.nextContacts answers (session.after answers cmd)).map
      ContactDto.tierAndTelemetry =
    (session.nextContacts answers
      (session.after answers cmd.capitalized)).map
        ContactDto.tierAndTelemetry

/-! ## When they agree -/

/-- What setting a status comes to changes nothing: it is refused, or it
cannot be saved and leaves the entries and the companion as they are. -/
def StatusLeavesAll
    (daemon : Daemon) (view : CommandView) (publicKeyPrefixHex name : String)
    (status : RepeaterStatus) : Prop :=
  ∀ request ∈ statusEdit daemon view publicKeyPrefixHex name (some status),
    view.save ≠ .saved ∧
    AlikeRepeaters
      (upsertManagedRepeater daemon.config.managedRepeaters request)
      daemon.config.managedRepeaters ∧
    ((view.cachedContacts.any fun c =>
        c.publicKeyPrefixHex = publicKeyPrefixHex) = false →
      ∀ publicKey, view.declaration = .ok publicKey →
        (daemon.afterStep (.addToCompanion
          (declaredContact name publicKey))).companionContacts =
          daemon.companionContacts)

/-- A reading is what every contact listed under the key shows already. -/
def ReadingIsShown
    (contacts : List ContactDto) (publicKeyPrefixHex : String)
    (telemetry : TelemetryDto) : Prop :=
  ∀ contact ∈ contacts, contact.publicKeyPrefixHex = publicKeyPrefixHex →
    contact.lastTelemetry = some telemetry

/-- The contact of the key answers with a reading, and accepts the password if
one is configured. -/
def ReadingComesIn [HexDecoder] (session : HeardSession)
    (answers : NodeAnswers) (publicKeyPrefixHex : String)
    (readings : List TelemetryReading) : Prop :=
  ∃ contact, resolveContact session.cache publicKeyPrefixHex = .ok contact ∧
    answers.telemetry contact = .ok readings ∧
    ∀ password,
      findRepeaterPassword session.daemon.config publicKeyPrefixHex =
        some password →
      answers.login contact password = .success

/-- A key without a small letter is the same in both runs. -/
def CaseSafe [HexDecoder] (session : HeardSession) (answers : NodeAnswers)
    (cmd : DaemonCommand) : Prop :=
  match cmd with
  | .setRepeaterStatus publicKeyPrefixHex name (some status) =>
      capitalizeDigits publicKeyPrefixHex = publicKeyPrefixHex ∨
        StatusLeavesAll session.daemon (session.view answers cmd)
          publicKeyPrefixHex name status
  | .requestTelemetry publicKeyPrefixHex =>
      capitalizeDigits publicKeyPrefixHex = publicKeyPrefixHex ∨
        ∀ readings,
          ReadingComesIn session answers publicKeyPrefixHex readings →
          ReadingIsShown (session.nextContacts answers session.daemon)
            publicKeyPrefixHex ⟨answers.nowUnix, readings⟩
  | .requestRepeaterDetail publicKeyPrefixHex =>
      capitalizeDigits publicKeyPrefixHex = publicKeyPrefixHex ∨
        (isRegisteredContact (session.cache.map ContactDto.ofContact)
            publicKeyPrefixHex = true →
          ∀ readings,
            ReadingComesIn session answers publicKeyPrefixHex readings →
            ReadingIsShown (session.nextContacts answers session.daemon)
              publicKeyPrefixHex ⟨answers.nowUnix, readings⟩)
  | _ => True

/-! ## Keys which are looked up ignoring case -/

section Lookups

theorem findRepeaterPassword_congr
    (config : Config) {key₁ key₂ : String} (hsame : SameKey key₁ key₂) :
    findRepeaterPassword config key₁ = findRepeaterPassword config key₂ := by
  have hfind := (AlikeRepeaters.refl config.managedRepeaters).find hsame
  unfold findRepeaterPassword
  generalize config.managedRepeaters.find? _ = one at hfind ⊢
  generalize config.managedRepeaters.find? _ = other at hfind ⊢
  cases hfind with
  | none => rfl
  | some hentry => exact hentry.password

theorem isRegisteredContact_congr
    (contacts : List ContactDto) {key₁ key₂ : String}
    (hsame : SameKey key₁ key₂) :
    isRegisteredContact contacts key₁ = isRegisteredContact contacts key₂ := by
  unfold isRegisteredContact
  simp only [equalIgnoringCase_congr _ hsame]

variable [HexDecoder]

theorem hexDecode_sameOutcome
    (hdecodes : DecodesHex) {key₁ key₂ : String} (hsame : SameKey key₁ key₂) :
    SameOutcome (HexDecoder.hexDecode key₁) (HexDecoder.hexDecode key₂) := by
  have hok : ∀ {one other : String}, SameKey one other → ∀ bytes,
      HexDecoder.hexDecode one = .ok bytes →
        HexDecoder.hexDecode other = .ok bytes := by
    intro one other hspelled bytes hdecoded
    rw [hdecodes] at hdecoded ⊢
    rw [← hdecoded]
    exact hspelled.symm
  cases hfirst : HexDecoder.hexDecode key₁ with
  | ok bytes =>
      rw [hok hsame bytes hfirst]
      exact .ok bytes
  | error reason =>
      cases hsecond : HexDecoder.hexDecode key₂ with
      | error other => exact .error reason other
      | ok bytes =>
          have hboth := hok hsame.symm bytes hsecond
          rw [hfirst] at hboth
          cases hboth

theorem resolveContact_sameOutcome
    (hdecodes : DecodesHex) (cache : List Contact) {key₁ key₂ : String}
    (hsame : SameKey key₁ key₂) :
    SameOutcome (resolveContact cache key₁) (resolveContact cache key₂) := by
  have hdecoded := hexDecode_sameOutcome hdecodes hsame
  unfold resolveContact
  generalize HexDecoder.hexDecode key₁ = one at hdecoded ⊢
  generalize HexDecoder.hexDecode key₂ = other at hdecoded ⊢
  cases hdecoded with
  | error => exact .error _ _
  | ok bytes =>
      simp only
      cases cache.find? _ with
      | none => exact .error _ _
      | some contact => exact .ok contact

theorem contactToDeclare_sameOutcome
    (hdecodes : DecodesHex) {first second : ManagedRepeater}
    (halike : first.Alike second) :
    SameOutcome (contactToDeclare first) (contactToDeclare second) := by
  have hdecoded := hexDecode_sameOutcome hdecodes halike.publicKey
  unfold contactToDeclare
  rw [halike.name]
  generalize HexDecoder.hexDecode first.publicKeyHex = one at hdecoded ⊢
  generalize HexDecoder.hexDecode second.publicKeyHex = other at hdecoded ⊢
  cases hdecoded with
  | error => exact .error _ _
  | ok bytes => exact .refl _

end Lookups

/-! ## Commands which only look the key up -/

section Alike

variable [HexDecoder] {session : HeardSession} {answers : NodeAnswers}
  {cmd : DaemonCommand}

theorem caseBlind_of_alikeSteps
    (hsucceeded : session.succeeded answers cmd =
      session.succeeded answers cmd.capitalized)
    (hsteps : AlikeSteps (session.steps answers cmd)
      (session.steps answers cmd.capitalized)) :
    CaseBlind session answers cmd := by
  have halike : (session.after answers cmd).Alike
      (session.after answers cmd.capitalized) :=
    (Daemon.Alike.refl session.daemon).afterSteps hsteps
  constructor
  · exact hsucceeded
  · exact halike.config
  · exact halike.companionContacts
  · unfold HeardSession.nextContacts
    rw [halike.rebuiltContacts]

theorem caseBlind_of_capitalized_eq (hsame : cmd.capitalized = cmd) :
    CaseBlind session answers cmd := by
  apply caseBlind_of_alikeSteps
  · rw [hsame]
  · rw [hsame]
    exact .refl _

theorem caseBlind_removeContact
    (hdecodes : DecodesHex) (session : HeardSession) (answers : NodeAnswers)
    (publicKeyPrefixHex : String) :
    CaseBlind session answers (.removeContact publicKeyPrefixHex) := by
  have hview : (session.view answers (.removeContact publicKeyPrefixHex)).Alike
      (session.view answers
        (.removeContact (capitalizeDigits publicKeyPrefixHex))) := by
    have hresolved := resolveContact_sameOutcome hdecodes session.cache
      (sameKey_capitalizeDigits publicKeyPrefixHex).symm
    constructor
    · rfl
    · unfold HeardSession.view Session.view SessionAnswers.removalFrom
      simp only
      generalize resolveContact session.cache publicKeyPrefixHex = one
        at hresolved ⊢
      generalize resolveContact session.cache _ = other at hresolved ⊢
      cases hresolved with
      | error => exact .error _ _
      | ok contact => exact .refl _
    · exact .refl _
    · rfl
    · rfl
  have hsteps := alikeSteps_removeContact hview session.daemon
    publicKeyPrefixHex (capitalizeDigits publicKeyPrefixHex)
  exact caseBlind_of_alikeSteps hsteps.repliesOk hsteps

theorem caseBlind_addRepeater
    (hdecodes : DecodesHex) (session : HeardSession) (answers : NodeAnswers)
    (publicKeyHex name : String) (managed : Bool) :
    CaseBlind session answers (.addRepeater publicKeyHex name managed) := by
  have hsame := (sameKey_capitalizeDigits publicKeyHex).symm
  have hview : (session.view answers
      (.addRepeater publicKeyHex name managed)).Alike
        (session.view answers
          (.addRepeater (capitalizeDigits publicKeyHex) name managed)) := by
    have halike : (⟨name, publicKeyHex, none, .managed⟩ :
        ManagedRepeater).Alike
          ⟨name, capitalizeDigits publicKeyHex, none, .managed⟩ := by
      constructor
      · rfl
      · exact hsame
      · rfl
      · rfl
    have hdeclared := contactToDeclare_sameOutcome hdecodes halike
    constructor
    · rfl
    · exact .refl _
    · unfold HeardSession.view Session.view SessionAnswers.declarationOf
      simp only
      generalize contactToDeclare ⟨name, publicKeyHex, none, .managed⟩ = one
        at hdeclared ⊢
      generalize contactToDeclare _ = other at hdeclared ⊢
      cases hdeclared with
      | error => exact .error _ _
      | ok contact => exact .refl _
    · rfl
    · rfl
  have hsteps := alikeSteps_addRepeater hview hsame name managed
  exact caseBlind_of_alikeSteps hsteps.repliesOk hsteps

theorem caseBlind_clearStatus
    (session : HeardSession) (answers : NodeAnswers)
    (publicKeyPrefixHex name : String) :
    CaseBlind session answers
      (.setRepeaterStatus publicKeyPrefixHex name none) := by
  have hsteps : AlikeSteps
      (session.steps answers (.setRepeaterStatus publicKeyPrefixHex name none))
      (session.steps answers
        (.setRepeaterStatus (capitalizeDigits publicKeyPrefixHex) name
          none)) :=
    alikeSteps_clearStatus rfl rfl session.daemon
      (sameKey_capitalizeDigits publicKeyPrefixHex).symm name
  exact caseBlind_of_alikeSteps hsteps.repliesOk hsteps

end Alike

/-! ## Setting a status -/

theorem capitalizeDigits_eq_of_lowercase {key : String}
    (hlowercase : asciiLowercase (capitalizeDigits key) =
      (capitalizeDigits key).toList) : capitalizeDigits key = key := by
  have hascii : ∀ n : Fin 128, capitalizeDigit (Char.ofNat n.val) =
      (Char.ofNat n.val).toLower →
        capitalizeDigit (Char.ofNat n.val) = Char.ofNat n.val := by decide
  rw [sameKey_capitalizeDigits key, asciiLowercase, capitalizeDigits,
    String.toList_ofList] at hlowercase
  apply String.toList_inj.mp
  rw [capitalizeDigits, String.toList_ofList]
  calc key.toList.map capitalizeDigit
      = key.toList.map id := ?_
    _ = key.toList := key.toList.map_id
  apply List.map_inj_left.mpr
  intro c hmem
  have hsame := List.map_inj_left.mp hlowercase c hmem
  by_cases hsmall : 'a' ≤ c ∧ c ≤ 'f'
  · have hletter := hascii ⟨c.toNat, toNat_lt_of_small hsmall⟩
    rw [Char.ofNat_toNat] at hletter
    exact hletter hsame.symm
  · exact if_neg hsmall

/-- Nothing spelled in small letters is the key in capitals. -/
theorem ne_capitalizeDigits_of_lowercase {text key : String}
    (hletter : capitalizeDigits key ≠ key)
    (hlowercase : asciiLowercase text = text.toList) :
    text ≠ capitalizeDigits key := by
  intro htext
  rw [htext] at hlowercase
  exact hletter (capitalizeDigits_eq_of_lowercase hlowercase)

theorem lowercase_hexEncode (bytes : List UInt8) :
    asciiLowercase (hexEncode bytes) = (hexEncode bytes).toList := by
  rw [asciiLowercase_hexEncode, toList_hexEncode]

theorem HeardSession.lowercase_of_heard
    (session : HeardSession) {node : DiscoveredNode}
    (hnode : node ∈ session.daemon.discovered) :
    asciiLowercase node.publicKeyPrefixHex =
      node.publicKeyPrefixHex.toList := by
  rcases session.heard node hnode with ⟨publicKey, hkey⟩
  have hlowercase := lowercase_hexEncode publicKey
  rw [asciiLowercase, ← hkey] at hlowercase
  rw [asciiLowercase, node.prefix_of_key, List.map_take, hlowercase]

theorem setRepeaterStatusSteps_of_cached
    (publicKeyPrefixHex name : String) (status : RepeaterStatus)
    {daemon : Daemon} {view : CommandView}
    (hcached : (view.cachedContacts.any fun c =>
      c.publicKeyPrefixHex = publicKeyPrefixHex) = true) :
    setRepeaterStatusSteps daemon view publicKeyPrefixHex name (some status) =
      upsertManagedRepeaterConfigSteps
        (editOf publicKeyPrefixHex name (some status)) view.save
        (announcedSteps view name (some status)) := by
  unfold setRepeaterStatusSteps
  simp only [hcached, Option.isSome_some, Bool.not_true, Bool.and_false,
    Bool.false_eq_true, if_false]
  rfl

/-- For one which is not, nothing is done unless it was heard and can be
registered. -/
theorem setRepeaterStatusSteps_of_uncached
    (daemon : Daemon) (publicKeyPrefixHex name : String)
    (status : RepeaterStatus) {view : CommandView}
    (huncached : (view.cachedContacts.any fun c =>
      c.publicKeyPrefixHex = publicKeyPrefixHex) = false) :
    (statusEdit daemon view publicKeyPrefixHex name (some status) = none ∧
      ∃ reason,
        setRepeaterStatusSteps daemon view publicKeyPrefixHex name
          (some status) = [.reply (.error reason)]) ∨
    ∃ request publicKey,
      statusEdit daemon view publicKeyPrefixHex name (some status) =
        some request ∧
      view.declaration = .ok publicKey ∧
      setRepeaterStatusSteps daemon view publicKeyPrefixHex name
          (some status) =
        .addToCompanion (declaredContact name publicKey) ::
          .broadcast (.managedRepeaterDeclared name) ::
            upsertManagedRepeaterConfigSteps request view.save
              (announcedSteps view name (some status)) := by
  cases hfind : findDiscovered daemon.discovered publicKeyPrefixHex with
  | none =>
      left
      constructor
      · simp [statusEdit, huncached, hfind]
      · unfold setRepeaterStatusSteps
        simp only [huncached, Option.isSome_some, Bool.not_false,
          Bool.and_true, if_true]
        split
        next => exact ⟨_, rfl⟩
        next node hother =>
          rw [hfind] at hother
          cases hother
  | some node =>
      have hname : node.publicKeyPrefixHex = publicKeyPrefixHex := by
        simpa using List.find?_some hfind
      subst hname
      have hsteps : setRepeaterStatusSteps daemon view
          node.publicKeyPrefixHex name (some status) =
            declareSteps view name
              (upsertManagedRepeaterConfigSteps (node.editOf name status)
                view.save (announcedSteps view name (some status))) := by
        unfold setRepeaterStatusSteps
        simp only [huncached, Option.isSome_some, Bool.not_false,
          Bool.and_true, if_true]
        split
        next hother =>
          rw [hfind] at hother
          cases hother
        next found hother =>
          rw [hfind, Option.some.injEq] at hother
          subst hother
          rfl
      rw [hsteps]
      unfold declareSteps
      cases hdeclaration : view.declaration with
      | error reason =>
          left
          constructor
          · simp [statusEdit, huncached, hfind, hdeclaration, Except.toBool]
          · exact ⟨_, rfl⟩
      | ok publicKey =>
          right
          use node.editOf name status, publicKey
          constructor
          · simp [statusEdit, huncached, hfind, hdeclaration, Except.toBool]
          · exact ⟨rfl, rfl⟩

theorem repliesOk_of_registers
    {registration : List MeshStep}
    (hregistration : ∀ step ∈ registration, step.registers = true)
    (rest : List MeshStep) :
    repliesOk (registration ++ rest) = repliesOk rest := by
  have hnone : registration.filterMap MeshStep.replied = [] := by
    rw [List.filterMap_eq_nil_iff]
    intro step hmem
    have hregisters := hregistration step hmem
    cases step with
    | addToCompanion contact | broadcast kind => rfl
    | removeFromCompanion contact | upsertConfig request
    | saveConfig outcome | setTelemetry key telemetry
    | refreshContacts staleCache | reply result => cases hregisters
  unfold repliesOk
  rw [List.filterMap_append, hnone, List.nil_append]

section Status

variable [HexDecoder] (session : HeardSession) (answers : NodeAnswers)
  (publicKeyPrefixHex name : String) (status : RepeaterStatus)

/-- In capitals the repeater is neither listed nor heard. -/
theorem steps_capitalized
    (hletter : capitalizeDigits publicKeyPrefixHex ≠ publicKeyPrefixHex) :
    ∃ reason, session.steps answers (.setRepeaterStatus
      (capitalizeDigits publicKeyPrefixHex) name (some status)) =
        [.reply (.error reason)] := by
  have huncached : ((session.view answers (.setRepeaterStatus
      (capitalizeDigits publicKeyPrefixHex) name
        (some status))).cachedContacts.any fun c =>
          c.publicKeyPrefixHex = capitalizeDigits publicKeyPrefixHex) =
            false := by
    rw [List.any_eq_false]
    intro c hmem
    rcases List.mem_map.mp hmem with ⟨contact, _, rfl⟩
    rw [decide_eq_true_eq]
    exact ne_capitalizeDigits_of_lowercase hletter
      (lowercase_hexEncode contact.prefixBytes)
  have hunheard : findDiscovered session.daemon.discovered
      (capitalizeDigits publicKeyPrefixHex) = none := by
    unfold findDiscovered
    rw [List.find?_eq_none]
    intro node hnode
    rw [decide_eq_true_eq]
    exact ne_capitalizeDigits_of_lowercase hletter
      (session.lowercase_of_heard hnode)
  rcases setRepeaterStatusSteps_of_uncached session.daemon
    (capitalizeDigits publicKeyPrefixHex) name status huncached with
    hrefused | hdeclared
  · exact hrefused.2
  · rcases hdeclared with ⟨request, _, hedit, _⟩
    simp only [statusEdit, huncached, Bool.false_eq_true, if_false, hunheard,
      Option.bind_none, reduceCtorEq] at hedit

/-- The edit goes unnoticed if it cannot be saved, spells at most a key anew
and comes without a registration. -/
theorem caseBlind_edit_iff
    {session answers publicKeyPrefixHex name status}
    {view : CommandView} {registration : List MeshStep}
    {request : RepeaterUpsert} {contacts : List Contact} {reason : String}
    (hsteps : session.steps answers
        (.setRepeaterStatus publicKeyPrefixHex name (some status)) =
      registration ++ upsertManagedRepeaterConfigSteps request answers.save
        (announcedSteps view name (some status)))
    (hcapital : session.steps answers (.setRepeaterStatus
        (capitalizeDigits publicKeyPrefixHex) name (some status)) =
      [.reply (.error reason)])
    (hregistration : ∀ step ∈ registration, step.registers = true)
    (hcontacts : registration.foldl Daemon.afterStep session.daemon =
      { session.daemon with companionContacts := contacts }) :
    CaseBlind session answers
        (.setRepeaterStatus publicKeyPrefixHex name (some status)) ↔
      answers.save ≠ .saved ∧
      AlikeRepeaters
        (upsertManagedRepeater session.daemon.config.managedRepeaters request)
        session.daemon.config.managedRepeaters ∧
      contacts = session.daemon.companionContacts := by
  have hafter : session.after answers (.setRepeaterStatus
      (capitalizeDigits publicKeyPrefixHex) name (some status)) =
        session.daemon := by
    rw [HeardSession.after, hcapital]
    rfl
  cases hsave : answers.save with
  | saved =>
      constructor
      · intro hblind
        have hsucceeded : repliesOk (session.steps answers _) =
          repliesOk (session.steps answers _) := hblind.succeeded
        rw [hsteps, DaemonCommand.capitalized, hcapital, hsave,
          repliesOk_of_registers hregistration] at hsucceeded
        cases hsucceeded
      · intro hquiet
        exact absurd rfl hquiet.1
  | failed failure left =>
      have hedited : session.after answers
          (.setRepeaterStatus publicKeyPrefixHex name (some status)) =
            { session.daemon with
              companionContacts := contacts
              config := session.daemon.config.upsertManagedRepeater request
              configFile := left } := by
        rw [HeardSession.after, hsteps, hsave, List.foldl_append, hcontacts]
        rfl
      constructor
      · intro hblind
        have hconfig := hblind.config.repeaters
        have hcompanion := hblind.companionContacts
        rw [DaemonCommand.capitalized, hafter, hedited] at hconfig hcompanion
        constructor
        · simp
        · exact ⟨hconfig, hcompanion⟩
      · intro hquiet
        have halike : (session.daemon.config.upsertManagedRepeater
            request).Alike session.daemon.config := by
          constructor
          · exact hquiet.2.1
          · rfl
        constructor
        · change repliesOk (session.steps answers _) =
            repliesOk (session.steps answers _)
          rw [hsteps, DaemonCommand.capitalized, hcapital, hsave,
            repliesOk_of_registers hregistration]
          rfl
        · rw [DaemonCommand.capitalized, hafter, hedited]
          exact halike
        · rw [DaemonCommand.capitalized, hafter, hedited]
          exact hquiet.2.2
        · rw [DaemonCommand.capitalized, hafter, hedited, hquiet.2.2]
          unfold HeardSession.nextContacts Daemon.rebuiltContacts
          rw [halike.repeaters.buildSnapshotContacts]

theorem caseBlind_setStatus_iff
    (hletter : capitalizeDigits publicKeyPrefixHex ≠ publicKeyPrefixHex) :
    CaseBlind session answers
        (.setRepeaterStatus publicKeyPrefixHex name (some status)) ↔
      StatusLeavesAll session.daemon
        (session.view answers
          (.setRepeaterStatus publicKeyPrefixHex name (some status)))
        publicKeyPrefixHex name status := by
  rcases steps_capitalized session answers publicKeyPrefixHex name status
    hletter with ⟨reason, hcapital⟩
  have hsave : (session.view answers (.setRepeaterStatus publicKeyPrefixHex
    name (some status))).save = answers.save := rfl
  have hsteps : session.steps answers
      (.setRepeaterStatus publicKeyPrefixHex name (some status)) =
        setRepeaterStatusSteps session.daemon
          (session.view answers
            (.setRepeaterStatus publicKeyPrefixHex name (some status)))
          publicKeyPrefixHex name (some status) := rfl
  generalize session.view answers
    (.setRepeaterStatus publicKeyPrefixHex name (some status)) = view
      at hsave hsteps ⊢
  unfold StatusLeavesAll
  by_cases hcached : (view.cachedContacts.any fun c =>
      c.publicKeyPrefixHex = publicKeyPrefixHex) = true
  · rw [setRepeaterStatusSteps_of_cached _ _ _ hcached, hsave] at hsteps
    rw [@caseBlind_edit_iff _ _ _ _ _ _ view [] _
      session.daemon.companionContacts reason hsteps hcapital
      (List.forall_mem_nil _) rfl]
    simp only [statusEdit, hcached, if_true, Option.mem_def,
      Option.some.injEq, forall_eq', Bool.true_eq_false, false_imp_iff,
      and_true, hsave]
  · rw [Bool.not_eq_true] at hcached
    rcases setRepeaterStatusSteps_of_uncached session.daemon
      publicKeyPrefixHex name status hcached with hrefused | hdeclared
    · rcases hrefused with ⟨hnone, other, hrefused⟩
      rw [hrefused] at hsteps
      have halike : AlikeSteps
          (session.steps answers
            (.setRepeaterStatus publicKeyPrefixHex name (some status)))
          (session.steps answers (.setRepeaterStatus
            (capitalizeDigits publicKeyPrefixHex) name (some status))) := by
        rw [hsteps, hcapital]
        exact .cons (.refused _ _) .nil
      constructor
      · intro _ request hmem
        rw [hnone] at hmem
        cases hmem
      · intro _
        exact caseBlind_of_alikeSteps halike.repliesOk halike
    · rcases hdeclared with ⟨request, publicKey, hedit, hkey, hdeclared⟩
      rw [hdeclared, hsave] at hsteps
      have hregistration : ∀ step ∈ [MeshStep.addToCompanion
          (declaredContact name publicKey),
            .broadcast (.managedRepeaterDeclared name)],
          step.registers = true := by
        simp [MeshStep.registers]
      rw [@caseBlind_edit_iff _ _ _ _ _ _ view _ _ _ reason hsteps hcapital
        hregistration rfl]
      simp only [hedit, Option.mem_def, Option.some.injEq, forall_eq', hcached,
        true_imp_iff, hkey, Except.ok.injEq, hsave]
      rfl

end Status

/-! ## Asking for telemetry -/

theorem map_tierAndTelemetry_build
    (managedRepeaters : List ManagedRepeater) (fetched : List ContactDto)
    (discovered : List DiscoveredNode)
    (before after : String → Option TelemetryDto) :
    (buildSnapshotContacts managedRepeaters fetched discovered after).map
        ContactDto.tierAndTelemetry =
      (buildSnapshotContacts managedRepeaters fetched discovered before).map
        fun c => (c.publicKeyPrefixHex, c.repeaterStatus,
          after c.publicKeyPrefixHex) := by
  unfold buildSnapshotContacts
  simp only [List.map_append, List.map_map]
  rfl

theorem lastTelemetry_of_mem_build
    {managedRepeaters : List ManagedRepeater}
    {fetched : List ContactDto} {discovered : List DiscoveredNode}
    {telemetry : String → Option TelemetryDto} {contact : ContactDto}
    (hmem : contact ∈ buildSnapshotContacts managedRepeaters fetched
      discovered telemetry) :
    contact.lastTelemetry = telemetry contact.publicKeyPrefixHex := by
  unfold buildSnapshotContacts at hmem
  rcases List.mem_append.mp hmem with hcompanion | hdiscovered
  · rcases List.mem_map.mp hcompanion with ⟨c, _, rfl⟩
    rfl
  · rcases List.mem_map.mp hdiscovered with ⟨node, _, rfl⟩
    rfl

/-- A telemetry command leaves the daemon as it was, but for the reading which
it stores under the key it was given. -/
structure StoresReading (before : Daemon) (publicKeyPrefixHex : String)
    (reading : Option TelemetryDto) (after : Daemon) : Prop where
  config : after.config = before.config
  companionContacts : after.companionContacts = before.companionContacts
  discovered : after.discovered = before.discovered
  telemetry : after.telemetry = reading.elim before.telemetry fun telemetry =>
    Function.update before.telemetry publicKeyPrefixHex (some telemetry)

theorem storesReading_telemetrySteps
    (daemon : Daemon) (view : CommandView) (publicKeyPrefixHex : String) :
    StoresReading daemon publicKeyPrefixHex view.telemetry.toOption
      ((telemetrySteps daemon view publicKeyPrefixHex).foldl Daemon.afterStep
        daemon) := by
  unfold telemetrySteps
  cases view.telemetry with
  | error reason => constructor <;> rfl
  | ok telemetry => constructor <;> rfl

theorem repliesOk_telemetrySteps
    (daemon : Daemon) (view : CommandView) (publicKeyPrefixHex : String)
    (rest : List MeshStep) :
    repliesOk (telemetrySteps daemon view publicKeyPrefixHex ++ rest) =
      repliesOk rest := by
  unfold telemetrySteps
  cases view.telemetry with
  | error reason => rfl
  | ok telemetry => rfl

theorem HeardSession.lowercase_of_next
    (session : HeardSession) (answers : NodeAnswers) {contact : ContactDto}
    (hmem : contact ∈ session.nextContacts answers session.daemon) :
    asciiLowercase contact.publicKeyPrefixHex =
      contact.publicKeyPrefixHex.toList := by
  have hfetched : ∀ c ∈ (session.staleCache answers).getD
      (session.daemon.companionContacts.map ContactDto.ofContact),
      asciiLowercase c.publicKeyPrefixHex = c.publicKeyPrefixHex.toList := by
    have hlisted : ∀ contacts : List Contact,
        ∀ c ∈ contacts.map ContactDto.ofContact,
          asciiLowercase c.publicKeyPrefixHex =
            c.publicKeyPrefixHex.toList := by
      intro contacts c hc
      rcases List.mem_map.mp hc with ⟨known, _, rfl⟩
      exact lowercase_hexEncode known.prefixBytes
    unfold HeardSession.staleCache
    cases answers.fetchesContacts with
    | true => exact hlisted session.daemon.companionContacts
    | false => exact hlisted session.cache
  rcases List.mem_append.mp hmem with hcompanion | hdiscovered
  · rcases List.mem_map.mp hcompanion with ⟨c, hc, rfl⟩
    exact hfetched c hc
  · rcases List.mem_map.mp hdiscovered with ⟨node, hnode, rfl⟩
    exact session.lowercase_of_heard (List.mem_filter.mp hnode).1

theorem map_nextContacts_of_storesReading
    (session : HeardSession) (answers : NodeAnswers)
    {publicKeyPrefixHex : String} {reading : Option TelemetryDto}
    {after : Daemon}
    (hstores :
      StoresReading session.daemon publicKeyPrefixHex reading after) :
    (session.nextContacts answers after).map ContactDto.tierAndTelemetry =
      (session.nextContacts answers session.daemon).map fun c =>
        (c.publicKeyPrefixHex, c.repeaterStatus,
          after.telemetry c.publicKeyPrefixHex) := by
  unfold HeardSession.nextContacts Daemon.rebuiltContacts
  rw [hstores.config, hstores.companionContacts, hstores.discovered]
  exact map_tierAndTelemetry_build _ _ _ _ _

/-- The next contacts show the same exactly if the listed contact shows the
reading already: no contact is listed in capitals. -/
theorem nextContacts_of_storesReading_iff
    (session : HeardSession) (answers : NodeAnswers)
    {publicKeyPrefixHex : String} {reading : Option TelemetryDto}
    {first second : Daemon}
    (hletter : capitalizeDigits publicKeyPrefixHex ≠ publicKeyPrefixHex)
    (hfirst : StoresReading session.daemon publicKeyPrefixHex reading first)
    (hsecond : StoresReading session.daemon
      (capitalizeDigits publicKeyPrefixHex) reading second) :
    (session.nextContacts answers first).map ContactDto.tierAndTelemetry =
        (session.nextContacts answers second).map
          ContactDto.tierAndTelemetry ↔
      ∀ telemetry ∈ reading,
        ReadingIsShown (session.nextContacts answers session.daemon)
          publicKeyPrefixHex telemetry := by
  rw [map_nextContacts_of_storesReading session answers hfirst,
    map_nextContacts_of_storesReading session answers hsecond,
    List.map_inj_left]
  cases reading with
  | none =>
      rw [hfirst.telemetry, hsecond.telemetry]
      simp
  | some telemetry =>
      have hcapital : ∀ c ∈ session.nextContacts answers session.daemon,
          c.publicKeyPrefixHex ≠ capitalizeDigits publicKeyPrefixHex := by
        intro c hmem
        exact ne_capitalizeDigits_of_lowercase hletter
          (session.lowercase_of_next answers hmem)
      simp only [Option.mem_def, Option.some.injEq, forall_eq']
      unfold ReadingIsShown
      rw [hfirst.telemetry, hsecond.telemetry]
      simp only [Option.elim_some, Prod.mk.injEq, true_and]
      constructor
      · intro hsame c hmem hkey
        have hread := hsame c hmem
        rw [Function.update_of_ne (hcapital c hmem), hkey,
          Function.update_self] at hread
        rw [lastTelemetry_of_mem_build hmem, hkey, hread]
      · intro hshown c hmem
        rw [Function.update_of_ne (hcapital c hmem)]
        by_cases hkey : c.publicKeyPrefixHex = publicKeyPrefixHex
        · have hlast := hshown c hmem hkey
          rw [lastTelemetry_of_mem_build hmem] at hlast
          rw [hlast, hkey, Function.update_self]
        · rw [Function.update_of_ne hkey]

/-- The refusal of a detail, but for its text, depends on the contact and the
configured password. -/
theorem refusal_eq_none_iff
    (answers : DetailAnswers) (config : Config)
    (publicKeyPrefixHex : String) :
    answers.refusal config publicKeyPrefixHex = none ↔
      isRegisteredContact answers.contacts publicKeyPrefixHex = true ∧
      ∀ password,
        findRepeaterPassword config publicKeyPrefixHex = some password →
          answers.login password = .ok () := by
  unfold DetailAnswers.refusal
  by_cases hregistered :
      isRegisteredContact answers.contacts publicKeyPrefixHex = true
  · rw [if_pos hregistered]
    cases findRepeaterPassword config publicKeyPrefixHex with
    | none => simp [hregistered]
    | some password =>
        cases hlogin : answers.login password with
        | ok done => simp [hregistered, hlogin]
        | error reason => simp [hlogin]
  · rw [if_neg hregistered]
    simp [hregistered]

theorem SameOutcome.unlessRefused
    {Data : Type} {refusal₁ refusal₂ : Option String}
    (hrefusal : refusal₁ = none ↔ refusal₂ = none)
    {first second : Except String Data} (hsame : SameOutcome first second) :
    SameOutcome (MeshController.unlessRefused refusal₁ first)
      (MeshController.unlessRefused refusal₂ second) := by
  cases refusal₁ with
  | none =>
      rw [hrefusal.mp rfl]
      exact hsame
  | some message =>
      cases refusal₂ with
      | none => exact absurd (hrefusal.mpr rfl) (Option.some_ne_none message)
      | some other => exact .error message other

section Requests

variable [HexDecoder] {session : HeardSession} {answers : NodeAnswers}

theorem caseBlind_of_storesReading_iff
    {cmd : DaemonCommand} {publicKeyPrefixHex : String}
    {reading : Option TelemetryDto}
    (hletter : capitalizeDigits publicKeyPrefixHex ≠ publicKeyPrefixHex)
    (hsucceeded : session.succeeded answers cmd =
      session.succeeded answers cmd.capitalized)
    (hfirst : StoresReading session.daemon publicKeyPrefixHex reading
      (session.after answers cmd))
    (hsecond : StoresReading session.daemon
      (capitalizeDigits publicKeyPrefixHex) reading
      (session.after answers cmd.capitalized)) :
    CaseBlind session answers cmd ↔
      ∀ telemetry ∈ reading,
        ReadingIsShown (session.nextContacts answers session.daemon)
          publicKeyPrefixHex telemetry := by
  have hnext := nextContacts_of_storesReading_iff session answers hletter
    hfirst hsecond
  constructor
  · intro hblind
    exact hnext.mp hblind.nextContacts
  · intro hshown
    constructor
    · exact hsucceeded
    · rw [hfirst.config, hsecond.config]
      exact .refl _
    · rw [hfirst.companionContacts, hsecond.companionContacts]
    · exact hnext.mpr hshown

theorem request_sameOutcome
    (hdecodes : DecodesHex) (session : HeardSession) {key₁ key₂ : String}
    (hsame : SameKey key₁ key₂) {Data : Type}
    {first second : Contact → Except String Data}
    (hanswers : ∀ contact, SameOutcome (first contact) (second contact)) :
    SameOutcome (session.request key₁ first)
      (session.request key₂ second) := by
  have hresolved := resolveContact_sameOutcome hdecodes session.cache hsame
  unfold HeardSession.request
  generalize resolveContact session.cache key₁ = one at hresolved ⊢
  generalize resolveContact session.cache key₂ = other at hresolved ⊢
  cases hresolved with
  | error => exact .error _ _
  | ok contact => exact hanswers contact

theorem requestRegionHierarchy_sameOutcome
    (hdecodes : DecodesHex) (session : HeardSession) (answers : NodeAnswers)
    {key₁ key₂ : String} (hsame : SameKey key₁ key₂) :
    SameOutcome (session.requestRegionHierarchy answers key₁)
      (session.requestRegionHierarchy answers key₂) := by
  apply request_sameOutcome hdecodes session hsame
  intro contact
  cases answers.regionReply contact with
  | error reason => exact .error _ _
  | ok reply =>
      cases reply with
      | none => exact .error _ _
      | some text => exact .ok _

theorem login_eq_ok_iff
    (session : HeardSession) (answers : NodeAnswers)
    (publicKeyPrefixHex password : String) :
    session.login answers publicKeyPrefixHex password = .ok () ↔
      ∃ contact,
        resolveContact session.cache publicKeyPrefixHex = .ok contact ∧
        answers.login contact password = .success := by
  unfold HeardSession.login
  cases resolveContact session.cache publicKeyPrefixHex with
  | error reason => simp
  | ok contact =>
      cases hlogin : answers.login contact password <;> simp [hlogin]

theorem resolveContact_eq_ok_congr
    (hdecodes : DecodesHex) (cache : List Contact) {key₁ key₂ : String}
    (hsame : SameKey key₁ key₂) (contact : Contact) :
    resolveContact cache key₁ = .ok contact ↔
      resolveContact cache key₂ = .ok contact := by
  have hresolved := resolveContact_sameOutcome hdecodes cache hsame
  generalize resolveContact cache key₁ = one at hresolved ⊢
  generalize resolveContact cache key₂ = other at hresolved ⊢
  cases hresolved with
  | ok found => rfl
  | error => simp

theorem refusal_congr
    (hdecodes : DecodesHex) (session : HeardSession) (answers : NodeAnswers)
    {key₁ key₂ : String} (hsame : SameKey key₁ key₂) :
    (session.detailAnswers answers key₁).refusal session.daemon.config key₁ =
        none ↔
      (session.detailAnswers answers key₂).refusal session.daemon.config
        key₂ = none := by
  rw [refusal_eq_none_iff, refusal_eq_none_iff,
    findRepeaterPassword_congr session.daemon.config hsame]
  unfold HeardSession.detailAnswers
  simp only [isRegisteredContact_congr _ hsame, login_eq_ok_iff,
    resolveContact_eq_ok_congr hdecodes session.cache hsame]

theorem readingComesIn_congr
    (hdecodes : DecodesHex) (session : HeardSession) (answers : NodeAnswers)
    {key₁ key₂ : String} (hsame : SameKey key₁ key₂)
    (readings : List TelemetryReading) :
    ReadingComesIn session answers key₁ readings ↔
      ReadingComesIn session answers key₂ readings := by
  unfold ReadingComesIn
  simp only [resolveContact_eq_ok_congr hdecodes session.cache hsame,
    findRepeaterPassword_congr session.daemon.config hsame]

theorem acceptedAndRead_iff
    (session : HeardSession) (answers : NodeAnswers)
    (publicKeyPrefixHex : String) (telemetry : TelemetryDto) :
    (∀ password,
        findRepeaterPassword session.daemon.config publicKeyPrefixHex =
          some password →
        session.login answers publicKeyPrefixHex password = .ok ()) ∧
      (session.request publicKeyPrefixHex answers.telemetry).map
        (fun readings => (⟨answers.nowUnix, readings⟩ : TelemetryDto)) =
          .ok telemetry ↔
    ∃ readings,
      ReadingComesIn session answers publicKeyPrefixHex readings ∧
      telemetry = ⟨answers.nowUnix, readings⟩ := by
  simp only [login_eq_ok_iff, ReadingComesIn, HeardSession.request]
  cases resolveContact session.cache publicKeyPrefixHex with
  | error reason => simp [Except.map]
  | ok contact =>
      simp only [Except.ok.injEq, exists_eq_left']
      cases answers.telemetry contact with
      | error reason => simp [Except.map]
      | ok readings =>
          simp only [Except.map, Except.ok.injEq]
          constructor
          · intro hread
            exact ⟨readings, ⟨rfl, hread.1⟩, hread.2.symm⟩
          · intro hcomes
            rcases hcomes with ⟨others, ⟨rfl, haccepted⟩, rfl⟩
            exact ⟨haccepted, rfl⟩

theorem requestTelemetry_eq_ok_iff
    (session : HeardSession) (answers : NodeAnswers)
    (publicKeyPrefixHex : String) (telemetry : TelemetryDto) :
    session.requestTelemetry answers publicKeyPrefixHex = .ok telemetry ↔
      ∃ readings,
        ReadingComesIn session answers publicKeyPrefixHex readings ∧
        telemetry = ⟨answers.nowUnix, readings⟩ := by
  rw [← acceptedAndRead_iff]
  unfold HeardSession.requestTelemetry
  cases findRepeaterPassword session.daemon.config publicKeyPrefixHex with
  | none => simp
  | some password =>
      cases hlogin : session.login answers publicKeyPrefixHex password with
      | error reason => simp [hlogin]
      | ok done => simp [hlogin]

/-- The reading a detail comes to. -/
def HeardSession.detailReading
    (session : HeardSession) (answers : NodeAnswers)
    (publicKeyPrefixHex : String) : Except String TelemetryDto :=
  let detail := session.detailAnswers answers publicKeyPrefixHex
  unlessRefused (detail.refusal session.daemon.config publicKeyPrefixHex)
    (detail.telemetry.map detail.telemetryDto)

/-- A detail asks for a reading only of a registered contact. -/
theorem detailReading_eq_ok_iff
    (session : HeardSession) (answers : NodeAnswers)
    (publicKeyPrefixHex : String) (telemetry : TelemetryDto) :
    session.detailReading answers publicKeyPrefixHex = .ok telemetry ↔
      isRegisteredContact (session.cache.map ContactDto.ofContact)
          publicKeyPrefixHex = true ∧
      ∃ readings,
        ReadingComesIn session answers publicKeyPrefixHex readings ∧
        telemetry = ⟨answers.nowUnix, readings⟩ := by
  have hrefusal := refusal_eq_none_iff
    (session.detailAnswers answers publicKeyPrefixHex) session.daemon.config
    publicKeyPrefixHex
  have hunless : ∀ (refusal : Option String)
      (outcome : Except String TelemetryDto),
      unlessRefused refusal outcome = .ok telemetry ↔
        refusal = none ∧ outcome = .ok telemetry := by
    intro refusal outcome
    cases refusal <;> simp [unlessRefused]
  unfold HeardSession.detailReading
  rw [hunless, hrefusal, and_assoc, ← acceptedAndRead_iff]
  rfl

theorem requestTelemetry_sameOutcome
    (hdecodes : DecodesHex) (session : HeardSession) (answers : NodeAnswers)
    {key₁ key₂ : String} (hsame : SameKey key₁ key₂) :
    SameOutcome (session.requestTelemetry answers key₁)
      (session.requestTelemetry answers key₂) := by
  apply sameOutcome_of_eq_ok_iff
  intro telemetry
  simp only [requestTelemetry_eq_ok_iff,
    readingComesIn_congr hdecodes session answers hsame]

theorem detailReading_sameOutcome
    (hdecodes : DecodesHex) (session : HeardSession) (answers : NodeAnswers)
    {key₁ key₂ : String} (hsame : SameKey key₁ key₂) :
    SameOutcome (session.detailReading answers key₁)
      (session.detailReading answers key₂) := by
  apply sameOutcome_of_eq_ok_iff
  intro telemetry
  simp only [detailReading_eq_ok_iff, isRegisteredContact_congr _ hsame,
    readingComesIn_congr hdecodes session answers hsame]

/-! ## The two telemetry commands -/

theorem storesReading_requestTelemetry
    (session : HeardSession) (answers : NodeAnswers)
    (publicKeyPrefixHex : String) :
    StoresReading session.daemon publicKeyPrefixHex
      (session.requestTelemetry answers publicKeyPrefixHex).toOption
      (session.after answers (.requestTelemetry publicKeyPrefixHex)) := by
  have hsteps := storesReading_telemetrySteps session.daemon
    (session.view answers (.requestTelemetry publicKeyPrefixHex))
    publicKeyPrefixHex
  unfold HeardSession.after HeardSession.steps handleCommandSteps
  rw [List.foldl_append]
  exact hsteps

theorem succeeded_requestTelemetry
    (session : HeardSession) (answers : NodeAnswers)
    (publicKeyPrefixHex : String) :
    session.succeeded answers (.requestTelemetry publicKeyPrefixHex) =
      [(session.requestTelemetry answers publicKeyPrefixHex).isOk] := by
  change repliesOk (telemetrySteps _ _ _ ++ _) = _
  rw [repliesOk_telemetrySteps]
  change [((session.requestTelemetry answers publicKeyPrefixHex).map
    fun _ => ()).isOk] = _
  cases session.requestTelemetry answers publicKeyPrefixHex <;> rfl

theorem storesReading_requestRepeaterDetail
    (session : HeardSession) (answers : NodeAnswers)
    (publicKeyPrefixHex : String) :
    StoresReading session.daemon publicKeyPrefixHex
      (session.detailReading answers publicKeyPrefixHex).toOption
      (session.after answers (.requestRepeaterDetail publicKeyPrefixHex)) := by
  have hsteps : session.steps answers
      (.requestRepeaterDetail publicKeyPrefixHex) = _ :=
    meshSteps_requestRepeaterDetail session.daemon
      (session.view answers (.requestRepeaterDetail publicKeyPrefixHex))
      publicKeyPrefixHex (session.detailAnswers answers publicKeyPrefixHex)
  have hstores := storesReading_telemetrySteps session.daemon
    { session.view answers (.requestRepeaterDetail publicKeyPrefixHex) with
      telemetry := session.detailReading answers publicKeyPrefixHex }
    publicKeyPrefixHex
  rw [HeardSession.after, hsteps]
  exact hstores

theorem succeeded_requestRepeaterDetail_congr
    (hdecodes : DecodesHex) (session : HeardSession) (answers : NodeAnswers)
    {key₁ key₂ : String} (hsame : SameKey key₁ key₂) :
    session.succeeded answers (.requestRepeaterDetail key₁) =
      session.succeeded answers (.requestRepeaterDetail key₂) := by
  have hrefusal := refusal_congr hdecodes session answers hsame
  have hrequest : ∀ {Data : Type} (answer : Contact → Except String Data),
      SameOutcome (session.request key₁ answer)
        (session.request key₂ answer) := by
    intro Data answer
    exact request_sameOutcome hdecodes session hsame fun contact => .refl _
  have hregions :=
    requestRegionHierarchy_sameOutcome hdecodes session answers hsame
  have hstatus := ((hrequest answers.status).unlessRefused hrefusal).isOk
  have hreading :=
    (detailReading_sameOutcome hdecodes session answers hsame).isOk
  have hneighbours :=
    ((hrequest answers.neighbours).unlessRefused hrefusal).isOk
  have hhierarchy := (hregions.unlessRefused hrefusal).isOk
  unfold HeardSession.succeeded HeardSession.detailActions
  simp only [sent_requestRepeaterDetail, streamedCategories, List.map_cons,
    List.map_nil, RepeaterDetailCategory.isOk, List.cons.injEq, and_true]
  exact ⟨hstatus, hreading, hneighbours, hhierarchy⟩

theorem caseBlind_requestTelemetry_iff
    (hdecodes : DecodesHex) (session : HeardSession) (answers : NodeAnswers)
    {publicKeyPrefixHex : String}
    (hletter : capitalizeDigits publicKeyPrefixHex ≠ publicKeyPrefixHex) :
    CaseBlind session answers (.requestTelemetry publicKeyPrefixHex) ↔
      ∀ readings,
        ReadingComesIn session answers publicKeyPrefixHex readings →
        ReadingIsShown (session.nextContacts answers session.daemon)
          publicKeyPrefixHex ⟨answers.nowUnix, readings⟩ := by
  have hsame := requestTelemetry_sameOutcome hdecodes session answers
    (sameKey_capitalizeDigits publicKeyPrefixHex).symm
  have hsucceeded : session.succeeded answers
      (.requestTelemetry publicKeyPrefixHex) =
        session.succeeded answers
          (.requestTelemetry (capitalizeDigits publicKeyPrefixHex)) := by
    rw [succeeded_requestTelemetry, succeeded_requestTelemetry, hsame.isOk]
  have hfirst :=
    storesReading_requestTelemetry session answers publicKeyPrefixHex
  have hsecond := storesReading_requestTelemetry session answers
    (capitalizeDigits publicKeyPrefixHex)
  rw [← hsame.toOption] at hsecond
  rw [caseBlind_of_storesReading_iff hletter hsucceeded hfirst hsecond]
  simp only [mem_toOption_iff, requestTelemetry_eq_ok_iff]
  constructor
  · intro hshown readings hcomes
    exact hshown _ ⟨readings, hcomes, rfl⟩
  · intro hshown telemetry hread
    rcases hread with ⟨readings, hcomes, rfl⟩
    exact hshown readings hcomes

theorem caseBlind_requestRepeaterDetail_iff
    (hdecodes : DecodesHex) (session : HeardSession) (answers : NodeAnswers)
    {publicKeyPrefixHex : String}
    (hletter : capitalizeDigits publicKeyPrefixHex ≠ publicKeyPrefixHex) :
    CaseBlind session answers (.requestRepeaterDetail publicKeyPrefixHex) ↔
      (isRegisteredContact (session.cache.map ContactDto.ofContact)
          publicKeyPrefixHex = true →
        ∀ readings,
          ReadingComesIn session answers publicKeyPrefixHex readings →
          ReadingIsShown (session.nextContacts answers session.daemon)
            publicKeyPrefixHex ⟨answers.nowUnix, readings⟩) := by
  have hkeys := (sameKey_capitalizeDigits publicKeyPrefixHex).symm
  have hsame := detailReading_sameOutcome hdecodes session answers hkeys
  have hfirst :=
    storesReading_requestRepeaterDetail session answers publicKeyPrefixHex
  have hsecond := storesReading_requestRepeaterDetail session answers
    (capitalizeDigits publicKeyPrefixHex)
  rw [← hsame.toOption] at hsecond
  rw [caseBlind_of_storesReading_iff hletter
    (succeeded_requestRepeaterDetail_congr hdecodes session answers hkeys)
    hfirst hsecond]
  simp only [mem_toOption_iff, detailReading_eq_ok_iff]
  constructor
  · intro hshown hregistered readings hcomes
    exact hshown _ ⟨hregistered, readings, hcomes, rfl⟩
  · intro hshown telemetry hread
    rcases hread with ⟨hregistered, readings, hcomes, rfl⟩
    exact hshown hregistered readings hcomes

/-! ## The theorem -/

theorem caseBlind_iff_noSmallLetter_or
    {session : HeardSession} {answers : NodeAnswers} {cmd : DaemonCommand}
    {key : String} {safe : Prop}
    (hcapitalized : capitalizeDigits key = key → cmd.capitalized = cmd)
    (hletter : capitalizeDigits key ≠ key →
      (CaseBlind session answers cmd ↔ safe)) :
    CaseBlind session answers cmd ↔ capitalizeDigits key = key ∨ safe := by
  by_cases hkey : capitalizeDigits key = key
  · exact iff_of_true (caseBlind_of_capitalized_eq (hcapitalized hkey))
      (Or.inl hkey)
  · rw [hletter hkey]
    exact (or_iff_right hkey).symm

/-- The letter case of the key makes no difference exactly where it is not
compared letter for letter: in a command which decodes the key or looks it up
ignoring case, or which comes to nothing that would show. -/
theorem caseBlind_iff
    (hdecodes : DecodesHex) (session : HeardSession) (answers : NodeAnswers)
    (cmd : DaemonCommand) :
    CaseBlind session answers cmd ↔ CaseSafe session answers cmd := by
  cases cmd with
  | removeContact publicKeyPrefixHex =>
      exact iff_of_true (caseBlind_removeContact hdecodes session answers _)
        trivial
  | addRepeater publicKeyHex name managed =>
      exact iff_of_true
        (caseBlind_addRepeater hdecodes session answers _ name managed) trivial
  | refreshNodeStats | signData data | resyncObserverConfig =>
      exact iff_of_true (caseBlind_of_capitalized_eq rfl) trivial
  | setRepeaterStatus publicKeyPrefixHex name status =>
      cases status with
      | none =>
          exact iff_of_true (caseBlind_clearStatus session answers _ name)
            trivial
      | some status =>
          apply caseBlind_iff_noSmallLetter_or
          · intro hkey
            rw [DaemonCommand.capitalized, hkey]
          · exact caseBlind_setStatus_iff session answers _ name status
  | requestTelemetry publicKeyPrefixHex =>
      apply caseBlind_iff_noSmallLetter_or
      · intro hkey
        rw [DaemonCommand.capitalized, hkey]
      · exact caseBlind_requestTelemetry_iff hdecodes session answers
  | requestRepeaterDetail publicKeyPrefixHex =>
      apply caseBlind_iff_noSmallLetter_or
      · intro hkey
        rw [DaemonCommand.capitalized, hkey]
      · exact caseBlind_requestRepeaterDetail_iff hdecodes session answers

end Requests

attribute [local instance] plainDecoder

/-- The hilltop repeater is a contact, and nothing was overheard. -/
def HeardSession.hilltop : HeardSession where
  toSession := Session.hilltop
  heard := by
    intro node hmem
    cases hmem

/-- Everything works, and every contact answers with an empty reading. -/
def NodeAnswers.working : NodeAnswers where
  removal := .ok ()
  declaration := .ok ()
  login _ _ := .success
  status _ := .error "timed out"
  telemetry _ := .ok []
  neighbours _ := .error "timed out"
  regionReply _ := .ok none
  nowUnix := 7
  telemetrySummary := ""
  save := .saved
  fetchesContacts := true
  corrections := []

/-- A reading which was asked for in capitals is not shown. -/
theorem caseBlind_iff_hilltop :
    ¬ CaseBlind .hilltop .working (.requestTelemetry "abababababab") := by
  rw [caseBlind_iff decodesHex_plainDecoder]
  intro hsafe
  rcases hsafe with hsame | hshown
  · exact absurd hsame (by decide)
  · have hcomes : ReadingComesIn .hilltop .working "abababababab" [] := by
      use MeshController.hilltop
      constructor
      · rfl
      · exact ⟨rfl, fun password hpassword => by cases hpassword⟩
    have hlast := hshown [] hcomes
      (annotateContact [] (fun _ => none) (.ofContact MeshController.hilltop))
      List.mem_cons_self (by decide)
    cases hlast

/-- A status is set under the key in small letters and refused for the same
key in capitals. -/
theorem status_refused_in_capitals :
    ¬ ∀ (decoder : HexDecoder), @DecodesHex decoder →
      ∀ (session : HeardSession) (answers : NodeAnswers)
        (cmd : DaemonCommand), @CaseBlind decoder session answers cmd := by
  intro hclaim
  have hblind := hclaim plainDecoder decodesHex_plainDecoder .hilltop .working
    (.setRepeaterStatus "abababababab" "hilltop" (some .supervised))
  have hsucceeded := hblind.succeeded
  have hsmall : HeardSession.hilltop.succeeded .working
      (.setRepeaterStatus "abababababab" "hilltop" (some .supervised)) =
        [true] := by rfl
  have hcapitals : HeardSession.hilltop.succeeded .working
      (DaemonCommand.setRepeaterStatus "abababababab" "hilltop"
        (some .supervised)).capitalized = [false] := by rfl
  rw [hsmall, hcapitals] at hsucceeded
  cases hsucceeded

end MeshController
