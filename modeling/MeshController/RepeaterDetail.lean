import MeshController.BoundedChannel
import MeshController.MeshCommands
import MeshController.RegionReplies

/-!
# The detail of a repeater

One command fetches four categories of a repeater and streams each to the
client as soon as its outcome is known.  The client folds them into a detail,
in which an error is a line that begins with its category, and the popup finds
the error of a category by that beginning.  The handler, the channel between
them and the popup are three parts which have to agree.
-/

namespace MeshController

structure StatusDto where
  fetchedAtUnix : ℤ
  batteryMv : UInt16
  txQueueLen : UInt16
  noiseFloor : Int16
  lastRssi : Int16
  lastSnr : ℚ
  packetsReceived : UInt32
  packetsSent : UInt32
  duplicatePackets : UInt32
  airtimeSecs : UInt32
  rxAirtimeSecs : UInt32
  uptimeSecs : UInt32
  floodSent : UInt32
  directSent : UInt32
deriving DecidableEq

structure NeighbourDto where
  publicKeyPrefixHex : String
  secsAgo : Int32
  snr : ℚ
deriving DecidableEq

structure NeighboursDto where
  fetchedAtUnix : ℤ
  total : UInt16
  neighbours : List NeighbourDto
deriving DecidableEq

/-- The outcome of one category, as it is streamed to the client. -/
inductive RepeaterDetailCategory where
  | status (outcome : Except String StatusDto)
  | telemetry (outcome : Except String TelemetryDto)
  | neighbours (outcome : Except String NeighboursDto)
  | regions (outcome : Except String RegionHierarchyDto)

/-- What the client has folded of the updates so far. -/
structure RepeaterDetailDto where
  status : Option StatusDto
  telemetry : Option TelemetryDto
  neighbours : Option NeighboursDto
  regions : Option RegionHierarchyDto
  errors : List String

def RepeaterDetailDto.fresh : RepeaterDetailDto where
  status := none
  telemetry := none
  neighbours := none
  regions := none
  errors := []

/-- An error of a category, as the detail keeps it. -/
def categoryError (category err : String) : String :=
  category ++ ": " ++ err

def RepeaterDetailDto.applyCategory (detail : RepeaterDetailDto) :
    RepeaterDetailCategory → RepeaterDetailDto
  | .status (.ok status) => { detail with status := some status }
  | .status (.error err) =>
      { detail with errors := detail.errors ++ [categoryError "status" err] }
  | .telemetry (.ok telemetry) => { detail with telemetry := some telemetry }
  | .telemetry (.error err) =>
      { detail with errors := detail.errors ++ [categoryError "telemetry" err] }
  | .neighbours (.ok neighbours) =>
      { detail with neighbours := some neighbours }
  | .neighbours (.error err) =>
      { detail with
        errors := detail.errors ++ [categoryError "neighbours" err] }
  | .regions (.ok regions) => { detail with regions := some regions }
  | .regions (.error err) =>
      { detail with errors := detail.errors ++ [categoryError "regions" err] }

/-! ## The popup -/

def startsWith (text beginning : String) : Bool :=
  beginning.toList.isPrefixOf text.toList

def categoryPending
    (detail : RepeaterDetailDto) (present : Bool) (category : String) : Bool :=
  !present && !detail.errors.any fun e => startsWith e category

def errorLineFor (detail : RepeaterDetailDto) (category : String) : String :=
  "  " ++ (detail.errors.find? fun e => startsWith e category).getD
    (category ++ ": failed")

/-! ## The handler -/

/-- The answers the handler gets: the contacts the companion has cached, and
the outcomes of its RPCs. -/
structure DetailAnswers where
  contacts : List ContactDto
  login : String → Except String Unit
  nowUnix : ℤ
  status : Except String StatusDto
  telemetry : Except String (List TelemetryReading)
  neighbours : Except String NeighboursDto
  regions : Except String RegionHierarchyDto

/-- What the handler does, in its order. -/
inductive DetailAction where
  | login (password : String) (outcome : Except String Unit)
  | requestStatus
  | requestTelemetry
  | finalizeTelemetrySuccess (telemetry : TelemetryDto)
  | requestNeighbours
  | requestRegionHierarchy
  | send (category : RepeaterDetailCategory)
  | logout

def isRegisteredContact
    (contacts : List ContactDto) (publicKeyPrefixHex : String) : Bool :=
  contacts.any fun c =>
    equalIgnoringCase c.publicKeyPrefixHex publicKeyPrefixHex

/-- The password of the first entry which matches. -/
def findRepeaterPassword
    (config : Config) (publicKeyPrefixHex : String) : Option String :=
  (config.managedRepeaters.find? fun r =>
    r.matches publicKeyPrefixHex).bind fun r => r.password

def defaultGuestPassword : String := ""

def notRegisteredMessage : String :=
  "not registered as a contact on this node (only overheard on the mesh so " ++
    "far) -- press 'm' to register and manage it first"

def loginFailedMessage (err : String) : String :=
  "login failed: " ++ err

/-- One message for all four categories. -/
def sendFailure (message : String) : List DetailAction :=
  [.send (.status (.error message)),
    .send (.telemetry (.error message)),
    .send (.neighbours (.error message)),
    .send (.regions (.error message))]

namespace DetailAnswers

variable (answers : DetailAnswers)

def telemetryDto (readings : List TelemetryReading) : TelemetryDto where
  fetchedAtUnix := answers.nowUnix
  readings := readings

def fetchTelemetry : List DetailAction :=
  .requestTelemetry ::
    match answers.telemetry with
    | .ok readings =>
        [.finalizeTelemetrySuccess (answers.telemetryDto readings),
          .send (.telemetry (.ok (answers.telemetryDto readings)))]
    | .error err => [.send (.telemetry (.error err))]

def fetchCategories : List DetailAction :=
  [.requestStatus, .send (.status answers.status)] ++
    answers.fetchTelemetry ++
    [.requestNeighbours, .send (.neighbours answers.neighbours),
      .requestRegionHierarchy, .send (.regions answers.regions)]

def afterLogin (loggedIn : Bool) : List DetailAction :=
  answers.fetchCategories ++ if loggedIn then [.logout] else []

end DetailAnswers

def requestRepeaterDetail
    (config : Config) (publicKeyPrefixHex : String) (answers : DetailAnswers) :
    List DetailAction :=
  if isRegisteredContact answers.contacts publicKeyPrefixHex then
    match findRepeaterPassword config publicKeyPrefixHex with
    | some password =>
        match answers.login password with
        | .ok () => .login password (.ok ()) :: answers.afterLogin true
        | .error err =>
            .login password (.error err) :: sendFailure (loginFailedMessage err)
    | none =>
        .login defaultGuestPassword (answers.login defaultGuestPassword) ::
          answers.afterLogin (answers.login defaultGuestPassword).isOk
  else sendFailure notRegisteredMessage

/-- The updates among what the handler does. -/
def DetailAction.sent? : DetailAction → Option RepeaterDetailCategory
  | .send category => some category
  | _ => none

def sentCategories (actions : List DetailAction) :
    List RepeaterDetailCategory :=
  actions.filterMap DetailAction.sent?

/-! ## What is sent -/

/-- The reason for which no category is requested, if there is one. -/
def DetailAnswers.refusal
    (answers : DetailAnswers) (config : Config) (publicKeyPrefixHex : String) :
    Option String :=
  if isRegisteredContact answers.contacts publicKeyPrefixHex then
    (findRepeaterPassword config publicKeyPrefixHex).bind fun password =>
      match answers.login password with
      | .ok () => none
      | .error err => some (loginFailedMessage err)
  else some notRegisteredMessage

/-- The outcome of a category is what its request gave, unless none is made. -/
def unlessRefused {Data : Type*}
    (refusal : Option String) (outcome : Except String Data) :
    Except String Data :=
  match refusal with
  | some message => .error message
  | none => outcome

/-- One update for each category, in their order. -/
def streamedCategories
    (answers : DetailAnswers) (refusal : Option String) :
    List RepeaterDetailCategory :=
  [.status (unlessRefused refusal answers.status),
    .telemetry
      (unlessRefused refusal (answers.telemetry.map answers.telemetryDto)),
    .neighbours (unlessRefused refusal answers.neighbours),
    .regions (unlessRefused refusal answers.regions)]

theorem sent_sendFailure (answers : DetailAnswers) (message : String) :
    sentCategories (sendFailure message) =
      streamedCategories answers (some message) := rfl

theorem sent_afterLogin (answers : DetailAnswers) (loggedIn : Bool) :
    sentCategories (answers.afterLogin loggedIn) =
      streamedCategories answers none := by
  unfold DetailAnswers.afterLogin DetailAnswers.fetchCategories
    DetailAnswers.fetchTelemetry
  cases hreadings : answers.telemetry with
  | ok readings =>
      simp only [streamedCategories, unlessRefused, Except.map, hreadings]
      cases loggedIn <;> rfl
  | error err =>
      simp only [streamedCategories, unlessRefused, Except.map, hreadings]
      cases loggedIn <;> rfl

theorem sent_requestRepeaterDetail
    (config : Config) (publicKeyPrefixHex : String) (answers : DetailAnswers) :
    sentCategories (requestRepeaterDetail config publicKeyPrefixHex answers) =
      streamedCategories answers
        (answers.refusal config publicKeyPrefixHex) := by
  have hlogin : ∀ password outcome rest,
      sentCategories (.login password outcome :: rest) =
        sentCategories rest := by
    intro password outcome rest
    rfl
  unfold requestRepeaterDetail DetailAnswers.refusal
  by_cases hregistered :
      isRegisteredContact answers.contacts publicKeyPrefixHex = true
  · rw [if_pos hregistered, if_pos hregistered]
    cases findRepeaterPassword config publicKeyPrefixHex with
    | none =>
        simp only [Option.bind_none]
        rw [hlogin, sent_afterLogin]
    | some password =>
        simp only [Option.bind_some]
        cases answers.login password with
        | ok done =>
            simp only
            rw [hlogin, sent_afterLogin]
        | error err =>
            simp only
            rw [hlogin, sent_sendFailure answers]
  · rw [if_neg hregistered, if_neg hregistered]
    exact sent_sendFailure answers notRegisteredMessage

/-- A reading which came in is shared with everybody. -/
def DetailAction.meshSteps
    (daemon : Daemon) (view : CommandView) (publicKeyPrefixHex : String) :
    DetailAction → List MeshStep
  | .finalizeTelemetrySuccess telemetry =>
      telemetrySteps daemon { view with telemetry := .ok telemetry }
        publicKeyPrefixHex
  | _ => []

/-- Besides its updates, the command has the steps of a telemetry command. -/
theorem meshSteps_requestRepeaterDetail
    (daemon : Daemon) (view : CommandView) (publicKeyPrefixHex : String)
    (answers : DetailAnswers) :
    (requestRepeaterDetail daemon.config publicKeyPrefixHex answers).flatMap
        (DetailAction.meshSteps daemon view publicKeyPrefixHex) =
      telemetrySteps daemon
        { view with
          telemetry :=
            unlessRefused (answers.refusal daemon.config publicKeyPrefixHex)
              (answers.telemetry.map answers.telemetryDto) }
        publicKeyPrefixHex := by
  have hafter : ∀ loggedIn, (answers.afterLogin loggedIn).flatMap
      (DetailAction.meshSteps daemon view publicKeyPrefixHex) =
        telemetrySteps daemon
          { view with
            telemetry := answers.telemetry.map answers.telemetryDto }
          publicKeyPrefixHex := by
    intro loggedIn
    unfold DetailAnswers.afterLogin DetailAnswers.fetchCategories
      DetailAnswers.fetchTelemetry
    cases answers.telemetry with
    | ok readings => cases loggedIn <;> rfl
    | error err => cases loggedIn <;> rfl
  unfold requestRepeaterDetail DetailAnswers.refusal
  by_cases hregistered :
      isRegisteredContact answers.contacts publicKeyPrefixHex = true
  · rw [if_pos hregistered, if_pos hregistered]
    cases findRepeaterPassword daemon.config publicKeyPrefixHex with
    | none => exact hafter _
    | some password =>
        simp only [Option.bind_some]
        cases answers.login password with
        | ok done => exact hafter true
        | error err => rfl
  · rw [if_neg hregistered, if_neg hregistered]
    rfl

/-! ## The login and the logout -/

def DetailAction.isLogout : DetailAction → Bool
  | .logout => true
  | _ => false

def DetailAction.isLogin : DetailAction → Bool
  | .login _ (.ok _) => true
  | _ => false

/-- There is a successful login exactly if there is a logout, at most one of
either, and the logout is the last thing done. -/
structure LogsOutAfterLogin (actions : List DetailAction) : Prop where
  countP_eq : actions.countP DetailAction.isLogout =
    actions.countP DetailAction.isLogin
  atMostOne : actions.countP DetailAction.isLogin ≤ 1
  last : ∀ action ∈ actions.dropLast, action.isLogout = false

theorem DetailAnswers.not_login_of_mem
    {answers : DetailAnswers} {action : DetailAction}
    (hmem : action ∈ answers.fetchCategories) :
    action.isLogout = false ∧ action.isLogin = false := by
  have htelemetry : ∀ other ∈ answers.fetchTelemetry,
      other.isLogout = false ∧ other.isLogin = false := by
    unfold fetchTelemetry
    cases answers.telemetry with
    | ok readings => simp [DetailAction.isLogout, DetailAction.isLogin]
    | error err => simp [DetailAction.isLogout, DetailAction.isLogin]
  unfold fetchCategories at hmem
  rcases List.mem_append.mp hmem with hbefore | hafter
  · rcases List.mem_append.mp hbefore with hstatus | hreadings
    · simp only [List.mem_cons, List.not_mem_nil, or_false] at hstatus
      rcases hstatus with rfl | rfl <;> exact ⟨rfl, rfl⟩
    · exact htelemetry action hreadings
  · simp only [List.mem_cons, List.not_mem_nil, or_false] at hafter
    rcases hafter with rfl | rfl | rfl | rfl <;> exact ⟨rfl, rfl⟩

/-- The requests stand between a login and the logout which answers it. -/
theorem logsOut_afterLogin
    (answers : DetailAnswers) (password : String)
    (outcome : Except String Unit) :
    LogsOutAfterLogin
      (.login password outcome :: answers.afterLogin outcome.isOk) := by
  have hlogouts : answers.fetchCategories.countP DetailAction.isLogout = 0 := by
    rw [List.countP_eq_zero]
    intro action hmem
    rw [(DetailAnswers.not_login_of_mem hmem).1]
    exact Bool.false_ne_true
  have hlogins : answers.fetchCategories.countP DetailAction.isLogin = 0 := by
    rw [List.countP_eq_zero]
    intro action hmem
    rw [(DetailAnswers.not_login_of_mem hmem).2]
    exact Bool.false_ne_true
  have hhead : (DetailAction.login password outcome).isLogout = false := by
    rfl
  unfold DetailAnswers.afterLogin
  cases outcome with
  | ok done =>
      have hok : (DetailAction.login password (.ok done)).isLogin = true := rfl
      have hlast : DetailAction.logout.isLogin = false := rfl
      constructor
      · simp [hlogouts, hlogins, hok, hlast, Except.isOk, Except.toBool,
          DetailAction.isLogout]
      · simp [hlogins, hok, hlast, Except.isOk, Except.toBool]
      · intro action hmem
        simp only [Except.isOk, Except.toBool, if_true, ← List.cons_append,
          List.dropLast_concat, List.mem_cons] at hmem
        rcases hmem with rfl | hfetch
        · exact hhead
        · exact (DetailAnswers.not_login_of_mem hfetch).1
  | error err =>
      have hfailed :
          (DetailAction.login password (.error err)).isLogin = false := rfl
      constructor
      · simp [hlogouts, hlogins, hfailed, hhead, Except.isOk, Except.toBool]
      · simp [hlogins, hfailed, Except.isOk, Except.toBool]
      · intro action hmem
        have hwhole := List.mem_of_mem_dropLast hmem
        simp only [Except.isOk, Except.toBool, Bool.false_eq_true, if_false,
          List.append_nil, List.mem_cons] at hwhole
        rcases hwhole with rfl | hfetch
        · exact hhead
        · exact (DetailAnswers.not_login_of_mem hfetch).1

theorem logsOut_requestRepeaterDetail
    (config : Config) (publicKeyPrefixHex : String) (answers : DetailAnswers) :
    LogsOutAfterLogin
      (requestRepeaterDetail config publicKeyPrefixHex answers) := by
  have hfailure : ∀ message, LogsOutAfterLogin (sendFailure message) := by
    intro message
    constructor <;>
      simp [sendFailure, DetailAction.isLogout, DetailAction.isLogin]
  unfold requestRepeaterDetail
  by_cases hregistered :
      isRegisteredContact answers.contacts publicKeyPrefixHex = true
  · rw [if_pos hregistered]
    cases findRepeaterPassword config publicKeyPrefixHex with
    | none => exact logsOut_afterLogin answers _ _
    | some password =>
        simp only
        cases answers.login password with
        | ok done => exact logsOut_afterLogin answers password (.ok done)
        | error err =>
            constructor <;>
              simp [sendFailure, DetailAction.isLogout, DetailAction.isLogin]
  · rw [if_neg hregistered]
    exact hfailure notRegisteredMessage

/-! ## The channel -/

def updatesCapacity : ℕ := 4

/-- What happens to the updates channel: the handler hands over an update, the
client takes one if there is one, or goes away. -/
inductive UpdatesEvent where
  | send (category : RepeaterDetailCategory)
  | recv
  | close

def UpdatesEvent.sent? : UpdatesEvent → Option RepeaterDetailCategory
  | .send category => some category
  | _ => none

/-- `none` once the client is gone: a send then fails at once. -/
abbrev UpdatesChannel :=
  Option (BoundedChannel RepeaterDetailCategory updatesCapacity)

def UpdatesChannel.afterEvent (updates : UpdatesChannel) :
    UpdatesEvent → UpdatesChannel
  | .send category => updates.map fun channel => channel.send category
  | .recv => updates.map fun channel =>
      (channel.receive.map fun taken => taken.2).getD channel
  | .close => none

/-- A send waits for room. -/
def UpdatesChannel.Blocked (updates : UpdatesChannel) : Prop :=
  ∃ channel, updates = some channel ∧ channel.waiting ≠ []

def UpdatesChannel.occupied (updates : UpdatesChannel) : ℕ :=
  (updates.map fun channel => channel.occupied).getD 0

namespace UpdatesChannel

theorem occupied_afterEvent_le
    (updates : UpdatesChannel) (event : UpdatesEvent) :
    (updates.afterEvent event).occupied ≤
      updates.occupied + event.sent?.toList.length := by
  cases updates with
  | none => cases event <;> exact Nat.zero_le _
  | some channel =>
      cases event with
      | send category => exact (channel.occupied_send category).le
      | close => exact Nat.zero_le _
      | recv =>
          cases hreceive : channel.receive with
          | none => simp [afterEvent, hreceive]
          | some taken =>
              have hone := BoundedChannel.occupied_of_receive hreceive
              simp only [afterEvent, occupied, Option.map_some, hreceive,
                Option.getD_some]
              omega

theorem occupied_run_le
    (updates : UpdatesChannel) (events : List UpdatesEvent) :
    (events.foldl afterEvent updates).occupied ≤
      updates.occupied + (events.filterMap UpdatesEvent.sent?).length := by
  induction events generalizing updates with
  | nil => simp
  | cons event rest ih =>
      have hstep := updates.occupied_afterEvent_le event
      have hrest := ih (updates.afterEvent event)
      have hlength : ((event :: rest).filterMap UpdatesEvent.sent?).length =
          event.sent?.toList.length +
            (rest.filterMap UpdatesEvent.sent?).length := by
        cases hsent : event.sent? with
        | none => simp [hsent]
        | some category =>
            simp only [List.filterMap_cons, hsent, List.length_cons,
              Option.toList_some, List.length_nil]
            omega
      rw [List.foldl_cons, hlength]
      omega

/-- The updates are handed over without waiting at any moment, whatever the
client does meanwhile. -/
def NeverBlocks (categories : List RepeaterDetailCategory) : Prop :=
  ∀ events, events.filterMap UpdatesEvent.sent? = categories →
    ∀ reached, reached <+: events →
      ¬ Blocked (reached.foldl afterEvent (some (.empty _ _)))

theorem neverBlocks_of_length_le
    {categories : List RepeaterDetailCategory}
    (hfits : categories.length ≤ updatesCapacity) :
    NeverBlocks categories := by
  intro events hevents reached hreached hblocked
  rcases hblocked with ⟨channel, hchannel, hwaiting⟩
  apply hwaiting
  rw [channel.waiting_eq_nil_iff]
  have hrun := occupied_run_le (some (.empty _ _)) reached
  have hsent := (hreached.filterMap UpdatesEvent.sent?).length_le
  rw [hevents] at hsent
  rw [hchannel] at hrun
  simp only [occupied, Option.map_some, Option.getD_some,
    BoundedChannel.occupied_empty] at hrun
  omega

end UpdatesChannel

/-! ## What the popup shows -/

/-- The popup shows the outcome of a category. -/
structure Resolved {Data : Type*} (detail : RepeaterDetailDto)
    (data : Option Data) (category : String) (outcome : Except String Data) :
    Prop where
  notPending : categoryPending detail data.isSome category = false
  fetched : ∀ value, outcome = .ok value → data = some value
  failed : ∀ err, outcome = .error err →
    data = none ∧
      errorLineFor detail category = "  " ++ categoryError category err

/-- The line an outcome adds to the errors. -/
def errorsOf {Data : Type*}
    (category : String) : Except String Data → List String
  | .ok _ => []
  | .error err => [categoryError category err]

theorem startsWith_categoryError (category err : String) :
    startsWith (categoryError category err) category = true := by
  simp [startsWith, categoryError, List.append_assoc]

/-- The first letter tells the categories apart, whatever the errors say. -/
theorem not_startsWith_of_head_ne
    {category other : String} {c d : Char}
    (hcategory : category.toList.head? = some c)
    (hother : other.toList.head? = some d) (hne : c ≠ d)
    {Data : Type*} (outcome : Except String Data) :
    ∀ line ∈ errorsOf other outcome, startsWith line category = false := by
  cases outcome with
  | ok value => simp [errorsOf]
  | error err =>
      rcases List.head?_eq_some_iff.mp hcategory with ⟨rest, hrest⟩
      rcases List.head?_eq_some_iff.mp hother with ⟨others, hothers⟩
      simp [errorsOf, startsWith, categoryError, hrest, hothers,
        List.isPrefixOf, hne]

theorem resolved_of_errors
    {Data : Type*} {detail : RepeaterDetailDto} {category : String}
    {outcome : Except String Data} {before after : List String}
    (herrors : detail.errors = before ++ errorsOf category outcome ++ after)
    (hbefore : ∀ line ∈ before, startsWith line category = false) :
    Resolved detail outcome.toOption category outcome := by
  cases outcome with
  | ok value =>
      constructor
      · simp [categoryPending, Except.toOption]
      · intro other hother
        rw [Except.ok.injEq] at hother
        rw [hother]
        rfl
      · intro err herr
        cases herr
  | error err =>
      have hown := startsWith_categoryError category err
      constructor
      · simp [categoryPending, herrors, errorsOf, hown]
      · intro value hvalue
        cases hvalue
      · intro other hother
        rw [Except.error.injEq] at hother
        subst hother
        have hfind : before.find? (fun e => startsWith e category) = none := by
          rw [List.find?_eq_none]
          intro line hmem
          simp [hbefore line hmem]
        constructor
        · rfl
        · simp [errorLineFor, herrors, errorsOf, hfind, hown]

/-! ## The whole of it -/

theorem foldl_applyCategory
    (status : Except String StatusDto) (telemetry : Except String TelemetryDto)
    (neighbours : Except String NeighboursDto)
    (regions : Except String RegionHierarchyDto) :
    [.status status, .telemetry telemetry, .neighbours neighbours,
        .regions regions].foldl RepeaterDetailDto.applyCategory .fresh =
      { status := status.toOption
        telemetry := telemetry.toOption
        neighbours := neighbours.toOption
        regions := regions.toOption
        errors := errorsOf "status" status ++ errorsOf "telemetry" telemetry ++
          errorsOf "neighbours" neighbours ++ errorsOf "regions" regions } := by
  cases status <;> cases telemetry <;> cases neighbours <;> cases regions <;>
    rfl

/-- No category shows the error of another one. -/
theorem resolved_foldl_applyCategory
    (status : Except String StatusDto) (telemetry : Except String TelemetryDto)
    (neighbours : Except String NeighboursDto)
    (regions : Except String RegionHierarchyDto)
    {detail : RepeaterDetailDto}
    (hdetail : [.status status, .telemetry telemetry, .neighbours neighbours,
      .regions regions].foldl RepeaterDetailDto.applyCategory .fresh = detail) :
    Resolved detail detail.status "status" status ∧
      Resolved detail detail.telemetry "telemetry" telemetry ∧
      Resolved detail detail.neighbours "neighbours" neighbours ∧
      Resolved detail detail.regions "regions" regions := by
  rw [foldl_applyCategory] at hdetail
  subst hdetail
  have hs : "status".toList.head? = some 's' := by simp
  have ht : "telemetry".toList.head? = some 't' := by simp
  have hn : "neighbours".toList.head? = some 'n' := by simp
  have hr : "regions".toList.head? = some 'r' := by simp
  constructor
  · have herrors : errorsOf "status" status ++
        errorsOf "telemetry" telemetry ++ errorsOf "neighbours" neighbours ++
          errorsOf "regions" regions =
        [] ++ errorsOf "status" status ++ (errorsOf "telemetry" telemetry ++
          errorsOf "neighbours" neighbours ++ errorsOf "regions" regions) := by
      simp only [List.append_assoc, List.nil_append]
    apply resolved_of_errors herrors
    intro line hmem
    cases hmem
  constructor
  · have herrors := List.append_assoc
      (errorsOf "status" status ++ errorsOf "telemetry" telemetry)
      (errorsOf "neighbours" neighbours) (errorsOf "regions" regions)
    apply resolved_of_errors herrors
    exact not_startsWith_of_head_ne ht hs (by decide) status
  constructor
  · apply resolved_of_errors rfl
    intro line hmem
    rcases List.mem_append.mp hmem with hstatus | htelemetry
    · exact not_startsWith_of_head_ne hn hs (by decide) status line hstatus
    · exact not_startsWith_of_head_ne hn ht (by decide) telemetry line
        htelemetry
  · apply resolved_of_errors (List.append_nil _).symm
    intro line hmem
    rcases List.mem_append.mp hmem with hbefore | hneighbours
    · rcases List.mem_append.mp hbefore with hstatus | htelemetry
      · exact not_startsWith_of_head_ne hr hs (by decide) status line hstatus
      · exact not_startsWith_of_head_ne hr ht (by decide) telemetry line
          htelemetry
    · exact not_startsWith_of_head_ne hr hn (by decide) neighbours line
        hneighbours

/-- Each category comes in once and in its place, without the handler ever
waiting for room; a login which succeeded is undone at the end; and the popup
has data or its own error for every category, and waits for none. -/
theorem repeater_detail_completes
    (config : Config) (publicKeyPrefixHex : String) (answers : DetailAnswers) :
    let actions := requestRepeaterDetail config publicKeyPrefixHex answers
    let refusal := answers.refusal config publicKeyPrefixHex
    let detail :=
      (sentCategories actions).foldl RepeaterDetailDto.applyCategory .fresh
    sentCategories actions = streamedCategories answers refusal ∧
      UpdatesChannel.NeverBlocks (sentCategories actions) ∧
      LogsOutAfterLogin actions ∧
      Resolved detail detail.status "status"
        (unlessRefused refusal answers.status) ∧
      Resolved detail detail.telemetry "telemetry"
        (unlessRefused refusal
          (answers.telemetry.map answers.telemetryDto)) ∧
      Resolved detail detail.neighbours "neighbours"
        (unlessRefused refusal answers.neighbours) ∧
      Resolved detail detail.regions "regions"
        (unlessRefused refusal answers.regions) := by
  intro actions refusal detail
  have hsent : sentCategories actions = streamedCategories answers refusal :=
    sent_requestRepeaterDetail config publicKeyPrefixHex answers
  constructor
  · exact hsent
  constructor
  · apply UpdatesChannel.neverBlocks_of_length_le
    rw [hsent]
    exact Nat.le_refl 4
  constructor
  · exact logsOut_requestRepeaterDetail config publicKeyPrefixHex answers
  · apply resolved_foldl_applyCategory
    exact congrArg _ hsent.symm

end MeshController
