import MeshController.NeighbourCursor

/-!
# Which answers a detail popup shows

A client which closes the popup of a repeater and opens it again has two
requests under way, and the daemon answers them one after the other.  An
update tells for which repeater it is, and not for which request: the popup
folds in whatever still comes of the former request before its own answers.
-/

namespace MeshController

open LabelledRun

inductive DetailKind where
  | status
  | telemetry
  | neighbours
  | regions
deriving DecidableEq

/-- Why a category failed, if it did. -/
def failure? {Data : Type*} : Except String Data → Option String
  | .error err => some err
  | .ok _ => none

/-- The category which failed, and why. -/
def RepeaterDetailCategory.failed? :
    RepeaterDetailCategory → Option (DetailKind × String)
  | .status (.error err) => some (.status, err)
  | .telemetry (.error err) => some (.telemetry, err)
  | .neighbours (.error err) => some (.neighbours, err)
  | .regions (.error err) => some (.regions, err)
  | _ => none

namespace DetailKind

def Data : DetailKind → Type
  | .status => StatusDto
  | .telemetry => TelemetryDto
  | .neighbours => NeighboursDto
  | .regions => RegionHierarchyDto

def name : DetailKind → String
  | .status => "status"
  | .telemetry => "telemetry"
  | .neighbours => "neighbours"
  | .regions => "regions"

def outcome? : (kind : DetailKind) → RepeaterDetailCategory →
    Option (Except String kind.Data)
  | .status, .status outcome => some outcome
  | .telemetry, .telemetry outcome => some outcome
  | .neighbours, .neighbours outcome => some outcome
  | .regions, .regions outcome => some outcome
  | _, _ => none

def data : (kind : DetailKind) → RepeaterDetailDto → Option kind.Data
  | .status, detail => detail.status
  | .telemetry, detail => detail.telemetry
  | .neighbours, detail => detail.neighbours
  | .regions, detail => detail.regions

/-- What the popup draws of a category: nothing yet, data or an error line. -/
def shown (kind : DetailKind) (detail : RepeaterDetailDto) :
    Option (Except String kind.Data) :=
  match kind.data detail with
  | some value => some (.ok value)
  | none =>
      if categoryPending detail false kind.name then none
      else some (.error (errorLineFor detail kind.name))

def line (kind : DetailKind) (err : String) : String :=
  "  " ++ categoryError kind.name err

/-- The last success counts, and without any the first failure. -/
def verdict (kind : DetailKind) (outcomes : List (Except String kind.Data)) :
    Option (Except String kind.Data) :=
  match (outcomes.filterMap Except.toOption).getLast? with
  | some value => some (.ok value)
  | none =>
      (outcomes.filterMap failure?).head?.map fun err => .error (kind.line err)

/-! ## Folding updates -/

def initial : DetailKind → Char
  | .status => 's'
  | .telemetry => 't'
  | .neighbours => 'n'
  | .regions => 'r'

theorem head_name (kind : DetailKind) :
    kind.name.toList.head? = some kind.initial := by
  cases kind <;> simp [name, initial]

theorem initial_ne {kind other : DetailKind} (hother : kind ≠ other) :
    kind.initial ≠ other.initial := by
  revert hother
  cases kind <;> cases other <;> decide

theorem startsWith_name (kind other : DetailKind) (err : String) :
    startsWith (categoryError other.name err) kind.name =
      decide (kind = other) := by
  by_cases hsame : kind = other
  · subst hsame
    simp [startsWith_categoryError]
  · rw [decide_eq_false hsame]
    apply not_startsWith_of_head_ne kind.head_name other.head_name
      (initial_ne hsame) (.error err : Except String Unit)
    simp [errorsOf]

theorem data_applyCategory
    (kind : DetailKind) (detail : RepeaterDetailDto)
    (category : RepeaterDetailCategory) :
    kind.data (detail.applyCategory category) =
      ((kind.outcome? category).bind Except.toOption).or
        (kind.data detail) := by
  cases category with
  | status outcome | telemetry outcome | neighbours outcome
  | regions outcome => cases outcome <;> cases kind <;> rfl

/-- The errors a category recorded, oldest first. -/
def errorLines (kind : DetailKind) (detail : RepeaterDetailDto) :
    List String :=
  detail.errors.filter fun e => startsWith e kind.name

theorem outcome_bind_failure
    (kind : DetailKind) (category : RepeaterDetailCategory) :
    (kind.outcome? category).bind failure? =
      (category.failed?.filter fun failed => failed.1 = kind).map
        Prod.snd := by
  cases category with
  | status outcome | telemetry outcome | neighbours outcome
  | regions outcome => cases outcome <;> cases kind <;> rfl

theorem errors_applyCategory
    (detail : RepeaterDetailDto) (category : RepeaterDetailCategory) :
    (detail.applyCategory category).errors =
      detail.errors ++ (category.failed?.map fun failed =>
        categoryError failed.1.name failed.2).toList := by
  cases category with
  | status outcome | telemetry outcome | neighbours outcome
  | regions outcome =>
      cases outcome <;>
        simp [RepeaterDetailDto.applyCategory, RepeaterDetailCategory.failed?,
          name]

theorem errorLines_applyCategory
    (kind : DetailKind) (detail : RepeaterDetailDto)
    (category : RepeaterDetailCategory) :
    kind.errorLines (detail.applyCategory category) =
      kind.errorLines detail ++
        (((kind.outcome? category).bind failure?).map
          (categoryError kind.name)).toList := by
  rw [outcome_bind_failure, errorLines, errors_applyCategory,
    List.filter_append, errorLines]
  congr 1
  cases category.failed? with
  | none => rfl
  | some failed =>
      rcases failed with ⟨other, err⟩
      by_cases hsame : other = kind
      · subst hsame
        simp [startsWith_categoryError, Option.filter]
      · simp [startsWith_name, Option.filter, hsame, Ne.symm hsame]

theorem data_foldl (kind : DetailKind) (updates : List RepeaterDetailCategory) :
    kind.data (updates.foldl RepeaterDetailDto.applyCategory .fresh) =
      ((updates.filterMap kind.outcome?).filterMap
        Except.toOption).getLast? := by
  induction updates using List.reverseRecOn with
  | nil => cases kind <;> rfl
  | append_singleton updates update ih =>
      rw [List.foldl_append, List.foldl_cons, List.foldl_nil,
        data_applyCategory, ih]
      cases houtcome : kind.outcome? update with
      | none => simp [houtcome]
      | some outcome => cases outcome <;> simp [houtcome, Except.toOption]

theorem errorLines_foldl
    (kind : DetailKind) (updates : List RepeaterDetailCategory) :
    kind.errorLines (updates.foldl RepeaterDetailDto.applyCategory .fresh) =
      ((updates.filterMap kind.outcome?).filterMap failure?).map
        (categoryError kind.name) := by
  induction updates using List.reverseRecOn with
  | nil => rfl
  | append_singleton updates update ih =>
      rw [List.foldl_append, List.foldl_cons, List.foldl_nil,
        errorLines_applyCategory, ih]
      cases houtcome : kind.outcome? update with
      | none => simp [houtcome]
      | some outcome => cases outcome <;> simp [houtcome, failure?]

/-- Whatever was folded in, a category shows the verdict on its outcomes. -/
theorem shown_foldl (kind : DetailKind) (updates : List RepeaterDetailCategory) :
    kind.shown (updates.foldl RepeaterDetailDto.applyCategory .fresh) =
      kind.verdict (updates.filterMap kind.outcome?) := by
  have hdata := kind.data_foldl updates
  have herrors := kind.errorLines_foldl updates
  generalize updates.foldl RepeaterDetailDto.applyCategory .fresh = detail
    at hdata herrors
  unfold shown verdict
  rw [hdata]
  cases ((updates.filterMap kind.outcome?).filterMap
      Except.toOption).getLast? with
  | some value => rfl
  | none =>
      have hpending : categoryPending detail false kind.name =
          (kind.errorLines detail).isEmpty := by
        rw [errorLines, Bool.eq_iff_iff]
        simp [categoryPending]
      have hline : errorLineFor detail kind.name =
          "  " ++ ((kind.errorLines detail).head?).getD
            (kind.name ++ ": failed") := by
        rw [errorLines, List.head?_filter]
        rfl
      dsimp only
      rw [hpending, hline, herrors]
      cases (updates.filterMap kind.outcome?).filterMap failure? <;> rfl

/-! ## One answer after the others -/

/-- What a request gave, if it was not refused. -/
def outcomeOf : (kind : DetailKind) → DetailAnswers → Option String →
    Except String kind.Data
  | .status, answers, refusal => unlessRefused refusal answers.status
  | .telemetry, answers, refusal =>
      unlessRefused refusal (answers.telemetry.map answers.telemetryDto)
  | .neighbours, answers, refusal => unlessRefused refusal answers.neighbours
  | .regions, answers, refusal => unlessRefused refusal answers.regions

theorem outcomes_requestRepeaterDetail
    (kind : DetailKind) (config : Config) (publicKeyPrefixHex : String)
    (answers : DetailAnswers) :
    (sentCategories (requestRepeaterDetail config publicKeyPrefixHex
        answers)).filterMap kind.outcome? =
      [kind.outcomeOf answers (answers.refusal config publicKeyPrefixHex)] := by
  rw [sent_requestRepeaterDetail]
  cases kind <;> rfl

theorem verdict_singleton
    (kind : DetailKind) (outcome : Except String kind.Data) :
    kind.verdict [outcome] = some (outcome.mapError kind.line) := by
  cases outcome <;> rfl

/-- The verdict is that on the last outcome, unless this is a failure and an
earlier outcome shows something else. -/
theorem verdict_concat_eq_iff
    (kind : DetailKind) (earlier : List (Except String kind.Data))
    (outcome : Except String kind.Data) :
    kind.verdict (earlier ++ [outcome]) = kind.verdict [outcome] ↔
      outcome.isOk = true ∨ kind.verdict earlier = none ∨
        kind.verdict earlier = kind.verdict [outcome] := by
  rw [verdict_singleton]
  cases outcome with
  | ok value =>
      simp [verdict, Except.toOption, Except.isOk, Except.toBool,
        Except.mapError]
  | error err =>
      have herr : failure? (.error err : Except String kind.Data) =
          some err := rfl
      simp only [verdict, List.filterMap_append, List.filterMap_cons,
        Except.toOption, herr, List.filterMap_nil, List.append_nil]
      cases (earlier.filterMap Except.toOption).getLast? with
      | some value => simp [Except.isOk, Except.toBool, Except.mapError]
      | none =>
          cases earlier.filterMap failure? with
          | nil => simp [Except.mapError]
          | cons first rest =>
              simp [Except.isOk, Except.toBool, Except.mapError]

end DetailKind

/-! ## Requests and updates under way -/

/-- `streaming` is what the daemon still sends of the request it answers.
The last two fields are bookkeeping: the number of the request the popup was
opened with, and the updates for its repeater which were under way then. -/
structure DetailLink where
  popup : DetailPopup
  toServer : List (ℕ × String)
  streaming : List (String × RepeaterDetailCategory)
  toClient : List (String × RepeaterDetailCategory)
  asked : ℕ
  own : ℕ
  underway : List RepeaterDetailCategory

/-- `timeOut` is the daemon giving up on a request, and `hangUp` a connection
which breaks. -/
inductive DetailLinkAction where
  | enter (publicKeyPrefixHex name : String)
  | esc
  | down
  | up
  | serve
  | send
  | receive
  | timeOut
  | hangUp (unread unsent : ℕ)
deriving DecidableEq

/-- Updates are lost. -/
def DetailLinkAction.loses : DetailLinkAction → Bool
  | .timeOut => true
  | .hangUp _ _ => true
  | _ => false

/-- The updates which are for this repeater. -/
def updatesFor (publicKeyPrefixHex : String)
    (updates : List (String × RepeaterDetailCategory)) :
    List RepeaterDetailCategory :=
  (updates.filter fun update => update.1 = publicKeyPrefixHex).map Prod.snd

theorem updatesFor_append
    (publicKeyPrefixHex : String)
    (first second : List (String × RepeaterDetailCategory)) :
    updatesFor publicKeyPrefixHex (first ++ second) =
      updatesFor publicKeyPrefixHex first ++
        updatesFor publicKeyPrefixHex second := by
  simp [updatesFor]

theorem updatesFor_map_same
    (publicKeyPrefixHex : String) (categories : List RepeaterDetailCategory) :
    updatesFor publicKeyPrefixHex
      (categories.map fun category => (publicKeyPrefixHex, category)) =
        categories := by
  unfold updatesFor
  rw [List.filter_eq_self.mpr (by simp), List.map_map]
  exact List.map_id categories

namespace DetailLink

def start : DetailLink where
  popup := .start
  toServer := []
  streaming := []
  toClient := []
  asked := 0
  own := 0
  underway := []

section Served

-- What each request finds when the daemon comes to it.
variable (found : ℕ → Config × DetailAnswers)

def streamOf (request : ℕ × String) : List (String × RepeaterDetailCategory) :=
  (sentCategories (requestRepeaterDetail (found request.1).1 request.2
    (found request.1).2)).map fun category => (request.2, category)

/-- Every update the client has not read, in the order in which it comes. -/
def upcoming (link : DetailLink) : List (String × RepeaterDetailCategory) :=
  link.toClient ++ link.streaming ++ link.toServer.flatMap (streamOf found)

/-- The daemon answers one request after the other. -/
def step (link : DetailLink) : DetailLinkAction → Option DetailLink
  | .enter publicKeyPrefixHex name =>
      some { link with
        popup := link.popup.openRepeaterDetailPending publicKeyPrefixHex name
        toServer := link.toServer ++ [(link.asked, publicKeyPrefixHex)]
        asked := link.asked + 1
        own := link.asked
        underway := updatesFor publicKeyPrefixHex (link.upcoming found) }
  | .esc => some { link with popup := link.popup.closeRepeaterDetail }
  | .down => some { link with popup := link.popup.selectNextNeighbour }
  | .up => some { link with popup := link.popup.selectPrevNeighbour }
  | .serve =>
      match link.streaming, link.toServer with
      | [], request :: rest =>
          some { link with
            streaming := streamOf found request, toServer := rest }
      | _, _ => none
  | .send =>
      match link.streaming with
      | [] => none
      | update :: rest =>
          some { link with
            streaming := rest, toClient := link.toClient ++ [update] }
  | .receive =>
      match link.toClient with
      | [] => none
      | update :: rest =>
          some { link with
            popup := link.popup.applyRepeaterDetailCategory update.1 update.2
            toClient := rest }
  | .timeOut => some { link with streaming := [] }
  | .hangUp unread unsent =>
      some { link with
        toClient := link.toClient.take unread
        streaming := []
        toServer := link.toServer.drop (link.toServer.length - unsent) }

/-- Nothing is under way any more. -/
structure Settled (link : DetailLink) : Prop where
  toServer : link.toServer = []
  streaming : link.streaming = []
  toClient : link.toClient = []

/-! ### What the popup has folded in -/

/-- What the popup has folded in and what it still will are together what was
under way when it was opened, and then its own answers. -/
def Accounted (link : DetailLink) : Prop :=
  ∀ view, link.popup.repeaterDetail = some view →
    ∃ folded,
      view.detail = folded.foldl RepeaterDetailDto.applyCategory .fresh ∧
      folded ++ updatesFor view.publicKeyPrefixHex (link.upcoming found) =
        link.underway ++ updatesFor view.publicKeyPrefixHex
          (streamOf found (link.own, view.publicKeyPrefixHex))

variable {found}

/-- A step which leaves the popup's detail and everything under way to it
alone. -/
theorem Accounted.congr
    {link next : DetailLink} (haccounted : link.Accounted found)
    (hpopup : next.popup.repeaterDetail = link.popup.repeaterDetail)
    (hupcoming : next.upcoming found = link.upcoming found)
    (hown : next.own = link.own) (hunderway : next.underway = link.underway) :
    next.Accounted found := by
  intro view hview
  rw [hpopup] at hview
  rw [hupcoming, hown, hunderway]
  exact haccounted view hview

theorem accounted_enter
    (link : DetailLink) (publicKeyPrefixHex name : String) :
    Accounted found { link with
      popup := link.popup.openRepeaterDetailPending publicKeyPrefixHex name
      toServer := link.toServer ++ [(link.asked, publicKeyPrefixHex)]
      asked := link.asked + 1
      own := link.asked
      underway := updatesFor publicKeyPrefixHex (link.upcoming found) } := by
  intro view hview
  simp only [DetailPopup.openRepeaterDetailPending, Option.some.injEq] at hview
  subst hview
  use []
  constructor
  · rfl
  · simp [upcoming, updatesFor_append]

theorem Accounted.receive
    {link : DetailLink} (haccounted : link.Accounted found)
    {update : String × RepeaterDetailCategory}
    {rest : List (String × RepeaterDetailCategory)}
    (htoClient : link.toClient = update :: rest) :
    Accounted found { link with
      popup := link.popup.applyRepeaterDetailCategory update.1 update.2
      toClient := rest } := by
  intro after hafter
  have hupcoming : link.upcoming found =
      update :: (rest ++ link.streaming ++
        link.toServer.flatMap (streamOf found)) := by
    simp [upcoming, htoClient]
  cases hview : link.popup.repeaterDetail with
  | none => simp [DetailPopup.applyRepeaterDetailCategory, hview] at hafter
  | some view =>
      obtain ⟨folded, hdetail, hall⟩ := haccounted view hview
      rw [hupcoming] at hall
      by_cases hshown : view.publicKeyPrefixHex = update.1
      · simp only [DetailPopup.applyRepeaterDetailCategory, hview, hshown,
          ne_eq, not_true_eq_false, if_false, Option.some.injEq] at hafter
        subst hafter
        use folded ++ [update.2]
        constructor
        · rw [List.foldl_append, hdetail]
          rfl
        · rw [← hshown]
          rw [updatesFor, List.filter_cons_of_pos (by simp [hshown])] at hall
          simpa [updatesFor, upcoming] using hall
      · simp only [DetailPopup.applyRepeaterDetailCategory, hview, ne_eq,
          hshown, not_false_eq_true, if_true, Option.some.injEq] at hafter
        subst hafter
        use folded
        constructor
        · exact hdetail
        · rw [updatesFor, List.filter_cons_of_neg
            (by simpa using Ne.symm hshown)] at hall
          exact hall

theorem repeaterDetail_selectNextNeighbour (popup : DetailPopup) :
    popup.selectNextNeighbour.repeaterDetail = popup.repeaterDetail := by
  unfold DetailPopup.selectNextNeighbour
  dsimp only
  split <;> rfl

theorem repeaterDetail_selectPrevNeighbour (popup : DetailPopup) :
    popup.selectPrevNeighbour.repeaterDetail = popup.repeaterDetail := by
  unfold DetailPopup.selectPrevNeighbour
  dsimp only
  split <;> rfl

theorem Accounted.step
    {link next : DetailLink} {action : DetailLinkAction}
    (haccounted : link.Accounted found) (hkept : action.loses = false)
    (hstep : link.step found action = some next) :
    next.Accounted found := by
  cases action with
  | enter publicKeyPrefixHex name =>
      rw [DetailLink.step, Option.some.injEq] at hstep
      exact hstep ▸ link.accounted_enter publicKeyPrefixHex name
  | esc =>
      rw [DetailLink.step, Option.some.injEq] at hstep
      subst hstep
      intro view hview
      cases hview
  | down =>
      rw [DetailLink.step, Option.some.injEq] at hstep
      subst hstep
      exact haccounted.congr (repeaterDetail_selectNextNeighbour _) rfl rfl rfl
  | up =>
      rw [DetailLink.step, Option.some.injEq] at hstep
      subst hstep
      exact haccounted.congr (repeaterDetail_selectPrevNeighbour _) rfl rfl rfl
  | serve =>
      simp only [DetailLink.step] at hstep
      split at hstep
      next request rest hidle hrequest =>
        rw [Option.some.injEq] at hstep
        subst hstep
        apply Accounted.congr haccounted
        · rfl
        · simp [upcoming, hidle, hrequest]
        · rfl
        · rfl
      next => cases hstep
  | send =>
      simp only [DetailLink.step] at hstep
      split at hstep
      next => cases hstep
      next update rest hstreaming =>
        rw [Option.some.injEq] at hstep
        subst hstep
        apply Accounted.congr haccounted
        · rfl
        · simp [upcoming, hstreaming]
        · rfl
        · rfl
  | receive =>
      simp only [DetailLink.step] at hstep
      split at hstep
      next => cases hstep
      next update rest htoClient =>
        rw [Option.some.injEq] at hstep
        exact hstep ▸ haccounted.receive htoClient
  | timeOut | hangUp => cases hkept

/-- Once every answer has come in, each category of an open popup shows the
verdict on what was under way for its repeater when it was opened and on its
own answer; and so it shows its own answer exactly if this is data, or if
nothing else was under way which shows. -/
theorem settled_popup_shows
    {link : DetailLink} {actions : List DetailLinkAction}
    {view : RepeaterDetailView}
    (hkept : ∀ action ∈ actions, action.loses = false)
    (hrun : run (DetailLink.step found) start actions = some link)
    (hsettled : link.Settled) (hopen : link.popup.repeaterDetail = some view)
    (kind : DetailKind) :
    let request := found link.own
    let own := kind.outcomeOf request.2
      (request.2.refusal request.1 view.publicKeyPrefixHex)
    let former := link.underway.filterMap kind.outcome?
    kind.shown view.detail = kind.verdict (former ++ [own]) ∧
      (kind.shown view.detail = kind.verdict [own] ↔
        own.isOk = true ∨ kind.verdict former = none ∨
          kind.verdict former = kind.verdict [own]) := by
  intro request own former
  have haccounted : link.Accounted found := by
    apply invariant_of_run ?_ ?_ (MeetsAlong.of_mem hkept start) hrun
    · intro state action next hstate haction hstep
      exact hstate.step haction hstep
    · intro view hview
      cases hview
  obtain ⟨folded, hdetail, hall⟩ := haccounted view hopen
  have hnothing : link.upcoming found = [] := by
    simp [upcoming, hsettled.toServer, hsettled.streaming, hsettled.toClient]
  have hfolded : folded = link.underway ++
      sentCategories (requestRepeaterDetail request.1 view.publicKeyPrefixHex
        request.2) := by
    rw [hnothing, streamOf, updatesFor_map_same] at hall
    simpa [updatesFor] using hall
  have hshown : kind.shown view.detail = kind.verdict (former ++ [own]) := by
    rw [hdetail, kind.shown_foldl, hfolded, List.filterMap_append,
      kind.outcomes_requestRepeaterDetail]
  constructor
  · exact hshown
  · rw [hshown]
    exact kind.verdict_concat_eq_iff former own

/-! ### A popup which is opened twice -/

section Example

def hilltopStatus : StatusDto where
  fetchedAtUnix := 0
  batteryMv := 4012
  txQueueLen := 0
  noiseFloor := -110
  lastRssi := -80
  lastSnr := 6
  packetsReceived := 1
  packetsSent := 1
  duplicatePackets := 0
  airtimeSecs := 1
  rxAirtimeSecs := 1
  uptimeSecs := 1
  floodSent := 0
  directSent := 0

def hilltopAnswers (status : Except String StatusDto) : DetailAnswers where
  contacts := [knownContact]
  login := fun _ => .ok ()
  nowUnix := 0
  status := status
  telemetry := .error "timed out"
  neighbours := .error "timed out"
  regions := .error "timed out"

/-- The status comes in for the first request, and not for the second. -/
def oneStatus (request : ℕ) : Config × DetailAnswers :=
  (.bare, hilltopAnswers
    (if request = 0 then .ok hilltopStatus else .error "timed out"))

def receiveAll : List DetailLinkAction :=
  [.serve, .send, .send, .send, .send, .receive, .receive, .receive, .receive]

def reopened : List DetailLinkAction :=
  [.enter knownContact.publicKeyPrefixHex "hilltop", .esc,
    .enter knownContact.publicKeyPrefixHex "hilltop"] ++
      receiveAll ++ receiveAll

/-- The status of the former request stands in the popup, and nothing says
that its own request for it failed. -/
theorem settled_popup_shows_reopened :
    ∃ link view,
      run (DetailLink.step oneStatus) start reopened = some link ∧
      link.popup.repeaterDetail = some view ∧ link.own = 1 ∧
      DetailKind.status.shown view.detail = some (.ok hilltopStatus) := by
  have hrun : run (DetailLink.step oneStatus) start reopened = some _ := rfl
  refine ⟨_, _, hrun, rfl, rfl, ?_⟩
  have hkept : ∀ action ∈ reopened, action.loses = false := by decide
  rw [(settled_popup_shows hkept hrun ⟨rfl, rfl, rfl⟩ rfl .status).1]
  rfl

end Example

end Served

end DetailLink

end MeshController
