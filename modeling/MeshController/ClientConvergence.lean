import MeshController.ClientLink
import MeshController.LabelledRun

/-!
# What the clients see of a change

Any number of clients, the command queue and the mesh task which serves it.
The contact list of the snapshot changes in one step of a command and is
announced in another one; a client which has asked in between keeps the old
list if nothing makes it ask again.
-/

namespace MeshController

open LabelledRun

/-- A command in the queue, and the client handler which waits for it. -/
structure ClientRequest (ClientId : Type*) where
  cmd : DaemonCommand
  origin : Option (ClientId × ℕ)

/-- `requests` is the command queue in order, with the senders which wait for
room at its end.  `script` is what is left of the command `current`. -/
structure ClientNetwork (ClientId : Type*) where
  daemon : Daemon
  requests : List (ClientRequest ClientId)
  nextTicket : ℕ
  current : Option (ClientRequest ClientId)
  script : List MeshStep
  clients : ClientId → ClientLink

inductive NetworkAction (ClientId : Type*) where
  | link (client : ClientId) (action : LinkAction)
  | dispatch (client : ClientId)
  | dispatchOther (cmd : DaemonCommand)
  | broadcastOther (event : MeshEvent)
  | takeCommand (view : CommandView)
  | meshStep (now : ℤ)

namespace ClientNetwork

variable {ClientId : Type*} [DecidableEq ClientId]

def start (ClientId : Type*) (daemon : Daemon) : ClientNetwork ClientId where
  daemon := daemon
  requests := []
  nextTicket := 0
  current := none
  script := []
  clients := fun _ => .unconnected

def withLink (state : ClientNetwork ClientId) (client : ClientId)
    (link : ClientLink) : ClientNetwork ClientId :=
  { state with clients := Function.update state.clients client link }

/-- A request other than one for a snapshot goes to the queue, and the handler
waits for the reply. -/
def dispatched (state : ClientNetwork ClientId) (client : ClientId)
    (rest : List ClientMessage) (cmd : DaemonCommand) :
    ClientNetwork ClientId :=
  { state.withLink client
      { state.clients client with
        toServer := rest, awaiting := some state.nextTicket } with
    requests := state.requests ++ [⟨cmd, some (client, state.nextTicket)⟩]
    nextTicket := state.nextTicket + 1 }

def broadcast (state : ClientNetwork ClientId) (event : MeshEvent) :
    ClientNetwork ClientId :=
  { state with clients := fun client => (state.clients client).hear event }

def reply (state : ClientNetwork ClientId) (result : Except String Unit) :
    ClientNetwork ClientId :=
  match state.current with
  | some ⟨cmd, some (client, ticket)⟩ =>
      state.withLink client
        ((state.clients client).answered ticket
          (cmd.answer state.daemon.telemetry result))
  | _ => state

def performed (state : ClientNetwork ClientId) (now : ℤ)
    (next : MeshStep) (rest : List MeshStep) : ClientNetwork ClientId :=
  let changed :=
    { state with daemon := state.daemon.afterStep next, script := rest }
  match next with
  | .broadcast kind => changed.broadcast { atUnix := now, kind := kind }
  | .reply result => changed.reply result
  | _ => changed

def step (state : ClientNetwork ClientId) :
    NetworkAction ClientId → Option (ClientNetwork ClientId)
  | .link client action =>
      ((state.clients client).step state.daemon.served action).map
        (state.withLink client)
  | .dispatch client =>
      match (state.clients client).listening,
          (state.clients client).toServer with
      | true, message :: rest =>
          message.command.map (state.dispatched client rest)
      | _, _ => none
  | .dispatchOther cmd =>
      some { state with requests := state.requests ++ [⟨cmd, none⟩] }
  | .broadcastOther event => some (state.broadcast event)
  | .takeCommand view =>
      match state.script, state.requests with
      | [], request :: rest =>
          some { state with
            requests := rest
            current := some request
            script := handleCommandSteps state.daemon view request.cmd }
      | _, _ => none
  | .meshStep now =>
      match state.script with
      | [] => none
      | next :: rest => some (state.performed now next rest)

/-- The next step of the mesh task makes every client ask for a snapshot. -/
def announces : List MeshStep → Bool
  | .broadcast kind :: _ => needsFreshSnapshot kind
  | _ => false

/-- A refresh which changes the contact list is followed at once by its
announcement, or every connected client still has to get a snapshot anyway. -/
def AnnouncedStep (state : ClientNetwork ClientId) : List MeshStep → Prop
  | .refreshContacts staleCache :: rest =>
      state.daemon.rebuiltContacts staleCache =
          state.daemon.snapshot.contacts ∨
        announces rest = true ∨
        ∀ client, (state.clients client).phase = .away ∨
          (state.clients client).refetches = true
  | _ => True

def Announced (state : ClientNetwork ClientId) :
    NetworkAction ClientId → Prop
  | .meshStep _ => state.AnnouncedStep state.script
  | _ => True

instance [Fintype ClientId] (state : ClientNetwork ClientId) :
    ∀ script, Decidable (state.AnnouncedStep script)
  | [] => isTrue trivial
  | .refreshContacts _ :: _ => inferInstanceAs (Decidable (_ ∨ _ ∨ _))
  | .removeFromCompanion _ :: _ => isTrue trivial
  | .addToCompanion _ :: _ => isTrue trivial
  | .upsertConfig _ :: _ => isTrue trivial
  | .saveConfig _ :: _ => isTrue trivial
  | .setTelemetry _ _ :: _ => isTrue trivial
  | .broadcast _ :: _ => isTrue trivial
  | .reply _ :: _ => isTrue trivial

instance [Fintype ClientId] (state : ClientNetwork ClientId) :
    ∀ action, Decidable (state.Announced action)
  | .link _ _ => isTrue trivial
  | .dispatch _ => isTrue trivial
  | .dispatchOther _ => isTrue trivial
  | .broadcastOther _ => isTrue trivial
  | .takeCommand _ => isTrue trivial
  | .meshStep _ =>
      inferInstanceAs (Decidable (state.AnnouncedStep state.script))

/-- Every client follows the contact list of the snapshot, or is about to be
told that it has changed. -/
def Converging (state : ClientNetwork ClientId) : Prop :=
  announces state.script = true ∨
    ∀ client, (state.clients client).Tracks Snapshot.contacts
      state.daemon.snapshot.contacts

omit [DecidableEq ClientId] in
theorem start_converging (daemon : Daemon) :
    (start ClientId daemon).Converging := by
  right
  intro client hconnected
  exact absurd rfl hconnected

theorem Converging.afterLink
    {state : ClientNetwork ClientId} (hgood : state.Converging)
    (client : ClientId) {link : ClientLink}
    (hlink : (state.clients client).Tracks Snapshot.contacts
        state.daemon.snapshot.contacts →
      link.Tracks Snapshot.contacts state.daemon.snapshot.contacts) :
    (state.withLink client link).Converging := by
  rcases hgood with hsoon | hfollows
  · exact Or.inl hsoon
  · right
    intro other
    by_cases hsame : other = client
    · subst other
      simpa only [withLink, Function.update_self] using
        hlink (hfollows client)
    · simpa only [withLink, Function.update_of_ne hsame] using hfollows other

omit [DecidableEq ClientId] in
theorem Converging.afterBroadcast
    {state : ClientNetwork ClientId} (hgood : state.Converging)
    (event : MeshEvent) : (state.broadcast event).Converging := by
  rcases hgood with hsoon | hfollows
  · exact Or.inl hsoon
  · right
    intro client
    exact (hfollows client).afterHear event

/-! ## Steps of the mesh task -/

theorem Converging.afterAnnouncement
    {state : ClientNetwork ClientId} (hgood : state.Converging)
    {kind : MeshEventKind} {rest : List MeshStep}
    (hscript : state.script = .broadcast kind :: rest) (now : ℤ) :
    (state.performed now (.broadcast kind) rest).Converging := by
  right
  intro client
  cases hneeds : needsFreshSnapshot kind with
  | true =>
      exact ClientLink.tracks_hear_of_needsFreshSnapshot
        (state.clients client) hneeds
  | false =>
      rcases hgood with hsoon | hfollows
      · rw [hscript] at hsoon
        have hannounces : needsFreshSnapshot kind = true := hsoon
        rw [hneeds] at hannounces
        contradiction
      · exact (hfollows client).afterHear _

theorem Converging.afterRefresh
    {state : ClientNetwork ClientId} (hgood : state.Converging)
    {staleCache : Option (List ContactDto)} {rest : List MeshStep}
    (hscript : state.script = .refreshContacts staleCache :: rest)
    (hannounced :
      state.daemon.rebuiltContacts staleCache =
          state.daemon.snapshot.contacts ∨
        announces rest = true ∨
        ∀ client, (state.clients client).phase = .away ∨
          (state.clients client).refetches = true)
    (now : ℤ) :
    (state.performed now (.refreshContacts staleCache) rest).Converging := by
  have hfollows : ∀ client,
      (state.clients client).Tracks Snapshot.contacts
        state.daemon.snapshot.contacts := by
    rcases hgood with hsoon | hfollows
    · rw [hscript] at hsoon
      simp [announces] at hsoon
    · exact hfollows
  rcases hannounced with hsame | hsoon | hasking
  · right
    intro client
    have hcontacts : (state.performed now (.refreshContacts staleCache)
        rest).daemon.snapshot.contacts = state.daemon.snapshot.contacts :=
      hsame
    rw [hcontacts]
    exact hfollows client
  · exact Or.inl hsoon
  · right
    intro client hconnected _
    left
    rcases hasking client with haway | hrefetches
    · exact absurd haway hconnected
    · exact hrefetches

theorem Converging.afterReply
    {state : ClientNetwork ClientId} (hgood : state.Converging)
    {result : Except String Unit} {rest : List MeshStep}
    (hscript : state.script = .reply result :: rest) (now : ℤ) :
    (state.performed now (.reply result) rest).Converging := by
  have hfollows : ∀ client,
      (state.clients client).Tracks Snapshot.contacts
        state.daemon.snapshot.contacts := by
    rcases hgood with hsoon | hfollows
    · rw [hscript] at hsoon
      simp [announces] at hsoon
    · exact hfollows
  have hbefore : { state with script := rest }.Converging :=
    Or.inr hfollows
  simp only [performed, Daemon.afterStep, reply]
  split
  · apply hbefore.afterLink
    intro hlink
    exact hlink.afterAnswered _ _ _ _
  · exact hbefore

omit [DecidableEq ClientId] in
theorem Converging.afterQuietStep
    {state : ClientNetwork ClientId} (hgood : state.Converging)
    {next : MeshStep} {rest : List MeshStep}
    (hscript : state.script = next :: rest)
    (hquiet : announces (next :: rest) = false)
    (hcontacts : (state.daemon.afterStep next).snapshot =
      state.daemon.snapshot) :
    { state with
      daemon := state.daemon.afterStep next
      script := rest }.Converging := by
  right
  intro client
  rw [hcontacts]
  rcases hgood with hsoon | hfollows
  · rw [hscript, hquiet] at hsoon
    contradiction
  · exact hfollows client

theorem Converging.afterMeshStep
    {state : ClientNetwork ClientId} (hgood : state.Converging)
    {next : MeshStep} {rest : List MeshStep}
    (hscript : state.script = next :: rest) (now : ℤ)
    (hannounced : state.Announced (.meshStep now)) :
    (state.performed now next rest).Converging := by
  have hcontacts := Daemon.snapshot_afterStep state.daemon next
  cases next with
  | broadcast kind => exact hgood.afterAnnouncement hscript now
  | refreshContacts staleCache =>
      apply hgood.afterRefresh hscript
      simpa only [Announced, hscript, AnnouncedStep] using hannounced
  | reply result => exact hgood.afterReply hscript now
  | removeFromCompanion contact | addToCompanion contact
  | upsertConfig request | saveConfig outcome
  | setTelemetry key telemetry =>
      apply hgood.afterQuietStep hscript rfl
      exact hcontacts (by simp)

theorem Converging.afterStep
    {state next : ClientNetwork ClientId} {action : NetworkAction ClientId}
    (hgood : state.Converging) (hannounced : state.Announced action)
    (hstep : state.step action = some next) : next.Converging := by
  cases action with
  | link client action =>
      simp only [step, Option.map_eq_some_iff] at hstep
      rcases hstep with ⟨link, hlink, hnext⟩
      rw [← hnext]
      apply hgood.afterLink
      intro hfollows
      have hserved : (state.clients client).Tracks Snapshot.contacts
          state.daemon.served.contacts := hfollows
      exact hserved.afterStep hlink
  | dispatch client =>
      simp only [step] at hstep
      split at hstep
      next message rest hlistening hrequests =>
        simp only [Option.map_eq_some_iff] at hstep
        rcases hstep with ⟨cmd, hcmd, hnext⟩
        have hother : message ≠ .requestSnapshot := by
          intro hsame
          simp [hsame, ClientMessage.command] at hcmd
        rw [← hnext]
        have hwaiting := hgood.afterLink client fun hfollows =>
          hfollows.afterDispatch hrequests hother (some state.nextTicket)
        exact hwaiting
      next => contradiction
  | dispatchOther cmd =>
      simp only [step, Option.some.injEq] at hstep
      rw [← hstep]
      exact hgood
  | broadcastOther event =>
      simp only [step, Option.some.injEq] at hstep
      rw [← hstep]
      exact hgood.afterBroadcast event
  | takeCommand view =>
      simp only [step] at hstep
      split at hstep
      next request rest hscript hrequests =>
        rw [Option.some.injEq] at hstep
        rw [← hstep]
        rcases hgood with hsoon | hfollows
        · simp [hscript, announces] at hsoon
        · exact Or.inr hfollows
      next => contradiction
  | meshStep now =>
      simp only [step] at hstep
      cases hscript : state.script with
      | nil => simp [hscript] at hstep
      | cons head rest =>
          simp only [hscript, Option.some.injEq] at hstep
          rw [← hstep]
          exact hgood.afterMeshStep hscript now hannounced

/-- If every change of the contact list is announced in time, a client to and
from which nothing is under way holds the daemon's contact list. -/
theorem contacts_converge_of_announced
    {daemon : Daemon} {actions : List (NetworkAction ClientId)}
    {final : ClientNetwork ClientId}
    (hannounced : MeetsAlong step Announced (start ClientId daemon) actions)
    (hrun : run step (start ClientId daemon) actions = some final)
    (hdone : final.script = []) {client : ClientId}
    (hserving : (final.clients client).phase = .serving)
    (hkept : (final.clients client).eventsRx.lagged = false)
    (hdelivered : (final.clients client).Delivered) :
    (final.clients client).app.snapshot.contacts =
      final.daemon.snapshot.contacts := by
  have hgood := invariant_of_run
    (fun _ _ _ hgood hallowed hnext =>
      Converging.afterStep hgood hallowed hnext)
    (start_converging daemon) hannounced hrun
  have hfollows : (final.clients client).Tracks Snapshot.contacts
      final.daemon.snapshot.contacts := by
    rcases hgood with hsoon | hfollows
    · rw [hdone] at hsoon
      contradiction
    · exact hfollows client
  exact hfollows.eq_of_delivered hdelivered hserving hkept

def connecting (client : ClientId) : List (NetworkAction ClientId) :=
  [.link client .accept, .link client .sendSnapshot,
    .link client (.sendPacketLog []), .link client .receiveMessage,
    .link client .receiveMessage, .link client .receiveMessage]

def catchingUp (client : ClientId) : List (NetworkAction ClientId) :=
  [.link client .forwardEvent, .link client .receiveMessage,
    .link client .answerSnapshot, .link client .receiveMessage]

/-- One of two clients marks a repeater, and neither asks before the contact
list is refreshed. -/
def markingSupervised : List (NetworkAction Bool) :=
  connecting false ++ connecting true ++
    [.link true (.press (.setRepeaterStatus "0a1b2c3d4e5f" "hilltop"
        (some .supervised))),
      .dispatch true, .takeCommand (.offline [knownContact]),
      .meshStep 0, .meshStep 0, .meshStep 0, .meshStep 0, .meshStep 0] ++
    catchingUp false ++ catchingUp true

theorem contacts_converge_of_announced_two_clients :
    ∃ final,
      run step (start Bool .bare) markingSupervised = some final ∧
      final.daemon.snapshot.contacts.length = 1 ∧
      ∀ client, (final.clients client).app.snapshot.contacts =
        final.daemon.snapshot.contacts := by
  refine ⟨_, rfl, rfl, ?_⟩
  intro client
  cases client with
  | false =>
      exact @contacts_converge_of_announced Bool _ .bare markingSupervised _
        (by decide) rfl rfl false rfl rfl ⟨rfl, rfl, rfl⟩
  | true =>
      exact @contacts_converge_of_announced Bool _ .bare markingSupervised _
        (by decide) rfl rfl true rfl rfl ⟨rfl, rfl, rfl⟩

def refreshesNext : List MeshStep → Bool
  | .refreshContacts _ :: _ => true
  | _ => false

/-- The contact list is only changed for a command of a client. -/
def ByCommand (state : ClientNetwork ClientId) :
    NetworkAction ClientId → Prop
  | .meshStep _ => refreshesNext state.script = true →
      state.current.any (fun request => request.cmd.isMutating) = true
  | _ => True

instance (state : ClientNetwork ClientId) :
    ∀ action, Decidable (state.ByCommand action)
  | .link _ _ => isTrue trivial
  | .dispatch _ => isTrue trivial
  | .dispatchOther _ => isTrue trivial
  | .broadcastOther _ => isTrue trivial
  | .takeCommand _ => isTrue trivial
  | .meshStep _ => inferInstanceAs (Decidable (_ → _))

def declaringView : CommandView :=
  { CommandView.offline [] with
    declaration := .ok (Vector.replicate 32 0xab)
    staleCache := none }

/-- A client adds a repeater.  Nothing that is broadcast makes a client ask
for the new contact list. -/
theorem contacts_diverge_of_addRepeater :
    ¬ ∀ (daemon : Daemon) (actions : List (NetworkAction Unit))
        (final : ClientNetwork Unit),
      MeetsAlong step ByCommand (start Unit daemon) actions →
      run step (start Unit daemon) actions = some final →
      final.script = [] → final.requests = [] →
      ∀ client, (final.clients client).phase = .serving →
        (final.clients client).awaiting = none →
        (final.clients client).eventsRx.lagged = false →
        (final.clients client).Delivered →
        (final.clients client).app.snapshot.contacts =
          final.daemon.snapshot.contacts := by
  intro hclaim
  have hsame := hclaim .bare
    (connecting () ++
      [.link () (.press (.addRepeater
          ("abababababababababababababababab" ++
            "abababababababababababababababab") "ridge" false)),
        .dispatch (), .takeCommand declaringView,
        .meshStep 0, .meshStep 0, .meshStep 0, .meshStep 0,
        .link () .forwardEvent, .link () .receiveMessage])
    _ (by decide) rfl rfl rfl () rfl rfl rfl ⟨rfl, rfl, rfl⟩
  have hlength : 0 = 1 := congrArg List.length hsame
  contradiction

end ClientNetwork

end MeshController
