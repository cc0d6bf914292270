import MeshController.CompanionNode

/-!
# Tiers and registration

Within one connection the contact list the daemon goes by is the one it last
read from the node: on connecting, or by the last fetch which succeeded.
Removing and declaring contacts does not change it.  Whether a repeater needs
to be registered is decided from that list, which is out of date once the
fetch after a removal has failed.
-/

namespace MeshController

open HexEncoding MeshClient

/-- The companion has a contact with the prefix, whatever the letter case. -/
def Daemon.HasContact (daemon : Daemon) (publicKeyPrefixHex : String) : Prop :=
  ∃ c ∈ daemon.companionContacts,
    equalIgnoringCase c.prefixHex publicKeyPrefixHex = true

/-- One connection, with the contact list as it was last read. -/
structure Session where
  daemon : Daemon
  cache : List Contact

def Session.Caches (session : Session) (publicKeyPrefixHex : String) : Prop :=
  ∃ c ∈ session.cache, c.prefixHex = publicKeyPrefixHex

/-- The answers to the requests of a command; what `CommandView` has beyond
them and the cache is in `others`, whose stale list says by being there that
the fetch fails. -/
structure SessionAnswers where
  removal : Except String Unit
  declaration : Except String Unit
  others : CommandView

/-- The node's contact list may also change without the daemon being told, and
an advertisement or a node heard for the first time makes it fetch. -/
inductive SessionAction where
  | command (cmd : DaemonCommand) (answers : SessionAnswers)
  | nodeChanges (contacts : List Contact)
  | refresh (fetched : Bool)

def Session.staleContacts (session : Session) : List ContactDto :=
  session.cache.map ContactDto.ofContact

/-- A step, and what it does to the cache: a fetch which succeeds reads the
node's list, whatever else the step is leaves the cache alone. -/
def Session.afterStep (session : Session) (step : MeshStep) : Session where
  daemon := session.daemon.afterStep step
  cache :=
    match step with
    | .refreshContacts none => session.daemon.companionContacts
    | _ => session.cache

section Decoding

variable [HexDecoder]

def SessionAnswers.removalFrom
    (answers : SessionAnswers) (cache : List Contact)
    (publicKeyPrefixHex : String) : Except String Contact :=
  match resolveContact cache publicKeyPrefixHex with
  | .error reason => .error reason
  | .ok contact => answers.removal.map fun _ => contact

def SessionAnswers.declarationOf
    (answers : SessionAnswers) (repeater : ManagedRepeater) :
    Except String (Vector UInt8 32) :=
  match contactToDeclare repeater with
  | .error reason => .error reason
  | .ok contact => answers.declaration.map fun _ => contact.publicKey

/-- What a command sees within the session. -/
def Session.view
    (session : Session) (answers : SessionAnswers) (cmd : DaemonCommand) :
    CommandView :=
  { answers.others with
    cachedContacts := session.staleContacts
    staleCache :=
      answers.others.staleCache.map fun _ => session.staleContacts
    removal :=
      match cmd with
      | .removeContact publicKeyPrefixHex =>
          answers.removalFrom session.cache publicKeyPrefixHex
      | _ => answers.others.removal
    declaration :=
      match cmd with
      | .setRepeaterStatus publicKeyPrefixHex name status =>
          match findDiscovered session.daemon.discovered
              publicKeyPrefixHex with
          | some node =>
              answers.declarationOf
                ⟨name, node.publicKeyHex, none, status.getD .managed⟩
          | none => answers.others.declaration
      | .addRepeater publicKeyHex name _ =>
          answers.declarationOf ⟨name, publicKeyHex, none, .managed⟩
      | _ => answers.others.declaration }

def Session.steps
    (session : Session) (cmd : DaemonCommand) (answers : SessionAnswers) :
    List MeshStep :=
  handleCommandSteps session.daemon (session.view answers cmd) cmd

def MeshStep.replied : MeshStep → Option (Except String Unit)
  | .reply result => some result
  | _ => none

def Session.reply
    (session : Session) (cmd : DaemonCommand) (answers : SessionAnswers) :
    Option (Except String Unit) :=
  (session.steps cmd answers).findSome? MeshStep.replied

def Session.step (session : Session) : SessionAction → Session
  | .command cmd answers =>
      (session.steps cmd answers).foldl Session.afterStep session
  | .nodeChanges contacts =>
      { session with
        daemon := { session.daemon with companionContacts := contacts } }
  | .refresh fetched =>
      session.afterStep
        (.refreshContacts
          (if fetched then none else some session.staleContacts))

def Session.after (session : Session) (actions : List SessionAction) :
    Session :=
  actions.foldl Session.step session

end Decoding

theorem daemon_foldl_afterStep (session : Session) (steps : List MeshStep) :
    (steps.foldl Session.afterStep session).daemon =
      steps.foldl Daemon.afterStep session.daemon := by
  induction steps generalizing session with
  | nil => rfl
  | cons step rest ih => exact ih (session.afterStep step)

/-! ## Steps which leave the companion alone -/

def MeshStep.touchesCompanion : MeshStep → Bool
  | .removeFromCompanion _ => true
  | .addToCompanion _ => true
  | _ => false

theorem companionContacts_of_untouched
    {steps : List MeshStep}
    (huntouched : ∀ step ∈ steps, step.touchesCompanion = false)
    (daemon : Daemon) :
    (steps.foldl Daemon.afterStep daemon).companionContacts =
      daemon.companionContacts := by
  induction steps generalizing daemon with
  | nil => rfl
  | cons step rest ih =>
      have hrest : ∀ other ∈ rest, other.touchesCompanion = false := by
        intro other hmem
        exact huntouched other (by simp [hmem])
      have hfirst := huntouched step (by simp)
      rw [List.foldl_cons, ih hrest]
      cases step with
      | removeFromCompanion contact | addToCompanion contact => contradiction
      | saveConfig outcome => cases outcome <;> rfl
      | upsertConfig request | setTelemetry key telemetry
      | refreshContacts staleCache | broadcast kind | reply result => rfl

/-- What follows the registration in `set_repeater_status`. -/
def announcedSteps
    (view : CommandView) (name : String) (status : Option RepeaterStatus) :
    List MeshStep :=
  [.broadcast (.repeaterStatusChanged name status),
    .refreshContacts view.staleCache,
    .reply (.ok ())]

theorem untouched_of_upsertSteps
    (request : RepeaterUpsert) (save : SaveOutcome) (view : CommandView)
    (name : String) (status : Option RepeaterStatus) :
    ∀ step ∈ upsertManagedRepeaterConfigSteps request save
      (announcedSteps view name status), step.touchesCompanion = false := by
  cases save <;>
    simp [upsertManagedRepeaterConfigSteps, announcedSteps,
      MeshStep.touchesCompanion]

theorem reply_of_upsertSteps_iff
    (request : RepeaterUpsert) (save : SaveOutcome) (view : CommandView)
    (name : String) (status : Option RepeaterStatus) :
    (upsertManagedRepeaterConfigSteps request save
      (announcedSteps view name status)).findSome? MeshStep.replied =
        some (.ok ()) ↔ save = .saved := by
  cases save <;>
    simp [upsertManagedRepeaterConfigSteps, announcedSteps,
      List.findSome?_cons, MeshStep.replied]

/-! ## Setting a status -/

/-- What `set_repeater_status` does for a status: it goes on to the
configuration at once if the repeater is taken for registered, and else gives
up or registers the node which was heard. -/
theorem setRepeaterStatusSteps_cases
    (daemon : Daemon) (view : CommandView) (publicKeyPrefixHex name : String)
    (status : RepeaterStatus) :
    ((∃ c ∈ view.cachedContacts, c.publicKeyPrefixHex = publicKeyPrefixHex) ∧
      ∃ request,
        setRepeaterStatusSteps daemon view publicKeyPrefixHex name
            (some status) =
          upsertManagedRepeaterConfigSteps request view.save
            (announcedSteps view name (some status))) ∨
    ((∀ c ∈ view.cachedContacts, c.publicKeyPrefixHex ≠ publicKeyPrefixHex) ∧
      ((∃ reason,
        setRepeaterStatusSteps daemon view publicKeyPrefixHex name
          (some status) = [.reply (.error reason)]) ∨
      ∃ node publicKey request,
        findDiscovered daemon.discovered publicKeyPrefixHex = some node ∧
        view.declaration = .ok publicKey ∧
        setRepeaterStatusSteps daemon view publicKeyPrefixHex name
            (some status) =
          .addToCompanion (declaredContact name publicKey) ::
            .broadcast (.managedRepeaterDeclared name) ::
              upsertManagedRepeaterConfigSteps request view.save
                (announcedSteps view name (some status)))) := by
  unfold setRepeaterStatusSteps
  simp only [Option.isSome_some, Bool.true_and, Bool.not_eq_true',
    List.any_eq_false, decide_eq_true_eq]
  split
  next hunregistered =>
    right
    refine ⟨hunregistered, ?_⟩
    split
    next => exact Or.inl ⟨_, rfl⟩
    next node hfind =>
      unfold declareSteps
      cases hdeclaration : view.declaration with
      | error reason => exact Or.inl ⟨_, rfl⟩
      | ok publicKey => exact Or.inr ⟨node, publicKey, _, hfind, rfl, rfl⟩
  next hregistered =>
    left
    refine ⟨?_, _, rfl⟩
    simpa using hregistered

theorem prefixHex_declared_of_heard
    {node : DiscoveredNode} {publicKey : Vector UInt8 32} {name : String}
    (hkey : asciiLowercase node.publicKeyHex = hexDigits publicKey.toList) :
    equalIgnoringCase (declaredContact name publicKey).prefixHex
      node.publicKeyPrefixHex = true := by
  have hnode : asciiLowercase node.publicKeyPrefixHex =
      hexDigits (publicKey.toList.take 6) := by
    rw [asciiLowercase, node.prefix_of_key, List.map_take, hexDigits_take,
      ← hkey]
    rfl
  rw [equalIgnoringCase, hnode, Contact.prefixHex, asciiLowercase_hexEncode]
  simp [Contact.prefixBytes, declaredContact]

section Status

variable [HexDecoder] {session : Session} {publicKeyPrefixHex name : String}
  {status : RepeaterStatus} {answers : SessionAnswers}

theorem publicKey_of_declarationOf
    (hdecodes : DecodesHex) {repeater : ManagedRepeater}
    {publicKey : Vector UInt8 32}
    (hdeclaration : answers.declarationOf repeater = .ok publicKey) :
    asciiLowercase repeater.publicKeyHex = hexDigits publicKey.toList := by
  unfold SessionAnswers.declarationOf at hdeclaration
  cases hdeclare : contactToDeclare repeater with
  | error reason => simp [hdeclare] at hdeclaration
  | ok d =>
      rw [fullKey_of_contactToDeclare hdecodes hdeclare]
      cases hanswer : answers.declaration with
      | error reason => simp [hdeclare, hanswer, Except.map] at hdeclaration
      | ok done =>
          simp only [hdeclare, hanswer, Except.map, Except.ok.injEq]
            at hdeclaration
          rw [hdeclaration]

theorem caches_iff_of_view (cmd : DaemonCommand) :
    (∃ c ∈ (session.view answers cmd).cachedContacts,
      c.publicKeyPrefixHex = publicKeyPrefixHex) ↔
        session.Caches publicKeyPrefixHex := by
  simp [Session.view, Session.staleContacts, Session.Caches]

/-- A repeater which the cache lists is taken for registered: nothing is done
about the companion. -/
theorem status_of_cached (hcached : session.Caches publicKeyPrefixHex) :
    (session.step (.command
        (.setRepeaterStatus publicKeyPrefixHex name (some status))
        answers)).daemon.companionContacts =
      session.daemon.companionContacts ∧
    (session.reply (.setRepeaterStatus publicKeyPrefixHex name (some status))
        answers = some (.ok ()) ↔ answers.others.save = .saved) := by
  rcases setRepeaterStatusSteps_cases session.daemon
      (session.view answers
        (.setRepeaterStatus publicKeyPrefixHex name (some status)))
      publicKeyPrefixHex name status with
    ⟨_, request, hsteps⟩ | ⟨hunlisted, _⟩
  · constructor
    · change ((setRepeaterStatusSteps _ _ _ _ _).foldl Session.afterStep
        session).daemon.companionContacts = _
      rw [daemon_foldl_afterStep, hsteps]
      exact companionContacts_of_untouched
        (untouched_of_upsertSteps request _ _ name _) session.daemon
    · change (setRepeaterStatusSteps _ _ _ _ _).findSome? MeshStep.replied =
        some (.ok ()) ↔ _
      rw [hsteps]
      exact reply_of_upsertSteps_iff request _ _ name _
  · obtain ⟨c, hmem, hkey⟩ := (caches_iff_of_view _).mpr hcached
    exact absurd hkey (hunlisted c hmem)

/-- A repeater which is not in the cache is registered before anything else. -/
theorem hasContact_of_uncached
    (hdecodes : DecodesHex) (huncached : ¬ session.Caches publicKeyPrefixHex)
    (hreply : session.reply
      (.setRepeaterStatus publicKeyPrefixHex name (some status)) answers =
        some (.ok ())) :
    (session.step (.command
      (.setRepeaterStatus publicKeyPrefixHex name (some status))
      answers)).daemon.HasContact publicKeyPrefixHex := by
  rcases setRepeaterStatusSteps_cases session.daemon
      (session.view answers
        (.setRepeaterStatus publicKeyPrefixHex name (some status)))
      publicKeyPrefixHex name status with
    ⟨hlisted, _⟩ | ⟨_, ⟨reason, hsteps⟩ |
      ⟨node, publicKey, request, hfind, hdeclaration, hsteps⟩⟩
  · exact absurd ((caches_iff_of_view _).mp hlisted) huncached
  · change (setRepeaterStatusSteps _ _ _ _ _).findSome? MeshStep.replied =
      _ at hreply
    rw [hsteps] at hreply
    exact absurd hreply (by simp [List.findSome?_cons, MeshStep.replied])
  · have hasked : answers.declarationOf
        ⟨name, node.publicKeyHex, none, status⟩ = .ok publicKey := by
      simpa [Session.view, hfind] using hdeclaration
    have hkey := publicKey_of_declarationOf hdecodes hasked
    have hname : node.publicKeyPrefixHex = publicKeyPrefixHex := by
      simpa using List.find?_some hfind
    refine ⟨declaredContact name publicKey, ?_, ?_⟩
    · change _ ∈ ((setRepeaterStatusSteps _ _ _ _ _).foldl Session.afterStep
        session).daemon.companionContacts
      rw [daemon_foldl_afterStep, hsteps, List.foldl_cons, List.foldl_cons,
        companionContacts_of_untouched
          (untouched_of_upsertSteps request _ _ name _)]
      simp [Daemon.afterStep]
    · rw [← hname]
      exact prefixHex_declared_of_heard hkey

/-- One command: setting a tier leaves the companion with the contact, exactly
if it had it where the cache lists it. -/
theorem tier_registered_iff (hdecodes : DecodesHex) (session : Session) :
    (session.reply (.setRepeaterStatus publicKeyPrefixHex name (some status))
        answers = some (.ok ()) →
      (session.step (.command
        (.setRepeaterStatus publicKeyPrefixHex name (some status))
        answers)).daemon.HasContact publicKeyPrefixHex) ↔
    (answers.others.save = .saved → session.Caches publicKeyPrefixHex →
      session.daemon.HasContact publicKeyPrefixHex) := by
  by_cases hcached : session.Caches publicKeyPrefixHex
  · obtain ⟨hcompanion, hreply⟩ :
        (session.step (.command
            (.setRepeaterStatus publicKeyPrefixHex name (some status))
            answers)).daemon.companionContacts =
          session.daemon.companionContacts ∧ _ := status_of_cached hcached
    unfold Daemon.HasContact
    rw [hreply, hcompanion]
    simp [hcached]
  · constructor
    · intro _ _ hlisted
      exact absurd hlisted hcached
    · intro _ hreply
      exact hasContact_of_uncached hdecodes hcached hreply

/-- Whenever a tier is set successfully in a session, the companion has the
contact right after: this holds exactly if it has the contact whenever a tier
is set and saved for a repeater which the contact list last read has. -/
theorem tiers_registered_iff
    (hdecodes : DecodesHex) (start : Session) (actions : List SessionAction) :
    (∀ before publicKeyPrefixHex name status answers,
      before ++ [.command (.setRepeaterStatus publicKeyPrefixHex name
        (some status)) answers] <+: actions →
      (start.after before).reply (.setRepeaterStatus publicKeyPrefixHex name
        (some status)) answers = some (.ok ()) →
      (start.after (before ++ [.command (.setRepeaterStatus publicKeyPrefixHex
        name (some status)) answers])).daemon.HasContact publicKeyPrefixHex) ↔
    ∀ before publicKeyPrefixHex name status answers,
      before ++ [.command (.setRepeaterStatus publicKeyPrefixHex name
        (some status)) answers] <+: actions →
      answers.others.save = .saved →
      (start.after before).Caches publicKeyPrefixHex →
      (start.after before).daemon.HasContact publicKeyPrefixHex := by
  have hlast : ∀ before action,
      start.after (before ++ [action]) = (start.after before).step action := by
    intro before action
    rw [Session.after, List.foldl_append]
    rfl
  simp only [hlast, tier_registered_iff hdecodes]

end Status

/-! ## A removed contact -/

section Example

attribute [local instance] plainDecoder

/-- A session which starts with the hilltop repeater registered. -/
def Session.hilltop : Session where
  daemon := { Daemon.bare with companionContacts := [MeshController.hilltop] }
  cache := [MeshController.hilltop]

/-- The same, and the repeater was heard. -/
def Session.hilltopHeard : Session :=
  { Session.hilltop with
    daemon := { Session.hilltop.daemon with discovered := [heardHilltop] } }

def SessionAnswers.succeeding : SessionAnswers where
  removal := .ok ()
  declaration := .ok ()
  others := { CommandView.offline [] with staleCache := none }

/-- All succeeds but the fetch which follows. -/
def SessionAnswers.unfetched : SessionAnswers :=
  { SessionAnswers.succeeding with others := .offline [] }

/-- The repeater is removed and made a supervised one again. -/
theorem tiers_registered_iff_hilltop :
    (Session.hilltopHeard.after
      [.command (.removeContact "abababababab") .succeeding,
        .command (.setRepeaterStatus "abababababab" "hilltop"
          (some .supervised)) .succeeding]).daemon.HasContact
            "abababababab" := by
  have hregistered := (tiers_registered_iff decodesHex_plainDecoder
    .hilltopHeard
    [.command (.removeContact "abababababab") .succeeding,
      .command (.setRepeaterStatus "abababababab" "hilltop"
        (some .supervised)) .succeeding]).mpr ?_
  · exact hregistered [.command (.removeContact "abababababab") .succeeding]
      _ "hilltop" .supervised .succeeding (List.prefix_refl _) rfl
  · intro before key name status answers hfront _ hcached
    cases before with
    | nil => simp at hfront
    | cons action rest =>
        rw [List.cons_append, List.cons_prefix_cons] at hfront
        rcases hfront with ⟨rfl, hrest⟩
        cases rest with
        | cons other others => simp at hrest
        | nil =>
            -- the fetch after the removal has emptied the cache
            obtain ⟨c, hmem, _⟩ := hcached
            have hnone : (Session.hilltopHeard.after
                [.command (.removeContact "abababababab")
                  .succeeding]).cache = [] := rfl
            rw [hnone] at hmem
            exact absurd hmem List.not_mem_nil

/-- The repeater is removed, the fetch which follows fails, and it is made a
managed one: the answer is a success, and the companion has no contact. -/
theorem tier_unregistered_of_removal :
    ¬ ∀ (start : Session) (actions : List SessionAction),
      start.cache = start.daemon.companionContacts →
      ∀ before publicKeyPrefixHex name status answers,
        before ++ [.command (.setRepeaterStatus publicKeyPrefixHex name
          (some status)) answers] <+: actions →
        (start.after before).reply (.setRepeaterStatus publicKeyPrefixHex name
          (some status)) answers = some (.ok ()) →
        (start.after (before ++ [.command (.setRepeaterStatus
          publicKeyPrefixHex name (some status))
            answers])).daemon.HasContact publicKeyPrefixHex := by
  intro hclaim
  have hcontact := hclaim .hilltop
    [.command (.removeContact "abababababab") .unfetched,
      .command (.setRepeaterStatus "abababababab" "hilltop" (some .managed))
        .succeeding] rfl
    [.command (.removeContact "abababababab") .unfetched] _ _ _ _
    (List.prefix_refl _) rfl
  have hnone : (Session.hilltop.after
      [.command (.removeContact "abababababab") .unfetched,
        .command (.setRepeaterStatus "abababababab" "hilltop" (some .managed))
          .succeeding]).daemon.companionContacts = [] := rfl
  obtain ⟨c, hmem, _⟩ := hcontact
  rw [List.singleton_append, hnone] at hmem
  exact absurd hmem List.not_mem_nil

end Example

end MeshController
