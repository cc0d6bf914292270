import MeshController.ConfigReload
import MeshController.RepeaterRegistration

/-!
# Entries which can be declared again

After a reset of the companion a repeater is declared from its configuration
entry alone, which takes its full key.  A command brings a full key into the
configuration whenever it registers a node; a status set for a repeater which
is already a contact and has no entry is stored under the prefix it was given.
-/

namespace MeshController

open HexEncoding MeshClient

/-! ## Full keys -/

/-- The 64 hexadecimal digits of a public key, in either case. -/
def IsFullKey (text : String) : Prop :=
  text.toList.length = 64 ∧ ∀ c ∈ text.toList, isHexDigit c = true

instance decidableIsFullKey (text : String) : Decidable (IsFullKey text) :=
  inferInstanceAs (Decidable (_ ∧ _))

theorem toNat_lt_of_isHexDigit {c : Char} (hdigit : isHexDigit c = true) :
    c.toNat < 128 := by
  simp only [isHexDigit, Char.isDigit, Bool.or_eq_true, Bool.and_eq_true,
    decide_eq_true_eq, Char.le_def, UInt32.le_iff_toNat_le] at hdigit
  have hval : c.toNat = c.val.toNat := rfl
  rw [hval]
  rcases hdigit with (⟨_, hle⟩ | ⟨_, hle⟩) | ⟨_, hle⟩
  · exact hle.trans_lt (by decide)
  · exact hle.trans_lt (by decide)
  · exact hle.trans_lt (by decide)

theorem toNat_lt_of_digitValue
    {c : Char} {digit : ℕ} (hvalue : digitValue c = some digit) :
    c.toNat < 128 := by
  obtain ⟨hlt, hdigit⟩ := digitValue_eq_some_iff.mp hvalue
  have hall : ∀ i : Fin 16, (Nat.digitChar i.val).toNat < 128 := by decide
  have hascii := hall ⟨digit, hlt⟩
  simp only [hdigit] at hascii
  unfold Char.toLower at hascii
  split at hascii
  next hupper =>
    have hle := hupper.2
    rw [UInt32.le_iff_toNat_le] at hle
    exact hle.trans_lt (by decide)
  next => exact hascii

theorem isHexDigit_iff (c : Char) :
    isHexDigit c = true ↔ ∃ digit, digitValue c = some digit := by
  have hascii : ∀ n : Fin 128, isHexDigit (Char.ofNat n.val) =
      (digitValue (Char.ofNat n.val)).isSome := by decide
  rw [← Option.isSome_iff_exists]
  constructor
  · intro hdigit
    have hsame := hascii ⟨c.toNat, toNat_lt_of_isHexDigit hdigit⟩
    rw [Char.ofNat_toNat] at hsame
    exact hsame ▸ hdigit
  · intro hvalue
    obtain ⟨digit, hdigit⟩ := Option.isSome_iff_exists.mp hvalue
    have hsame := hascii ⟨c.toNat, toNat_lt_of_digitValue hdigit⟩
    rw [Char.ofNat_toNat] at hsame
    exact hsame ▸ hvalue

/-- Digits in pairs are the digits of bytes. -/
theorem decodeDigits_isSome_iff (text : List Char) (count : ℕ) :
    (∃ bytes, decodeDigits text = some bytes ∧ bytes.length = count) ↔
      text.length = 2 * count ∧ ∀ c ∈ text, isHexDigit c = true := by
  induction text using decodeDigits.induct generalizing count with
  | case1 =>
      simp only [decodeDigits, Option.some.injEq, exists_eq_left',
        List.length_nil, List.not_mem_nil, false_imp_iff, implies_true,
        and_true]
      omega
  | case2 c =>
      simp only [decodeDigits, reduceCtorEq, false_and, exists_false,
        List.length_singleton, false_iff, not_and]
      omega
  | case3 high low rest ih =>
      simp only [decodeDigits, Option.bind_eq_bind, Option.bind_eq_some_iff,
        Option.some.injEq, List.length_cons, List.forall_mem_cons,
        isHexDigit_iff high, isHexDigit_iff low]
      constructor
      · rintro ⟨bytes, ⟨first, hhigh, second, hlow, others, hothers, rfl⟩,
          hlength⟩
        have hrest := (ih others.length).mp ⟨others, hothers, rfl⟩
        rw [List.length_cons] at hlength
        exact ⟨by omega, ⟨first, hhigh⟩, ⟨second, hlow⟩, hrest.2⟩
      · rintro ⟨hlength, ⟨first, hhigh⟩, ⟨second, hlow⟩, hdigits⟩
        obtain ⟨others, hothers, hcount⟩ :=
          (ih (count - 1)).mpr ⟨by omega, hdigits⟩
        refine ⟨_, ⟨first, hhigh, second, hlow, others, hothers, rfl⟩, ?_⟩
        rw [List.length_cons]
        omega

theorem isFullKey_iff (text : String) :
    IsFullKey text ↔
      ∃ key : Vector UInt8 32, asciiLowercase text = hexDigits key.toList := by
  rw [IsFullKey, ← decodeDigits_isSome_iff text.toList 32]
  constructor
  · rintro ⟨bytes, hbytes, hlength⟩
    refine ⟨⟨bytes.toArray, by simpa using hlength⟩, ?_⟩
    exact decodeDigits_eq_some_iff.mp hbytes
  · rintro ⟨key, hkey⟩
    exact ⟨key.toList, decodeDigits_eq_some_iff.mpr hkey, key.length_toList⟩

theorem contactToDeclare_of_isFullKey
    [HexDecoder] (hdecodes : DecodesHex) {repeater : ManagedRepeater}
    (hfull : IsFullKey repeater.publicKeyHex) :
    ∃ contact, contactToDeclare repeater = .ok contact := by
  obtain ⟨key, hkey⟩ := (isFullKey_iff _).mp hfull
  exact ⟨_, contactToDeclare_of_fullKey hdecodes hkey⟩

theorem isFullKey_of_checked
    {text : String} (hsize : text.utf8ByteSize = 64)
    (hdigits : text.toList.all isHexDigit = true) : IsFullKey text := by
  rw [List.all_eq_true] at hdigits
  have hlength := utf8ByteSize_ofList_of_ascii fun c hmem =>
    toNat_lt_of_isHexDigit (hdigits c hmem)
  rw [String.ofList_toList, hsize] at hlength
  exact ⟨hlength.symm, hdigits⟩

/-! ## The edits of a command -/

def MeshStep.edit : MeshStep → Option RepeaterUpsert
  | .upsertConfig request => some request
  | _ => none

theorem managedRepeaters_foldl_afterStep
    (steps : List MeshStep) (daemon : Daemon) :
    (steps.foldl Daemon.afterStep daemon).config.managedRepeaters =
      (steps.filterMap MeshStep.edit).foldl upsertManagedRepeater
        daemon.config.managedRepeaters := by
  induction steps generalizing daemon with
  | nil => rfl
  | cons step rest ih =>
      rw [List.foldl_cons, ih]
      cases step with
      | saveConfig outcome => cases outcome <;> rfl
      | removeFromCompanion contact | addToCompanion contact
      | upsertConfig request | setTelemetry key telemetry
      | refreshContacts staleCache | broadcast kind | reply result => rfl

theorem edits_upsertManagedRepeaterConfig
    (request : RepeaterUpsert) (save : SaveOutcome)
    {afterwards : List MeshStep}
    (hafterwards : afterwards.filterMap MeshStep.edit = []) :
    (upsertManagedRepeaterConfigSteps request save
      afterwards).filterMap MeshStep.edit = [request] := by
  cases save with
  | failed reason left => rfl
  | saved =>
      simp only [upsertManagedRepeaterConfigSteps, List.filterMap_cons,
        MeshStep.edit]
      rw [hafterwards]

/-- What an edit may bring into the configuration: a full key, or the prefix
of a repeater which the companion already lists. -/
def RepeaterUpsert.Resolves (request : RepeaterUpsert) (view : CommandView)
    (cmd : DaemonCommand) : Prop :=
  (∃ key ∈ request.resolvedFullKeyHex, IsFullKey key) ∨
    request.resolvedFullKeyHex = none ∧
      (request.status = none ∨
        ∃ name status,
          cmd = .setRepeaterStatus request.publicKeyPrefixHex name
            (some status) ∧
          ∃ c ∈ view.cachedContacts,
            c.publicKeyPrefixHex = request.publicKeyPrefixHex)

theorem edits_declareSteps
    {view : CommandView} {name : String} {afterwards : List MeshStep}
    {request : RepeaterUpsert}
    (hafterwards : afterwards.filterMap MeshStep.edit = [request]) :
    (declareSteps view name afterwards).filterMap MeshStep.edit = [] ∨
      (declareSteps view name afterwards).filterMap MeshStep.edit =
          [request] ∧
        ∃ publicKey, view.declaration = .ok publicKey := by
  unfold declareSteps
  cases hdeclaration : view.declaration with
  | error reason => exact Or.inl rfl
  | ok publicKey => exact Or.inr ⟨hafterwards, publicKey, rfl⟩

section Commands

variable [HexDecoder]

/-- A command makes at most one edit, and it resolves. -/
def EditsResolve (session : Session) (cmd : DaemonCommand)
    (answers : SessionAnswers) : Prop :=
  (session.steps cmd answers).filterMap MeshStep.edit = [] ∨
    ∃ request : RepeaterUpsert,
      (session.steps cmd answers).filterMap MeshStep.edit = [request] ∧
        request.Resolves (session.view answers cmd) cmd

theorem editsResolve_setRepeaterStatus
    (hdecodes : DecodesHex) (session : Session)
    (publicKeyPrefixHex name : String) (status : Option RepeaterStatus)
    (answers : SessionAnswers) :
    EditsResolve session
      (.setRepeaterStatus publicKeyPrefixHex name status) answers := by
  let cmd : DaemonCommand := .setRepeaterStatus publicKeyPrefixHex name status
  let view := session.view answers cmd
  have hannounced :
      [MeshStep.broadcast (.repeaterStatusChanged name status),
        .refreshContacts view.staleCache,
        .reply (.ok ())].filterMap MeshStep.edit = [] := rfl
  unfold EditsResolve
  change (setRepeaterStatusSteps session.daemon view publicKeyPrefixHex name
    status).filterMap MeshStep.edit = [] ∨ ∃ request : RepeaterUpsert,
      (setRepeaterStatusSteps session.daemon view publicKeyPrefixHex name
        status).filterMap MeshStep.edit = [request] ∧
          request.Resolves view cmd
  unfold setRepeaterStatusSteps
  simp only
  split
  next hunregistered =>
    split
    next => exact Or.inl rfl
    next node hfind =>
      rcases edits_declareSteps
        (edits_upsertManagedRepeaterConfig _ view.save hannounced) with
        hnone | ⟨hone, publicKey, hdeclaration⟩
      · exact Or.inl hnone
      · refine Or.inr ⟨_, hone, Or.inl ⟨_, rfl, ?_⟩⟩
        have hview : view.declaration = answers.declarationOf
            ⟨name, node.publicKeyHex, none, status.getD .managed⟩ := by
          simp only [view, cmd, Session.view, hfind]
        rw [hview] at hdeclaration
        exact (isFullKey_iff _).mpr
          ⟨publicKey, publicKey_of_declarationOf hdecodes hdeclaration⟩
  next hregistered =>
    refine Or.inr ⟨_, edits_upsertManagedRepeaterConfig _ view.save hannounced,
      Or.inr ⟨rfl, ?_⟩⟩
    cases hstatus : status with
    | none => exact Or.inl rfl
    | some newStatus =>
        right
        refine ⟨name, newStatus, by simp only [cmd, hstatus], ?_⟩
        simpa [hstatus] using hregistered

theorem editsResolve_addRepeater
    (session : Session) (publicKeyHex name : String) (managed : Bool)
    (answers : SessionAnswers) :
    EditsResolve session (.addRepeater publicKeyHex name managed)
      answers := by
  let view := session.view answers (.addRepeater publicKeyHex name managed)
  have hfinished :
      [MeshStep.refreshContacts view.staleCache,
        .reply (.ok ())].filterMap MeshStep.edit = [] := rfl
  unfold EditsResolve
  change (addRepeaterSteps view publicKeyHex name managed).filterMap
      MeshStep.edit = [] ∨ ∃ request : RepeaterUpsert,
    (addRepeaterSteps view publicKeyHex name managed).filterMap
        MeshStep.edit = [request] ∧ request.Resolves view _
  unfold addRepeaterSteps
  split
  next => exact Or.inl rfl
  next hchecked =>
    rw [not_or, not_not, Bool.not_eq_true', Bool.not_eq_false] at hchecked
    have hfull := isFullKey_of_checked hchecked.1 hchecked.2
    cases managed with
    | false =>
        left
        simp only [Bool.false_eq_true, if_false]
        split
        next => rfl
        next =>
          unfold declareSteps
          cases view.declaration <;> rfl
    | true =>
        simp only [if_true]
        split
        next =>
          exact Or.inr ⟨_,
            edits_upsertManagedRepeaterConfig _ view.save hfinished,
            Or.inl ⟨_, rfl, hfull⟩⟩
        next =>
          rcases edits_declareSteps
            (edits_upsertManagedRepeaterConfig _ view.save hfinished) with
            hnone | ⟨hone, _⟩
          · exact Or.inl hnone
          · exact Or.inr ⟨_, hone, Or.inl ⟨_, rfl, hfull⟩⟩

theorem editsResolve_of_command
    (hdecodes : DecodesHex) (session : Session) (cmd : DaemonCommand)
    (answers : SessionAnswers) : EditsResolve session cmd answers := by
  cases hedits : cmd.editsConfig with
  | false =>
      refine Or.inl (List.filterMap_eq_nil_iff.mpr ?_)
      intro step hmem
      have huntouched := untouched_handleCommand session.daemon
        (session.view answers cmd) hedits step hmem
      cases step with
      | upsertConfig request => cases huntouched
      | saveConfig outcome | removeFromCompanion contact
      | addToCompanion contact | setTelemetry key telemetry
      | refreshContacts staleCache | broadcast kind | reply result => rfl
  | true =>
      cases cmd with
      | setRepeaterStatus publicKeyPrefixHex name status =>
          exact editsResolve_setRepeaterStatus hdecodes session
            publicKeyPrefixHex name status answers
      | addRepeater publicKeyHex name managed =>
          exact editsResolve_addRepeater session publicKeyHex name managed
            answers
      | removeContact publicKeyPrefixHex
      | requestTelemetry publicKeyPrefixHex
      | requestRepeaterDetail publicKeyPrefixHex | refreshNodeStats
      | signData data | resyncObserverConfig => cases hedits

end Commands

/-! ## The keys after an edit -/

/-- Every key in the list afterwards was there before, or came with the edit,
or is the prefix of a repeater which had no entry. -/
theorem key_of_mem_upsertManagedRepeater
    {repeaters : List ManagedRepeater} {request : RepeaterUpsert}
    {entry : ManagedRepeater}
    (hmem : entry ∈ upsertManagedRepeater repeaters request) :
    (∃ old ∈ repeaters, old.publicKeyHex = entry.publicKeyHex) ∨
      request.resolvedFullKeyHex = some entry.publicKeyHex ∨
      request.resolvedFullKeyHex = none ∧
        request.publicKeyPrefixHex = entry.publicKeyHex ∧
        request.status ≠ none ∧
        ∀ r ∈ repeaters, r.matches request.publicKeyPrefixHex = false := by
  induction repeaters with
  | nil =>
      rw [upsertManagedRepeater_nil] at hmem
      cases hstatus : request.status with
      | none => simp [hstatus] at hmem
      | some newStatus =>
          simp only [hstatus, Option.map_some, Option.toList_some,
            List.mem_singleton] at hmem
          rw [hmem]
          cases hkey : request.resolvedFullKeyHex with
          | none => simp [RepeaterUpsert.created, hkey]
          | some key => simp [RepeaterUpsert.created, hkey]
  | cons repeater rest ih =>
      cases hmatches : repeater.matches request.publicKeyPrefixHex with
      | true =>
          rw [upsertManagedRepeater_cons_of_matches hmatches] at hmem
          rcases List.mem_append.mp hmem with hupdated | hrest
          · cases hstatus : request.status with
            | none => simp [hstatus] at hupdated
            | some newStatus =>
                simp only [hstatus, Option.map_some, Option.toList_some,
                  List.mem_singleton] at hupdated
                rw [hupdated]
                cases hkey : request.resolvedFullKeyHex with
                | none =>
                    left
                    exact ⟨repeater, List.mem_cons_self,
                      by simp [RepeaterUpsert.updated, hkey]⟩
                | some key => simp [RepeaterUpsert.updated, hkey]
          · exact Or.inl ⟨entry, List.mem_cons_of_mem _ hrest, rfl⟩
      | false =>
          rw [upsertManagedRepeater_cons_of_not_matches hmatches] at hmem
          rcases List.mem_cons.mp hmem with rfl | hrest
          · exact Or.inl ⟨entry, List.mem_cons_self, rfl⟩
          · rcases ih hrest with ⟨old, hold, hkey⟩ | hresolved |
              ⟨hnone, hstored, hstatus, hunmatched⟩
            · exact Or.inl ⟨old, List.mem_cons_of_mem _ hold, hkey⟩
            · exact Or.inr (Or.inl hresolved)
            · refine Or.inr (Or.inr ⟨hnone, hstored, hstatus, ?_⟩)
              rw [List.forall_mem_cons]
              exact ⟨hmatches, hunmatched⟩

/-! ## Over any sequence of commands -/

/-- What happens in a session, with reconnections which read the contact list
again, and nodes overheard in between. -/
inductive RegistryAction where
  | session (action : SessionAction)
  | reconnect (cache : List Contact)
  | hear (discovered : List DiscoveredNode)

section Registry

variable [HexDecoder]

def Session.advance (session : Session) : RegistryAction → Session
  | .session action => session.step action
  | .reconnect cache => { session with cache := cache }
  | .hear discovered =>
      { session with
        daemon := { session.daemon with discovered := discovered } }

def Session.entries (session : Session) : List ManagedRepeater :=
  session.daemon.config.managedRepeaters

/-- The action sets a status for the repeater with this prefix, which is a
contact already, as far as the list last read says, and has no entry. -/
def Session.StoresPrefix (session : Session) (action : RegistryAction)
    (publicKeyPrefixHex : String) : Prop :=
  ∃ name status answers,
    action = .session (.command (.setRepeaterStatus publicKeyPrefixHex name
      (some status)) answers) ∧
    session.Caches publicKeyPrefixHex ∧
    ∀ r ∈ session.entries, r.matches publicKeyPrefixHex = false

theorem key_of_mem_advance
    (hdecodes : DecodesHex) (session : Session) (action : RegistryAction)
    {entry : ManagedRepeater}
    (hmem : entry ∈ (session.advance action).entries) :
    (∃ old ∈ session.entries, old.publicKeyHex = entry.publicKeyHex) ∨
      IsFullKey entry.publicKeyHex ∨
      session.StoresPrefix action entry.publicKeyHex := by
  rcases action with (⟨cmd, answers⟩ | contacts | fetched) | cache | discovered
  case session.nodeChanges | session.refresh | reconnect | hear =>
      exact Or.inl ⟨entry, hmem, rfl⟩
  case session.command =>
      change entry ∈ ((session.steps cmd answers).foldl Session.afterStep
        session).daemon.config.managedRepeaters at hmem
      rw [daemon_foldl_afterStep, managedRepeaters_foldl_afterStep] at hmem
      rcases editsResolve_of_command hdecodes session cmd answers with
        hnone | ⟨request, hone, hresolves⟩
      · rw [hnone] at hmem
        exact Or.inl ⟨entry, hmem, rfl⟩
      · rw [hone, List.foldl_cons, List.foldl_nil] at hmem
        rcases key_of_mem_upsertManagedRepeater hmem with
          hold | hresolved | ⟨hnone, hstored, hstatus, hunmatched⟩
        · exact Or.inl hold
        · rcases hresolves with ⟨key, hkey, hfull⟩ | ⟨hnone, _⟩
          · rw [Option.mem_def, hresolved, Option.some.injEq] at hkey
            exact Or.inr (Or.inl (hkey ▸ hfull))
          · rw [hresolved] at hnone
            cases hnone
        · rcases hresolves with ⟨key, hkey, _⟩ |
            ⟨_, hcleared | ⟨name, status, hcmd, hcached⟩⟩
          · rw [Option.mem_def, hnone] at hkey
            cases hkey
          · exact absurd hcleared hstatus
          · right
            right
            rw [hstored] at hcmd hcached hunmatched
            exact ⟨name, status, answers, by rw [hcmd],
              (caches_iff_of_view cmd).mp hcached, hunmatched⟩

/-- Starting from full keys, every entry keeps one and can be declared from
the configuration alone, unless its key is the bare prefix of a status set for
a contact which had no entry. -/
theorem entries_redeclarable
    (hdecodes : DecodesHex) (start : Session)
    (hstart : ∀ r ∈ start.entries, IsFullKey r.publicKeyHex)
    (actions : List RegistryAction) :
    ∀ entry ∈ (actions.foldl Session.advance start).entries,
      (IsFullKey entry.publicKeyHex ∧
        ∃ contact, contactToDeclare entry = .ok contact) ∨
      ∃ before action after, actions = before ++ action :: after ∧
        (before.foldl Session.advance start).StoresPrefix action
          entry.publicKeyHex := by
  have hkeys : ∀ entry ∈ (actions.foldl Session.advance start).entries,
      IsFullKey entry.publicKeyHex ∨
        ∃ before action after, actions = before ++ action :: after ∧
          (before.foldl Session.advance start).StoresPrefix action
            entry.publicKeyHex := by
    induction actions using List.reverseRecOn with
    | nil => exact fun entry hmem => Or.inl (hstart entry hmem)
    | append_singleton before action ih =>
        intro entry hmem
        rw [List.foldl_append, List.foldl_cons, List.foldl_nil] at hmem
        rcases key_of_mem_advance hdecodes _ action hmem with
          ⟨old, hold, hkey⟩ | hfull | hstored
        · rcases ih old hold with
            hfull | ⟨first, earlier, rest, hsplit, hstored⟩
          · exact Or.inl (hkey ▸ hfull)
          · right
            refine ⟨first, earlier, rest ++ [action], ?_, hkey ▸ hstored⟩
            rw [hsplit, List.append_assoc, List.cons_append]
        · exact Or.inl hfull
        · exact Or.inr ⟨before, action, [], rfl, hstored⟩
  intro entry hmem
  rcases hkeys entry hmem with hfull | hstored
  · exact Or.inl ⟨hfull, contactToDeclare_of_isFullKey hdecodes hfull⟩
  · exact Or.inr hstored

end Registry

section Example

attribute [local instance] plainDecoder

/-- The hilltop repeater is a contact and has no entry: making it a managed
one stores its twelve digits. -/
def hilltopManaged : RegistryAction :=
  .session (.command (.setRepeaterStatus "abababababab" "hilltop"
    (some .managed)) .succeeding)

theorem isFullKey_hilltop :
    ∀ r ∈ Session.hilltop.entries, IsFullKey r.publicKeyHex := by
  simp [Session.entries, Session.hilltop, Daemon.bare, Config.bare]

/-- The hilltop repeater is declared without an entry, in a session which
starts with no contact at all. -/
def hilltopDeclared : RegistryAction :=
  .session (.command (.addRepeater
    "abababababababababababababababababababababababababababababababab"
    "hilltop" false) .succeeding)

theorem entries_redeclarable_hilltop :
    ∃ before action after,
      [hilltopDeclared, hilltopManaged] = before ++ action :: after ∧
      (before.foldl Session.advance ⟨.bare, []⟩).StoresPrefix action
        "abababababab" := by
  have hnoEntry : ∀ r ∈ Session.entries ⟨.bare, []⟩,
      IsFullKey r.publicKeyHex := List.forall_mem_nil _
  rcases entries_redeclarable decodesHex_plainDecoder ⟨.bare, []⟩ hnoEntry
    [hilltopDeclared, hilltopManaged]
    ⟨"hilltop", "abababababab", none, .managed⟩
    (List.mem_singleton_self _) with ⟨hfull, _⟩ | hstored
  · exact absurd hfull (by decide)
  · exact hstored

theorem entry_not_redeclarable_of_contact :
    ¬ ∀ (start : Session) (actions : List RegistryAction),
      (∀ r ∈ start.entries, IsFullKey r.publicKeyHex) →
        ∀ entry ∈ (actions.foldl Session.advance start).entries,
          IsFullKey entry.publicKeyHex := by
  intro hclaim
  have hfull := hclaim .hilltop [hilltopManaged] isFullKey_hilltop
    ⟨"hilltop", "abababababab", none, .managed⟩ (List.mem_singleton_self _)
  revert hfull
  decide

end Example

end MeshController
