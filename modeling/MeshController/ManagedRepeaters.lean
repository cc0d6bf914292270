import MeshController.Config

/-!
# The managed-repeater list

Matching contacts against configured repeaters, and the one function which
edits the list at runtime.  An edit for one prefix leaves the entries of every
other repeater alone: this frame fact is what the concurrency results about
the configuration rest on.
-/

namespace MeshController

/-- The letters of a string after `to_ascii_lowercase`. -/
def asciiLowercase (text : String) : List Char :=
  text.toList.map Char.toLower

def ManagedRepeater.matches
    (repeater : ManagedRepeater) (contactPublicKeyPrefixHex : String) : Bool :=
  (asciiLowercase contactPublicKeyPrefixHex).isPrefixOf
    (asciiLowercase repeater.publicKeyHex)

def matchingRepeaterStatus
    (managedRepeaters : List ManagedRepeater) (publicKeyPrefixHex : String) :
    Option RepeaterStatus :=
  (managedRepeaters.find? fun r => r.matches publicKeyPrefixHex).map
    fun r => r.status

/-- What a command asks of the managed-repeater list.  A resolved key always
is a key of the repeater the command names. -/
structure RepeaterUpsert where
  publicKeyPrefixHex : String
  name : String
  status : Option RepeaterStatus
  resolvedFullKeyHex : Option String
  resolved_matches : ∀ key ∈ resolvedFullKeyHex,
    asciiLowercase publicKeyPrefixHex <+: asciiLowercase key
deriving DecidableEq

/-- The edit `upsert_managed_repeater_config` makes under the config lock. -/
def upsertManagedRepeater
    (repeaters : List ManagedRepeater) (request : RepeaterUpsert) :
    List ManagedRepeater :=
  let existingIndex :=
    repeaters.findIdx? fun r => r.matches request.publicKeyPrefixHex
  match request.status, existingIndex with
  | some newStatus, some index =>
      repeaters.modify index fun r =>
        { r with
          name := request.name
          status := newStatus
          publicKeyHex := request.resolvedFullKeyHex.getD r.publicKeyHex }
  | some newStatus, none =>
      repeaters ++ [{
        name := request.name
        publicKeyHex :=
          request.resolvedFullKeyHex.getD request.publicKeyPrefixHex
        password := none
        status := newStatus }]
  | none, some index => repeaters.eraseIdx index
  | none, none => repeaters

def Config.upsertManagedRepeater
    (config : Config) (request : RepeaterUpsert) : Config :=
  { config with
    managedRepeaters :=
      MeshController.upsertManagedRepeater config.managedRepeaters request }

/-! ## Matching -/

theorem ManagedRepeater.matches_iff
    (repeater : ManagedRepeater) (publicKeyPrefixHex : String) :
    repeater.matches publicKeyPrefixHex = true ↔
      asciiLowercase publicKeyPrefixHex <+:
        asciiLowercase repeater.publicKeyHex := by
  simp [ManagedRepeater.matches]

/-- Two prefixes which can both name one and the same repeater. -/
def SameRepeater (first second : String) : Prop :=
  asciiLowercase first <+: asciiLowercase second ∨
    asciiLowercase second <+: asciiLowercase first

instance (first second : String) : Decidable (SameRepeater first second) :=
  inferInstanceAs (Decidable (_ ∨ _))

theorem SameRepeater.symm {first second : String}
    (hsame : SameRepeater first second) : SameRepeater second first :=
  Or.symm hsame

theorem sameRepeater_of_matches
    {repeater : ManagedRepeater} {first second : String}
    (hfirst : repeater.matches first = true)
    (hsecond : repeater.matches second = true) :
    SameRepeater first second :=
  List.prefix_or_prefix_of_prefix
    ((repeater.matches_iff first).mp hfirst)
    ((repeater.matches_iff second).mp hsecond)

theorem sameRepeater_iff_exists_matches (first second : String) :
    SameRepeater first second ↔
      ∃ repeater : ManagedRepeater,
        repeater.matches first = true ∧ repeater.matches second = true := by
  constructor
  · rintro (hfirst | hsecond)
    · refine ⟨⟨"", second, none, .managed⟩, ?_, ?_⟩
      · exact (ManagedRepeater.matches_iff _ _).mpr hfirst
      · exact (ManagedRepeater.matches_iff _ _).mpr (List.prefix_refl _)
    · refine ⟨⟨"", first, none, .managed⟩, ?_, ?_⟩
      · exact (ManagedRepeater.matches_iff _ _).mpr (List.prefix_refl _)
      · exact (ManagedRepeater.matches_iff _ _).mpr hsecond
  · rintro ⟨repeater, hfirst, hsecond⟩
    exact sameRepeater_of_matches hfirst hsecond

/-! ## The edit, entry by entry -/

def RepeaterUpsert.updated
    (request : RepeaterUpsert) (newStatus : RepeaterStatus)
    (repeater : ManagedRepeater) : ManagedRepeater :=
  { repeater with
    name := request.name
    status := newStatus
    publicKeyHex := request.resolvedFullKeyHex.getD repeater.publicKeyHex }

def RepeaterUpsert.created
    (request : RepeaterUpsert) (newStatus : RepeaterStatus) :
    ManagedRepeater where
  name := request.name
  publicKeyHex := request.resolvedFullKeyHex.getD request.publicKeyPrefixHex
  password := none
  status := newStatus

theorem upsertManagedRepeater_nil (request : RepeaterUpsert) :
    upsertManagedRepeater [] request =
      (request.status.map request.created).toList := by
  cases hstatus : request.status with
  | none => simp [upsertManagedRepeater, hstatus]
  | some newStatus =>
      simp [upsertManagedRepeater, hstatus, RepeaterUpsert.created]

theorem upsertManagedRepeater_cons_of_matches
    {repeater : ManagedRepeater} {request : RepeaterUpsert}
    (hmatches : repeater.matches request.publicKeyPrefixHex = true)
    (rest : List ManagedRepeater) :
    upsertManagedRepeater (repeater :: rest) request =
      (request.status.map fun newStatus =>
        request.updated newStatus repeater).toList ++ rest := by
  cases hstatus : request.status with
  | none =>
      simp [upsertManagedRepeater, hstatus, List.findIdx?_cons, hmatches]
  | some newStatus =>
      simp [upsertManagedRepeater, hstatus, List.findIdx?_cons, hmatches,
        RepeaterUpsert.updated]

theorem upsertManagedRepeater_cons_of_not_matches
    {repeater : ManagedRepeater} {request : RepeaterUpsert}
    (hmatches : repeater.matches request.publicKeyPrefixHex = false)
    (rest : List ManagedRepeater) :
    upsertManagedRepeater (repeater :: rest) request =
      repeater :: upsertManagedRepeater rest request := by
  cases hstatus : request.status <;>
    cases hindex : rest.findIdx? fun r =>
        r.matches request.publicKeyPrefixHex <;>
      simp [upsertManagedRepeater, hstatus, List.findIdx?_cons, hmatches,
        hindex]

theorem RepeaterUpsert.created_matches
    (request : RepeaterUpsert) (newStatus : RepeaterStatus) :
    (request.created newStatus).matches request.publicKeyPrefixHex = true := by
  rw [ManagedRepeater.matches_iff]
  cases hkey : request.resolvedFullKeyHex with
  | none => simp [RepeaterUpsert.created, hkey]
  | some key =>
      simpa [RepeaterUpsert.created, hkey] using
        request.resolved_matches key hkey

theorem RepeaterUpsert.updated_matches
    (request : RepeaterUpsert) (newStatus : RepeaterStatus)
    {repeater : ManagedRepeater}
    (hmatches : repeater.matches request.publicKeyPrefixHex = true) :
    (request.updated newStatus repeater).matches
      request.publicKeyPrefixHex = true := by
  rw [ManagedRepeater.matches_iff] at hmatches ⊢
  cases hkey : request.resolvedFullKeyHex with
  | none => simpa [RepeaterUpsert.updated, hkey] using hmatches
  | some key =>
      simpa [RepeaterUpsert.updated, hkey] using
        request.resolved_matches key hkey

theorem upsertManagedRepeater_of_not_matches
    {repeaters : List ManagedRepeater} {request : RepeaterUpsert}
    (hnone : ∀ r ∈ repeaters, r.matches request.publicKeyPrefixHex = false) :
    upsertManagedRepeater repeaters request =
      repeaters ++ (request.status.map request.created).toList := by
  induction repeaters with
  | nil => exact upsertManagedRepeater_nil request
  | cons repeater rest ih =>
      obtain ⟨hmatches, hrest⟩ := List.forall_mem_cons.mp hnone
      rw [upsertManagedRepeater_cons_of_not_matches hmatches, ih hrest,
        List.cons_append]

/-- The first matching entry alone is edited, where it stands. -/
theorem upsertManagedRepeater_first
    {earlier : List ManagedRepeater} {first : ManagedRepeater}
    {request : RepeaterUpsert}
    (hearlier : ∀ r ∈ earlier, r.matches request.publicKeyPrefixHex = false)
    (hfirst : first.matches request.publicKeyPrefixHex = true)
    (later : List ManagedRepeater) :
    upsertManagedRepeater (earlier ++ first :: later) request =
      earlier ++ ((request.status.map fun newStatus =>
        request.updated newStatus first).toList ++ later) := by
  induction earlier with
  | nil => exact upsertManagedRepeater_cons_of_matches hfirst later
  | cons repeater rest ih =>
      obtain ⟨hmatches, hrest⟩ := List.forall_mem_cons.mp hearlier
      rw [List.cons_append, upsertManagedRepeater_cons_of_not_matches hmatches,
        ih hrest, List.cons_append]

/-! ## What an edit does, and what it leaves alone -/

theorem matchingRepeaterStatus_upsert
    (repeaters : List ManagedRepeater) {request : RepeaterUpsert}
    {newStatus : RepeaterStatus} (hstatus : request.status = some newStatus) :
    matchingRepeaterStatus (upsertManagedRepeater repeaters request)
      request.publicKeyPrefixHex = some newStatus := by
  induction repeaters with
  | nil =>
      have hcreated := request.created_matches newStatus
      simp only [upsertManagedRepeater_nil, hstatus, Option.map_some,
        Option.toList_some, matchingRepeaterStatus, List.find?_cons, hcreated]
      rfl
  | cons repeater rest ih =>
      cases hmatches : repeater.matches request.publicKeyPrefixHex with
      | true =>
          have hupdated := request.updated_matches newStatus hmatches
          rw [upsertManagedRepeater_cons_of_matches hmatches, hstatus]
          simp only [Option.map_some, Option.toList_some, List.singleton_append,
            matchingRepeaterStatus, List.find?_cons, hupdated]
          rfl
      | false =>
          rw [upsertManagedRepeater_cons_of_not_matches hmatches]
          simpa [matchingRepeaterStatus, List.find?_cons, hmatches] using ih

def entriesFor
    (repeaters : List ManagedRepeater) (publicKeyPrefixHex : String) :
    List ManagedRepeater :=
  repeaters.filter fun r => r.matches publicKeyPrefixHex

theorem matchingRepeaterStatus_eq_head_entriesFor
    (repeaters : List ManagedRepeater) (publicKeyPrefixHex : String) :
    matchingRepeaterStatus repeaters publicKeyPrefixHex =
      (entriesFor repeaters publicKeyPrefixHex).head?.map fun r => r.status := by
  simp [matchingRepeaterStatus, entriesFor]

theorem entriesFor_upsert_of_cleared
    (repeaters : List ManagedRepeater) {request : RepeaterUpsert}
    (hstatus : request.status = none) :
    entriesFor (upsertManagedRepeater repeaters request)
      request.publicKeyPrefixHex =
        (entriesFor repeaters request.publicKeyPrefixHex).tail := by
  induction repeaters with
  | nil => simp [upsertManagedRepeater_nil, hstatus, entriesFor]
  | cons repeater rest ih =>
      cases hmatches : repeater.matches request.publicKeyPrefixHex with
      | true =>
          rw [upsertManagedRepeater_cons_of_matches hmatches, hstatus]
          simp [entriesFor, hmatches]
      | false =>
          rw [upsertManagedRepeater_cons_of_not_matches hmatches]
          simpa [entriesFor, hmatches] using ih

theorem not_matches_of_not_sameRepeater
    {repeater : ManagedRepeater} {first second : String}
    (hdistinct : ¬ SameRepeater first second)
    (hsecond : repeater.matches second = true) :
    repeater.matches first = false := by
  by_contra hfirst
  exact hdistinct
    (sameRepeater_of_matches (by simpa using hfirst) hsecond)

/-- The frame of an edit: no entry of another repeater is touched. -/
theorem entriesFor_upsert_of_not_sameRepeater
    (repeaters : List ManagedRepeater) {request : RepeaterUpsert}
    {publicKeyPrefixHex : String}
    (hdistinct :
      ¬ SameRepeater publicKeyPrefixHex request.publicKeyPrefixHex) :
    entriesFor (upsertManagedRepeater repeaters request) publicKeyPrefixHex =
      entriesFor repeaters publicKeyPrefixHex := by
  induction repeaters with
  | nil =>
      cases hstatus : request.status with
      | none => simp [upsertManagedRepeater_nil, hstatus]
      | some newStatus =>
          have hcreated := not_matches_of_not_sameRepeater hdistinct
            (request.created_matches newStatus)
          simp [upsertManagedRepeater_nil, hstatus, entriesFor, hcreated]
  | cons repeater rest ih =>
      cases hmatches : repeater.matches request.publicKeyPrefixHex with
      | true =>
          have hold := not_matches_of_not_sameRepeater hdistinct hmatches
          rw [upsertManagedRepeater_cons_of_matches hmatches]
          cases hstatus : request.status with
          | none => simp [entriesFor, hold]
          | some newStatus =>
              have hnew := not_matches_of_not_sameRepeater hdistinct
                (request.updated_matches newStatus hmatches)
              simp [entriesFor, hold, hnew]
      | false =>
          rw [upsertManagedRepeater_cons_of_not_matches hmatches]
          simp only [entriesFor] at ih
          simp [entriesFor, List.filter_cons, ih]

end MeshController
