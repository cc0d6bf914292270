import MeshController.RedeclarableEntries

/-!
# Keys in either letter case

A key may be spelled with small or capital digits.  Entries are matched by the
lower-case letters alone, so that two lists of entries whose keys differ in
case only give every prefix, however it is spelled, the same entry.
-/

namespace MeshController

open HexEncoding

/-! ## Spellings -/

/-- Two spellings of one key. -/
def SameKey (first second : String) : Prop :=
  asciiLowercase first = asciiLowercase second

instance decidableSameKey (first second : String) :
    Decidable (SameKey first second) :=
  inferInstanceAs (Decidable (_ = _))

def capitalizeDigit (c : Char) : Char :=
  if 'a' ≤ c ∧ c ≤ 'f' then c.toUpper else c

/-- The hex digits a to f as capitals. -/
def capitalizeDigits (text : String) : String :=
  String.ofList (text.toList.map capitalizeDigit)

theorem toNat_lt_of_small {c : Char} (hsmall : 'a' ≤ c ∧ c ≤ 'f') :
    c.toNat < 128 := by
  have hle := hsmall.2
  rw [Char.le_def, UInt32.le_iff_toNat_le] at hle
  exact hle.trans_lt (by decide)

theorem toLower_capitalizeDigit (c : Char) :
    (capitalizeDigit c).toLower = c.toLower := by
  have hascii : ∀ n : Fin 128,
      (capitalizeDigit (Char.ofNat n.val)).toLower =
        (Char.ofNat n.val).toLower := by decide
  by_cases hsmall : 'a' ≤ c ∧ c ≤ 'f'
  · have hsame := hascii ⟨c.toNat, toNat_lt_of_small hsmall⟩
    rwa [Char.ofNat_toNat] at hsame
  · rw [capitalizeDigit, if_neg hsmall]

theorem sameKey_capitalizeDigits (text : String) :
    SameKey (capitalizeDigits text) text := by
  simp [SameKey, asciiLowercase, capitalizeDigits, toLower_capitalizeDigit]

theorem SameKey.symm {first second : String} (hsame : SameKey first second) :
    SameKey second first :=
  Eq.symm hsame

theorem SameKey.keyPrefixHex {first second : String}
    (hsame : SameKey first second) :
    SameKey (keyPrefixHex first) (keyPrefixHex second) := by
  have htake : ∀ text, asciiLowercase (MeshController.keyPrefixHex text) =
      (asciiLowercase text).take 12 := by
    intro text
    simp [asciiLowercase, MeshController.keyPrefixHex]
  rw [SameKey, htake, htake, hsame]

theorem equalIgnoringCase_congr
    (text : String) {first second : String} (hsame : SameKey first second) :
    equalIgnoringCase text first = equalIgnoringCase text second := by
  unfold equalIgnoringCase
  rw [hsame]

theorem SameKey.isFullKey {first second : String}
    (hsame : SameKey first second) (hfull : IsFullKey first) :
    IsFullKey second := by
  rw [isFullKey_iff] at hfull ⊢
  rcases hfull with ⟨key, hkey⟩
  use key
  rw [← hkey]
  exact hsame.symm

theorem isFullKey_iff_checked (text : String) :
    IsFullKey text ↔
      ¬ (text.utf8ByteSize ≠ 64 ∨ !text.toList.all isHexDigit) := by
  rw [not_or, not_not, Bool.not_eq_true', Bool.not_eq_false]
  constructor
  · intro hfull
    constructor
    · have hlength := utf8ByteSize_ofList_of_ascii fun c hmem =>
        toNat_lt_of_isHexDigit (hfull.2 c hmem)
      rw [String.ofList_toList] at hlength
      rw [hlength, hfull.1]
    · exact List.all_eq_true.mpr hfull.2
  · intro hchecked
    exact isFullKey_of_checked hchecked.1 hchecked.2

theorem toLower_eq_self_iff {c : Char} (hdigit : isHexDigit c = true) :
    c.toLower = c ↔ c.isUpper = false := by
  have hascii : ∀ n : Fin 128,
      (Char.ofNat n.val).toLower = Char.ofNat n.val ↔
        (Char.ofNat n.val).isUpper = false := by decide
  have hsame := hascii ⟨c.toNat, toNat_lt_of_isHexDigit hdigit⟩
  rwa [Char.ofNat_toNat] at hsame

theorem toLower_eq_self_of_isDigit {c : Char} (hdigit : isHexDigit c = true)
    (hlower : c.toLower.isDigit = true) : c.toLower = c := by
  have hascii : ∀ n : Fin 128, (Char.ofNat n.val).toLower.isDigit = true →
      (Char.ofNat n.val).toLower = Char.ofNat n.val := by decide
  have hsame := hascii ⟨c.toNat, toNat_lt_of_isHexDigit hdigit⟩
  rw [Char.ofNat_toNat] at hsame
  exact hsame hlower

theorem toLower_of_isDigit {c : Char} (hdigit : c.isDigit = true) :
    c.toLower = c := by
  unfold Char.toLower
  split
  next hupper =>
    simp only [Char.isDigit, Bool.and_eq_true, decide_eq_true_eq,
      UInt32.le_iff_toNat_le] at hdigit
    have hle := hupper.1
    rw [ge_iff_le, UInt32.le_iff_toNat_le] at hle
    exact absurd (hle.trans hdigit.2) (by decide)
  next => rfl

/-- A digit which is no capital, and has none, is decimal. -/
theorem isDigit_of_not_isUpper {c : Char} (hdigit : isHexDigit c = true)
    (hsmall : c.isUpper = false)
    (hcapital : (capitalizeDigit c).isUpper = false) : c.isDigit = true := by
  have hascii : ∀ n : Fin 128, isHexDigit (Char.ofNat n.val) = true →
      (Char.ofNat n.val).isUpper = false →
        (capitalizeDigit (Char.ofNat n.val)).isUpper = false →
          (Char.ofNat n.val).isDigit = true := by decide
  have hdecimal := hascii ⟨c.toNat, toNat_lt_of_isHexDigit hdigit⟩
  rw [Char.ofNat_toNat] at hdecimal
  exact hdecimal hdigit hsmall hcapital

theorem map_toLower_eq_self_iff (text : List Char) :
    text.map Char.toLower = text ↔ ∀ c ∈ text, c.toLower = c := by
  constructor
  · intro hsame c hmem
    have hid := hsame.trans text.map_id.symm
    exact List.map_inj_left.mp hid c hmem
  · intro hsame
    exact (List.map_inj_left.mpr hsame).trans text.map_id

theorem lowercase_front_iff {publicKeyHex : String}
    (hfull : IsFullKey publicKeyHex) :
    asciiLowercase (keyPrefixHex publicKeyHex) =
        (keyPrefixHex publicKeyHex).toList ↔
      ∀ c ∈ publicKeyHex.toList.take 12, c.isUpper = false := by
  unfold asciiLowercase keyPrefixHex
  rw [String.toList_ofList, map_toLower_eq_self_iff]
  constructor
  · intro hlower c hmem
    have hdigit := hfull.2 c (List.mem_of_mem_take hmem)
    exact (toLower_eq_self_iff hdigit).mp (hlower c hmem)
  · intro hsmall c hmem
    have hdigit := hfull.2 c (List.mem_of_mem_take hmem)
    exact (toLower_eq_self_iff hdigit).mpr (hsmall c hmem)

/-- A front without letters has one spelling only. -/
theorem keyPrefixHex_eq_of_isDigit {first second : String}
    (hfull : IsFullKey first) (hsame : SameKey first second)
    (hdigits : ∀ c ∈ second.toList.take 12, c.isDigit = true) :
    keyPrefixHex first = keyPrefixHex second := by
  have hfronts : (first.toList.take 12).map Char.toLower =
      (second.toList.take 12).map Char.toLower := by
    simpa [SameKey, asciiLowercase, keyPrefixHex] using hsame.keyPrefixHex
  have hsecond : (second.toList.take 12).map Char.toLower =
      second.toList.take 12 := by
    rw [map_toLower_eq_self_iff]
    intro c hmem
    exact toLower_of_isDigit (hdigits c hmem)
  have hfirst : (first.toList.take 12).map Char.toLower =
      first.toList.take 12 := by
    rw [map_toLower_eq_self_iff]
    intro c hmem
    apply toLower_eq_self_of_isDigit (hfull.2 c (List.mem_of_mem_take hmem))
    apply hdigits
    rw [← hsecond, ← hfronts]
    exact List.mem_map_of_mem hmem
  unfold keyPrefixHex
  rw [← hfirst, hfronts, hsecond]

/-! ## Entries -/

/-- Entries which differ in the spelling of their key only. -/
structure ManagedRepeater.Alike (first second : ManagedRepeater) : Prop where
  name : first.name = second.name
  publicKey : SameKey first.publicKeyHex second.publicKeyHex
  password : first.password = second.password
  status : first.status = second.status

theorem ManagedRepeater.Alike.refl (repeater : ManagedRepeater) :
    repeater.Alike repeater := by
  constructor <;> rfl

theorem ManagedRepeater.Alike.matches
    {first second : ManagedRepeater} (halike : first.Alike second)
    {prefix₁ prefix₂ : String} (hsame : SameKey prefix₁ prefix₂) :
    first.matches prefix₁ = second.matches prefix₂ := by
  unfold ManagedRepeater.matches
  rw [hsame, halike.publicKey]

def AlikeRepeaters (first second : List ManagedRepeater) : Prop :=
  List.Forall₂ ManagedRepeater.Alike first second

theorem AlikeRepeaters.refl (repeaters : List ManagedRepeater) :
    AlikeRepeaters repeaters repeaters :=
  List.forall₂_same.mpr fun repeater _ => .refl repeater

theorem AlikeRepeaters.find
    {first second : List ManagedRepeater}
    (halike : AlikeRepeaters first second)
    {prefix₁ prefix₂ : String} (hsame : SameKey prefix₁ prefix₂) :
    Option.Rel ManagedRepeater.Alike
      (first.find? fun r => r.matches prefix₁)
      (second.find? fun r => r.matches prefix₂) := by
  induction halike with
  | nil => exact .none
  | @cons one other rest others hhead htail ih =>
      rw [List.find?_cons, List.find?_cons, hhead.matches hsame]
      cases other.matches prefix₂ with
      | true => exact .some hhead
      | false => exact ih

theorem AlikeRepeaters.matchingRepeaterStatus
    {first second : List ManagedRepeater}
    (halike : AlikeRepeaters first second)
    {prefix₁ prefix₂ : String} (hsame : SameKey prefix₁ prefix₂) :
    MeshController.matchingRepeaterStatus first prefix₁ =
      MeshController.matchingRepeaterStatus second prefix₂ := by
  have hfind := halike.find hsame
  unfold MeshController.matchingRepeaterStatus
  generalize first.find? _ = one at hfind ⊢
  generalize second.find? _ = other at hfind ⊢
  cases hfind with
  | none => rfl
  | some hentry => exact congrArg some hentry.status

/-- The contacts of a snapshot do not show how a key is spelled. -/
theorem AlikeRepeaters.buildSnapshotContacts
    {first second : List ManagedRepeater}
    (halike : AlikeRepeaters first second)
    (fetched : List ContactDto) (discovered : List DiscoveredNode)
    (telemetry : String → Option TelemetryDto) :
    MeshController.buildSnapshotContacts first fetched discovered telemetry =
      MeshController.buildSnapshotContacts second fetched discovered
        telemetry := by
  have hstatus : ∀ publicKeyPrefixHex,
      MeshController.matchingRepeaterStatus first publicKeyPrefixHex =
        MeshController.matchingRepeaterStatus second publicKeyPrefixHex := by
    intro publicKeyPrefixHex
    exact halike.matchingRepeaterStatus rfl
  unfold MeshController.buildSnapshotContacts annotateContact
    ContactDto.ofDiscovered
  simp only [hstatus]

/-! ## Edits -/

/-- Edits which differ in the spelling of the keys they carry only. -/
structure RepeaterUpsert.Alike (first second : RepeaterUpsert) : Prop where
  publicKeyPrefix :
    SameKey first.publicKeyPrefixHex second.publicKeyPrefixHex
  name : first.name = second.name
  status : first.status = second.status
  resolved : Option.Rel SameKey first.resolvedFullKeyHex
    second.resolvedFullKeyHex

namespace RepeaterUpsert.Alike

variable {first second : RepeaterUpsert}

theorem refl (request : RepeaterUpsert) : request.Alike request := by
  constructor
  · rfl
  · rfl
  · rfl
  · cases request.resolvedFullKeyHex with
    | none => exact .none
    | some key => exact .some rfl

theorem sameKey_getD (halike : first.Alike second)
    {key₁ key₂ : String} (hsame : SameKey key₁ key₂) :
    SameKey (first.resolvedFullKeyHex.getD key₁)
      (second.resolvedFullKeyHex.getD key₂) := by
  have hresolved := halike.resolved
  generalize first.resolvedFullKeyHex = one at hresolved ⊢
  generalize second.resolvedFullKeyHex = other at hresolved ⊢
  cases hresolved with
  | none => exact hsame
  | some hkey => exact hkey

theorem created (halike : first.Alike second) (status : RepeaterStatus) :
    (first.created status).Alike (second.created status) := by
  constructor
  · exact halike.name
  · exact halike.sameKey_getD halike.publicKeyPrefix
  · rfl
  · rfl

theorem updated (halike : first.Alike second) (status : RepeaterStatus)
    {one other : ManagedRepeater} (hentry : one.Alike other) :
    (first.updated status one).Alike (second.updated status other) := by
  constructor
  · exact halike.name
  · exact halike.sameKey_getD hentry.publicKey
  · exact hentry.password
  · rfl

end RepeaterUpsert.Alike

theorem AlikeRepeaters.upsert
    {first second : List ManagedRepeater}
    (halike : AlikeRepeaters first second)
    {one other : RepeaterUpsert} (hrequest : one.Alike other) :
    AlikeRepeaters (upsertManagedRepeater first one)
      (upsertManagedRepeater second other) := by
  induction halike with
  | nil =>
      rw [upsertManagedRepeater_nil, upsertManagedRepeater_nil,
        hrequest.status]
      cases other.status with
      | none => exact .nil
      | some status => exact .cons (hrequest.created status) .nil
  | @cons head₁ head₂ rest₁ rest₂ hhead htail ih =>
      have hmatches := hhead.matches hrequest.publicKeyPrefix
      by_cases hsecond : head₂.matches other.publicKeyPrefixHex = true
      · rw [upsertManagedRepeater_cons_of_matches (hmatches.trans hsecond),
          upsertManagedRepeater_cons_of_matches hsecond, hrequest.status]
        cases other.status with
        | none => exact htail
        | some status => exact .cons (hrequest.updated status hhead) htail
      · rw [Bool.not_eq_true] at hsecond
        rw [upsertManagedRepeater_cons_of_not_matches
            (hmatches.trans hsecond),
          upsertManagedRepeater_cons_of_not_matches hsecond]
        exact .cons hhead ih

end MeshController
