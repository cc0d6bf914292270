import MeshController.LabelledRun

/-!
# Refreshing the device-signed token

A broker worker with device authentication holds a token which expires
`jwt_ttl_secs` after it was issued, and signs a new one at every tick of an
interval which is `jwtRefreshMarginSecs` shorter.  A refused attempt is made
again at the next tick only, and most of the lifetimes are over by then.
-/

namespace MeshController

def jwtRefreshMarginSecs : ℕ := 360

/-- `jwtTtlSecs` less the margin, saturating. -/
def refreshPeriodSecs (jwtTtlSecs : ℕ) : ℕ :=
  max (jwtTtlSecs - jwtRefreshMarginSecs) 1

/-- The two times in a token, in seconds. -/
structure TokenClaims where
  iat : ℤ
  exp : ℤ
deriving DecidableEq

def tokenClaims (jwtTtlSecs : ℕ) (iat : ℤ) : TokenClaims where
  iat := iat
  exp := iat + jwtTtlSecs

/-- `signing` is when the token being signed was issued.  `tokenTick` is the
tick the token in the options was issued for, and `failures` the attempts
which have failed since. -/
structure TokenRefresh where
  now : ℤ
  nextTick : ℤ
  signing : Option ℤ
  token : TokenClaims
  tokenTick : ℤ
  failures : ℕ
deriving DecidableEq

inductive RefreshAction where
  | elapse (secs : ℕ)
  | tick (selfInfoKnown : Bool)
  | signed
  | refused
deriving DecidableEq

namespace TokenRefresh

/-- The interval is created `building` seconds after the first token was
issued, and ticks at once; that token stands for the tick before. -/
def start (jwtTtlSecs : ℕ) (iat : ℤ) (building : ℕ) : TokenRefresh where
  now := iat + building
  nextTick := iat + building
  signing := none
  token := tokenClaims jwtTtlSecs iat
  tokenTick := iat + building - refreshPeriodSecs jwtTtlSecs
  failures := 0

/-- Ticks which are late do not move the ticks after them. -/
def step (jwtTtlSecs : ℕ) (state : TokenRefresh) :
    RefreshAction → Option TokenRefresh
  | .elapse secs => some { state with now := state.now + secs }
  | .tick selfInfoKnown =>
      if state.signing = none ∧ state.nextTick ≤ state.now then
        some { state with
          nextTick := state.nextTick + refreshPeriodSecs jwtTtlSecs
          signing := if selfInfoKnown then some state.now else none
          failures :=
            if selfInfoKnown then state.failures else state.failures + 1 }
      else none
  | .signed =>
      state.signing.map fun iat =>
        { state with
          signing := none
          token := tokenClaims jwtTtlSecs iat
          tokenTick := state.nextTick - refreshPeriodSecs jwtTtlSecs
          failures := 0 }
  | .refused =>
      state.signing.map fun _ =>
        { state with signing := none, failures := state.failures + 1 }

/-- The tick of the attempt which is not done yet. -/
def due (jwtTtlSecs : ℕ) (state : TokenRefresh) : ℤ :=
  if state.signing = none then state.nextTick
  else state.nextTick - refreshPeriodSecs jwtTtlSecs

def TokenValid (state : TokenRefresh) : Prop := state.now ≤ state.token.exp

/-- While an attempt is not done, the time since its tick is within the
margin, and shorter by what every failure has cost; a token which was issued
late lasts longer. -/
def InTime (jwtTtlSecs : ℕ) (state : TokenRefresh) : RefreshAction → Prop
  | .elapse secs =>
      state.now + secs - state.due jwtTtlSecs ≤
        jwtRefreshMarginSecs * (state.failures + 1) -
          jwtTtlSecs * state.failures + (state.token.iat - state.tokenTick)
  | _ => True

instance decidableInTime (jwtTtlSecs : ℕ) (state : TokenRefresh)
    (action : RefreshAction) : Decidable (state.InTime jwtTtlSecs action) :=
  match action with
  | .elapse secs =>
      inferInstanceAs (Decidable (state.now + secs - state.due jwtTtlSecs ≤
        jwtRefreshMarginSecs * (state.failures + 1) -
          jwtTtlSecs * state.failures + (state.token.iat - state.tokenTick)))
  | .tick _ | .signed | .refused => isTrue trivial

/-- One period for the token and one for every failure since. -/
structure Sound (jwtTtlSecs : ℕ) (state : TokenRefresh) : Prop where
  lifetime : state.token.exp = state.token.iat + jwtTtlSecs
  ticks : state.due jwtTtlSecs = state.tokenTick +
    (state.failures + 1) * refreshPeriodSecs jwtTtlSecs
  issued : state.token.iat ≤ state.now
  signing : ∀ iat ∈ state.signing,
    state.token.iat ≤ iat ∧ iat ≤ state.now

theorem sound_start (jwtTtlSecs : ℕ) (iat : ℤ) (building : ℕ) :
    (start jwtTtlSecs iat building).Sound jwtTtlSecs := by
  constructor
  · rfl
  · simp only [start, due, if_true, Nat.cast_zero]
    ring
  · simp only [start, tokenClaims]
    omega
  · intro other hother
    cases hother

section Step

variable {jwtTtlSecs : ℕ} {state next : TokenRefresh}

theorem due_of_signing {iat : ℤ} (hsigning : state.signing = some iat) :
    state.due jwtTtlSecs =
      state.nextTick - refreshPeriodSecs jwtTtlSecs := by
  rw [due, hsigning, if_neg (by simp)]

theorem due_of_idle (hsigning : state.signing = none) :
    state.due jwtTtlSecs = state.nextTick := by
  rw [due, if_pos hsigning]

theorem sound_tick
    (hsound : state.Sound jwtTtlSecs) {selfInfoKnown : Bool}
    (hstep : state.step jwtTtlSecs (.tick selfInfoKnown) = some next) :
    next.Sound jwtTtlSecs := by
  rcases LabelledRun.guarded_eq_some_iff.mp hstep with ⟨⟨hidle, _⟩, rfl⟩
  have hticks := hsound.ticks
  rw [due_of_idle hidle] at hticks
  cases selfInfoKnown with
  | true =>
      constructor
      · exact hsound.lifetime
      · rw [due_of_signing rfl]
        simp only [if_true]
        linarith
      · exact hsound.issued
      · intro iat hiat
        simp only [if_true, Option.mem_some] at hiat
        rw [← hiat]
        exact ⟨hsound.issued, le_rfl⟩
  | false =>
      constructor
      · exact hsound.lifetime
      · rw [due_of_idle rfl]
        simp only [hticks, Bool.false_eq_true, if_false]
        push_cast
        ring
      · exact hsound.issued
      · intro iat hiat
        cases hiat

theorem sound_signed
    (hsound : state.Sound jwtTtlSecs)
    (hstep : state.step jwtTtlSecs .signed = some next) :
    next.Sound jwtTtlSecs := by
  rcases Option.map_eq_some_iff.mp hstep with ⟨iat, hsigning, rfl⟩
  constructor
  · rfl
  · rw [due_of_idle rfl]
    simp only [Nat.cast_zero]
    ring
  · exact (hsound.signing iat hsigning).2
  · intro other hother
    cases hother

theorem sound_refused
    (hsound : state.Sound jwtTtlSecs)
    (hstep : state.step jwtTtlSecs .refused = some next) :
    next.Sound jwtTtlSecs := by
  rcases Option.map_eq_some_iff.mp hstep with ⟨iat, hsigning, rfl⟩
  have hticks := hsound.ticks
  rw [due_of_signing hsigning] at hticks
  constructor
  · exact hsound.lifetime
  · rw [due_of_idle rfl]
    push_cast
    linarith
  · exact hsound.issued
  · intro other hother
    cases hother

/-- The time left to the attempt is the time left to the token. -/
theorem tokenValid_elapse_iff
    (hsound : state.Sound jwtTtlSecs)
    (httl : jwtRefreshMarginSecs < jwtTtlSecs) (secs : ℕ) :
    TokenValid { state with now := state.now + secs } ↔
      state.InTime jwtTtlSecs (.elapse secs) := by
  have hperiod : (refreshPeriodSecs jwtTtlSecs : ℤ) =
      jwtTtlSecs - jwtRefreshMarginSecs := by
    rw [refreshPeriodSecs, max_eq_left (by omega), Nat.cast_sub httl.le]
  have hticks := hsound.ticks
  rw [hperiod] at hticks
  rw [TokenValid, InTime, hsound.lifetime, hticks]
  constructor
  · intro hvalid
    linarith
  · intro hintime
    linarith

/-- A step keeps the token valid if and only if it lets no time pass which the
attempt does not have. -/
theorem exact_step
    (httl : jwtRefreshMarginSecs < jwtTtlSecs)
    (hsound : state.Sound jwtTtlSecs) (hvalid : state.TokenValid)
    {action : RefreshAction}
    (hstep : state.step jwtTtlSecs action = some next) :
    next.Sound jwtTtlSecs ∧
      (next.TokenValid ↔ state.InTime jwtTtlSecs action) := by
  cases action with
  | elapse secs =>
      cases hstep
      constructor
      · refine ⟨hsound.lifetime, hsound.ticks, ?_, ?_⟩
        · exact hsound.issued.trans (by simp)
        · intro iat hiat
          have hbounds := hsound.signing iat hiat
          exact ⟨hbounds.1, hbounds.2.trans (by simp)⟩
      · exact tokenValid_elapse_iff hsound httl secs
  | tick selfInfoKnown =>
      refine ⟨sound_tick hsound hstep, iff_of_true ?_ trivial⟩
      rcases LabelledRun.guarded_eq_some_iff.mp hstep with ⟨_, rfl⟩
      exact hvalid
  | signed =>
      refine ⟨sound_signed hsound hstep, iff_of_true ?_ trivial⟩
      rcases Option.map_eq_some_iff.mp hstep with ⟨iat, hsigning, rfl⟩
      have hlater := (hsound.signing iat hsigning).1
      rw [TokenValid, hsound.lifetime] at hvalid
      simp only [TokenValid, tokenClaims]
      linarith
  | refused =>
      refine ⟨sound_refused hsound hstep, iff_of_true ?_ trivial⟩
      rcases Option.map_eq_some_iff.mp hstep with ⟨iat, hsigning, rfl⟩
      exact hvalid

end Step

/-- The token is valid in every state of a run if and only if the first one
is built within its lifetime and every attempt is done in time. -/
theorem token_never_expired_iff
    {jwtTtlSecs : ℕ} (httl : jwtRefreshMarginSecs < jwtTtlSecs) {iat : ℤ}
    {building : ℕ} {actions : List RefreshAction} {final : TokenRefresh}
    (hrun : LabelledRun.run (step jwtTtlSecs)
      (start jwtTtlSecs iat building) actions = some final) :
    (building ≤ jwtTtlSecs ∧
        LabelledRun.MeetsAlong (step jwtTtlSecs) (InTime jwtTtlSecs)
          (start jwtTtlSecs iat building) actions) ↔
      ∀ before state, before <+: actions →
        LabelledRun.run (step jwtTtlSecs) (start jwtTtlSecs iat building)
          before = some state → state.TokenValid := by
  have hstart : (start jwtTtlSecs iat building).TokenValid ↔
      building ≤ jwtTtlSecs := by
    simp only [TokenValid, start, tokenClaims]
    omega
  have hexact : ∀ state action next, Sound jwtTtlSecs state →
      state.TokenValid → step jwtTtlSecs state action = some next →
        next.Sound jwtTtlSecs ∧
          (next.TokenValid ↔ state.InTime jwtTtlSecs action) :=
    fun _ _ _ hsound hvalid hstep => exact_step httl hsound hvalid hstep
  constructor
  · rintro ⟨hbuilding, hmeets⟩
    exact (LabelledRun.meetsAlong_iff_holds_along hexact
      (sound_start jwtTtlSecs iat building) (hstart.mpr hbuilding) hrun).mp
        hmeets
  · intro hall
    have hfirst := hall [] _ List.nil_prefix rfl
    use hstart.mp hfirst
    exact (LabelledRun.meetsAlong_iff_holds_along hexact
      (sound_start jwtTtlSecs iat building) hfirst hrun).mpr hall

/-- Of a lifetime of ten minutes, refreshed every four, one refused attempt is
outlived. -/
def refusedOnce : List RefreshAction :=
  [.tick true, .elapse 2, .signed, .elapse 238, .tick true, .elapse 1, .refused,
    .elapse 239, .tick true, .elapse 10, .signed]

theorem token_never_expired_one_failure :
    ∃ final,
      LabelledRun.run (step 600) (start 600 0 5) refusedOnce = some final ∧
      ∀ before state, before <+: refusedOnce →
        LabelledRun.run (step 600) (start 600 0 5) before = some state →
          state.TokenValid := by
  have hrun : LabelledRun.run (step 600) (start 600 0 5) refusedOnce =
      some ⟨495, 725, none, ⟨485, 1085⟩, 485, 0⟩ := by
    decide
  exact ⟨_, hrun, (token_never_expired_iff (by decide) hrun).mp
    ⟨by decide, by decide⟩⟩

/-- One attempt is refused, and the token of one hour expires 48 minutes before
the next one, which succeeds. -/
theorem token_expires_after_one_failure :
    ∃ late final,
      LabelledRun.run (step 3600) (start 3600 0 0)
          [.tick true, .signed, .elapse 3240, .tick true, .refused,
            .elapse 3240] = some late ∧
        LabelledRun.run (step 3600) late [.tick true, .signed] =
          some final ∧
        ¬late.TokenValid := by
  use ⟨6480, 6480, none, ⟨0, 3600⟩, 0, 1⟩,
    ⟨6480, 9720, none, ⟨6480, 10080⟩, 6480, 0⟩
  refine ⟨by decide, by decide, ?_⟩
  rw [TokenValid]
  decide

end TokenRefresh

end MeshController
