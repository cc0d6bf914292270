import MeshController.Contacts
import MeshController.LabelledRun
import MeshController.MeshEvents

/-!
# Waiting for a reply

A command whose answer is not correlated with it is sent first and waited for
afterwards, and `requestRegionHierarchy` waits again after a message from
somebody else.  A wait sees only what is dispatched after it has begun, so a
reply is returned exactly if it does not fall before the first wait or between
two of them.
-/

namespace MeshController

/-- A call which sends a command and waits for the answer. -/
structure ReplyCall where
  awaited : MeshCoreEvent → Bool
  isReply : MeshCoreEvent → Bool
  timeoutMs : ℕ
  /-- The time runs from the end of the sending, not from the wait. -/
  fromSend : Bool

/-- What a wait of the call sees and the call returns for. -/
def ReplyCall.replies (call : ReplyCall) (event : MeshCoreEvent) : Bool :=
  call.awaited event && call.isReply event

def requestRegionHierarchy (contact : Contact) : ReplyCall where
  awaited := fun event => event.eventType = .contactMsgRecv
  isReply := fun event =>
    match event.payload with
    | .contactMessage msg => msg.senderPrefix.toList = contact.prefixBytes
    | _ => false
  timeoutMs := 15000
  fromSend := true

/-- Success or not, the confirmation is returned. -/
def login : ReplyCall where
  awaited := fun event =>
    event.eventType = .loginSuccess || event.eventType = .loginFailed
  isReply := fun _ => true
  timeoutMs := 20000
  fromSend := false

/-! ### The call and the dispatcher -/

inductive CallPhase where
  | unsent
  /-- The command is out, or an unrelated message has been taken, and no wait
  is on. -/
  | sent (deadline : Option ℕ)
  /-- A wait is on, with the first event it has seen. -/
  | waiting (deadline : ℕ) (seen : Option MeshCoreEvent)
  | returned (event : MeshCoreEvent)
  | noReply
deriving DecidableEq

structure CallState where
  now : ℕ
  phase : CallPhase
  /-- The first reply since the command was sent and before the deadline. -/
  arrived : Option MeshCoreEvent
deriving DecidableEq

inductive CallAction where
  | elapse (ms : ℕ)
  | send
  | beginWait
  | dispatch (event : MeshCoreEvent)
  | wake
  | expire
deriving DecidableEq

namespace CallState

def start (now : ℕ) : CallState where
  now := now
  phase := .unsent
  arrived := none

/-- The command has been sent, and the call may still return a reply. -/
def pending (state : CallState) : Bool :=
  match state.phase with
  | .sent none => true
  | .sent (some deadline) => state.now < deadline
  | .waiting deadline _ => state.now < deadline
  | _ => false

def note (call : ReplyCall) (state : CallState) (event : MeshCoreEvent) :
    Option MeshCoreEvent :=
  if state.arrived = none ∧ call.replies event ∧ state.pending then some event
  else state.arrived

/-- A wait keeps the first event it sees. -/
def hear (call : ReplyCall) (event : MeshCoreEvent) : CallPhase → CallPhase
  | .waiting deadline none =>
      if call.awaited event then .waiting deadline (some event)
      else .waiting deadline none
  | phase => phase

def step (call : ReplyCall) (state : CallState) :
    CallAction → Option CallState
  | .elapse ms => some { state with now := state.now + ms }
  | .send =>
      if state.phase = .unsent then
        some { state with
          phase := .sent
            (if call.fromSend then some (state.now + call.timeoutMs)
            else none) }
      else none
  | .beginWait =>
      match state.phase with
      | .sent none =>
          some { state with
            phase := .waiting (state.now + call.timeoutMs) none }
      | .sent (some deadline) =>
          if deadline ≤ state.now then some { state with phase := .noReply }
          else some { state with phase := .waiting deadline none }
      | _ => none
  | .dispatch event =>
      some { state with
        phase := hear call event state.phase
        arrived := state.note call event }
  | .wake =>
      match state.phase with
      | .waiting deadline (some event) =>
          some { state with
            phase := if call.isReply event then .returned event
              else .sent (some deadline) }
      | _ => none
  | .expire =>
      match state.phase with
      | .waiting deadline none =>
          if deadline ≤ state.now then some { state with phase := .noReply }
          else none
      | _ => none

/-- A reply which has come in time is returned, or it is returned when the call
goes on. -/
def ReplyReturned (call : ReplyCall) (state : CallState) : Prop :=
  ∀ event ∈ state.arrived, state.phase = .returned event ∨
    state.step call .wake = some { state with phase := .returned event }

/-- It is returned, or the wait has seen it first. -/
def ReplyKept (state : CallState) : Prop :=
  ∀ event ∈ state.arrived, state.phase = .returned event ∨
    ∃ deadline, state.phase = .waiting deadline (some event)

/-- A wait is on, and it has not taken an unrelated message. -/
def listens (call : ReplyCall) (state : CallState) : Bool :=
  match state.phase with
  | .waiting _ seen => seen.all call.replies
  | _ => false

/-- No reply is dispatched between two waits. -/
def Heard (call : ReplyCall) (state : CallState) : CallAction → Prop
  | .dispatch event =>
      call.replies event → state.pending → state.listens call
  | _ => True

instance decidableHeard (call : ReplyCall) (state : CallState)
    (action : CallAction) : Decidable (state.Heard call action) :=
  match action with
  | .dispatch event =>
      inferInstanceAs (Decidable (call.replies event → state.pending →
        state.listens call))
  | .elapse _ | .send | .beginWait | .wake | .expire => isTrue trivial

/-! ### What a step does to a reply -/

/-- Only replies are kept, one which the wait has seen in time has arrived,
and none comes before the command is sent. -/
structure Sound (call : ReplyCall) (state : CallState) : Prop where
  replied : ∀ event ∈ state.arrived, call.replies event = true
  timely : ∀ deadline event,
    state.phase = .waiting deadline (some event) →
      call.replies event = true → state.now < deadline →
        state.arrived ≠ none
  quiet : state.phase = .unsent → state.arrived = none

theorem sound_start (call : ReplyCall) (now : ℕ) :
    (start now).Sound call := by
  constructor
  · intro event harrived
    cases harrived
  · intro deadline event hphase
    cases hphase
  · intro _
    rfl

section Dispatch

variable {call : ReplyCall} {state : CallState} {event : MeshCoreEvent}

theorem ReplyKept.arrived_eq_none
    (hkept : state.ReplyKept)
    (hreturned : ∀ event, state.phase ≠ .returned event)
    (hwaiting : ∀ deadline event,
      state.phase ≠ .waiting deadline (some event)) :
    state.arrived = none := by
  cases harrived : state.arrived with
  | none => rfl
  | some event =>
      rcases hkept event harrived with hphase | ⟨deadline, hphase⟩
      · exact absurd hphase (hreturned event)
      · exact absurd hphase (hwaiting deadline event)

theorem note_of_pending
    (hnone : state.arrived = none) (hreply : call.replies event = true)
    (hpending : state.pending = true) :
    state.note call event = some event :=
  if_pos ⟨hnone, hreply, hpending⟩

theorem note_of_not
    (hnot : ¬(call.replies event = true ∧ state.pending = true)) :
    state.note call event = state.arrived :=
  if_neg fun hall => hnot hall.2

theorem note_of_arrived (hsome : state.arrived ≠ none) :
    state.note call event = state.arrived :=
  if_neg fun hall => hsome hall.1

/-- Where nothing has arrived, a reply is kept if and only if the phase after
it holds it. -/
theorem replyKept_dispatch
    (hnone : state.arrived = none) (phase : CallPhase) :
    ReplyKept { state with
        phase := phase
        arrived := state.note call event } ↔
      (call.replies event = true → state.pending = true →
        phase = .returned event ∨
          ∃ deadline, phase = .waiting deadline (some event)) := by
  by_cases hreply : call.replies event = true ∧ state.pending = true
  · simp [ReplyKept, note_of_pending hnone hreply.1 hreply.2, hreply]
  · have hvacuous : call.replies event = true → state.pending = true →
        phase = .returned event ∨
          ∃ deadline, phase = .waiting deadline (some event) :=
      fun hreplies hpending => absurd ⟨hreplies, hpending⟩ hreply
    simpa [ReplyKept, note_of_not hreply, hnone] using hvacuous

/-- What has arrived is what the wait has seen first. -/
theorem ReplyKept.eq_of_seen
    (hkept : state.ReplyKept) {deadline : ℕ} {seen first : MeshCoreEvent}
    (hphase : state.phase = .waiting deadline (some seen))
    (harrived : first ∈ state.arrived) : first = seen := by
  rcases hkept first harrived with hreturned | ⟨_, hwaits⟩
  · rw [hphase] at hreturned
    cases hreturned
  · rw [hphase] at hwaits
    cases hwaits
    rfl

theorem replyKept_dispatch_unseen
    (hkept : state.ReplyKept) {deadline : ℕ}
    (hphase : state.phase = .waiting deadline none) :
    ReplyKept { state with
        phase := hear call event (.waiting deadline none)
        arrived := state.note call event } ↔
      state.Heard call (.dispatch event) := by
  have hnone := hkept.arrived_eq_none (by simp [hphase]) (by simp [hphase])
  have hlistens : state.listens call = true := by simp [listens, hphase]
  rw [replyKept_dispatch hnone]
  refine iff_of_true ?_ fun _ _ => hlistens
  intro hreply _
  have hawaited : call.awaited event = true :=
    (Bool.and_eq_true_iff.mp hreply).1
  right
  use deadline
  exact if_pos hawaited

/-- An unrelated message: had it been a reply in time, it would have
arrived. -/
theorem replyKept_dispatch_unrelated
    (hsound : state.Sound call) (hnone : state.arrived = none)
    {deadline : ℕ} {other : MeshCoreEvent}
    (hphase : state.phase = .waiting deadline (some other)) :
    ReplyKept { state with
        phase := hear call event (.waiting deadline (some other))
        arrived := state.note call event } ↔
      state.Heard call (.dispatch event) := by
  have hother : state.pending = true → call.replies other = false := by
    intro hpending
    by_contra hreply
    have hlt : state.now < deadline := by
      simpa [pending, hphase] using hpending
    exact hsound.timely deadline other hphase
      (Bool.eq_true_of_not_eq_false hreply) hlt hnone
  rw [replyKept_dispatch hnone]
  simp only [hear, Heard, listens, hphase, Option.all_some, reduceCtorEq,
    false_or, CallPhase.waiting.injEq, Option.some.injEq]
  constructor
  · intro hheld hreply hpending
    rcases hheld hreply hpending with ⟨_, _, hsame⟩
    rw [hsame]
    exact hreply
  · intro hlistens hreply hpending
    have hfalse := hlistens hreply hpending
    rw [hother hpending] at hfalse
    cases hfalse

theorem replyKept_dispatch_seen
    (hsound : state.Sound call) (hkept : state.ReplyKept)
    {deadline : ℕ} {first : MeshCoreEvent}
    (harrived : state.arrived = some first)
    (hphase : state.phase = .waiting deadline (some first)) :
    ReplyKept { state with
        phase := hear call event (.waiting deadline (some first))
        arrived := state.note call event } ↔
      state.Heard call (.dispatch event) := by
  have hreply := hsound.replied first harrived
  have hsome : state.arrived ≠ none := by simp [harrived]
  have hlistens : state.listens call = true := by
    simp [listens, hphase, hreply]
  refine iff_of_true ?_ fun _ _ => hlistens
  intro kept hin
  simp only [note_of_arrived hsome] at hin
  right
  use deadline
  rw [hkept.eq_of_seen hphase hin]
  rfl

theorem replyKept_dispatch_iff
    (hsound : state.Sound call) (hkept : state.ReplyKept) :
    ReplyKept { state with
        phase := hear call event state.phase
        arrived := state.note call event } ↔
      state.Heard call (.dispatch event) := by
  cases hphase : state.phase with
  | unsent =>
      rw [replyKept_dispatch (hsound.quiet hphase)]
      simp [Heard, pending, hphase]
  | sent deadline =>
      have hnone := hkept.arrived_eq_none (by simp [hphase]) (by simp [hphase])
      rw [replyKept_dispatch hnone]
      simp [Heard, listens, hear, hphase]
  | waiting deadline seen =>
      cases seen with
      | none => exact replyKept_dispatch_unseen hkept hphase
      | some other =>
          cases harrived : state.arrived with
          | none =>
              exact replyKept_dispatch_unrelated hsound harrived hphase
          | some first =>
              obtain rfl := hkept.eq_of_seen hphase harrived
              exact replyKept_dispatch_seen hsound hkept harrived hphase
  | returned kept =>
      have hpending : state.pending = false := by simp [pending, hphase]
      have hnot : ¬(call.replies event = true ∧ state.pending = true) := by
        simp [hpending]
      refine iff_of_true ?_ (by simp [Heard, hpending])
      intro other hin
      simp only [note_of_not hnot] at hin
      simpa [hear, hphase] using hkept other hin
  | noReply =>
      have hnone := hkept.arrived_eq_none (by simp [hphase]) (by simp [hphase])
      rw [replyKept_dispatch hnone]
      simp [Heard, pending, hphase]

theorem of_hear_eq_unsent {phase : CallPhase}
    (hunsent : hear call event phase = .unsent) : phase = .unsent := by
  cases phase with
  | waiting deadline seen =>
      cases seen with
      | none =>
          rw [hear] at hunsent
          split at hunsent <;> cases hunsent
      | some other => cases hunsent
  | unsent => rfl
  | _ => cases hunsent

/-- A wait has seen an event before, or it is the one dispatched now. -/
theorem of_hear_eq_waiting
    {phase : CallPhase} {deadline : ℕ} {other : MeshCoreEvent}
    (hwaits : hear call event phase = .waiting deadline (some other)) :
    phase = .waiting deadline (some other) ∨
      phase = .waiting deadline none ∧ other = event := by
  cases phase with
  | waiting limit seen =>
      cases seen with
      | none =>
          rw [hear] at hwaits
          split at hwaits
          · cases hwaits
            exact Or.inr ⟨rfl, rfl⟩
          · cases hwaits
      | some first => exact Or.inl hwaits
  | _ => cases hwaits

theorem sound_dispatch (hsound : state.Sound call) :
    Sound call { state with
      phase := hear call event state.phase
      arrived := state.note call event } := by
  have hnoted : state.note call event = state.arrived ∨
      state.note call event = some event ∧ call.replies event = true := by
    unfold note
    split
    · rename_i hall
      exact Or.inr ⟨rfl, hall.2.1⟩
    · exact Or.inl rfl
  constructor
  · intro other hin
    rcases hnoted with hsame | ⟨hsome, hreply⟩
    · exact hsound.replied other (hsame ▸ hin)
    · simp only [hsome, Option.mem_some] at hin
      exact hin ▸ hreply
  · intro deadline other hwaits hreply hlt
    by_cases hnone : state.arrived = none
    · rcases of_hear_eq_waiting hwaits with hbefore | ⟨hbefore, rfl⟩
      · exact absurd hnone (hsound.timely deadline other hbefore hreply hlt)
      · have hpending : state.pending = true := by
          simpa [pending, hbefore] using hlt
        simp [note_of_pending hnone hreply hpending]
    · rw [note_of_arrived hnone]
      exact hnone
  · intro hunsent
    have hphase := of_hear_eq_unsent hunsent
    have hpending : ¬(call.replies event = true ∧ state.pending = true) := by
      simp [pending, hphase]
    rw [note_of_not hpending]
    exact hsound.quiet hphase

end Dispatch

/-! ### The steps of the call -/

theorem replyKept_of_none
    {state : CallState} (hnone : state.arrived = none) : state.ReplyKept := by
  intro event harrived
  rw [hnone] at harrived
  cases harrived

theorem sound_of_none
    {call : ReplyCall} {state : CallState} (hnone : state.arrived = none)
    (hphase : ∀ deadline event,
      state.phase ≠ .waiting deadline (some event)) :
    state.Sound call := by
  constructor
  · intro event harrived
    rw [hnone] at harrived
    cases harrived
  · intro deadline event hwaits
    exact absurd hwaits (hphase deadline event)
  · intro _
    exact hnone

section Step

variable {call : ReplyCall} {state next : CallState}

theorem exact_send
    (hsound : state.Sound call) (hstep : state.step call .send = some next) :
    next.Sound call ∧ next.ReplyKept := by
  rcases LabelledRun.guarded_eq_some_iff.mp hstep with ⟨hunsent, rfl⟩
  have hnone := hsound.quiet hunsent
  exact ⟨sound_of_none hnone (by simp), replyKept_of_none hnone⟩

theorem exact_beginWait
    (hkept : state.ReplyKept)
    (hstep : state.step call .beginWait = some next) :
    next.Sound call ∧ next.ReplyKept := by
  simp only [step] at hstep
  cases hphase : state.phase with
  | sent deadline =>
      have hnone := hkept.arrived_eq_none (by simp [hphase]) (by simp [hphase])
      cases deadline with
      | none =>
          simp only [hphase, Option.some.injEq] at hstep
          subst hstep
          exact ⟨sound_of_none hnone (by simp), replyKept_of_none hnone⟩
      | some deadline =>
          simp only [hphase] at hstep
          split at hstep
          · cases hstep
            exact ⟨sound_of_none hnone (by simp), replyKept_of_none hnone⟩
          · cases hstep
            exact ⟨sound_of_none hnone (by simp), replyKept_of_none hnone⟩
  | _ => simp [hphase] at hstep

theorem exact_wake
    (hsound : state.Sound call) (hkept : state.ReplyKept)
    (hstep : state.step call .wake = some next) :
    next.Sound call ∧ next.ReplyKept := by
  simp only [step] at hstep
  cases hphase : state.phase with
  | waiting deadline seen =>
      cases seen with
      | none => simp [hphase] at hstep
      | some event =>
          simp only [hphase, Option.some.injEq] at hstep
          subst hstep
          have hfirst : ∀ first ∈ state.arrived, first = event :=
            fun _ harrived => hkept.eq_of_seen hphase harrived
          by_cases hreply : call.isReply event
          · simp only [if_pos hreply]
            constructor
            · exact ⟨hsound.replied, by simp, by simp⟩
            · intro first harrived
              left
              rw [hfirst first harrived]
          · have hnone : state.arrived = none := by
              cases harrived : state.arrived with
              | none => rfl
              | some first =>
                  have hreplies := hsound.replied first harrived
                  rw [hfirst first harrived, ReplyCall.replies,
                    Bool.and_eq_true_iff] at hreplies
                  exact absurd hreplies.2 hreply
            simp only [if_neg hreply]
            exact ⟨sound_of_none hnone (by simp), replyKept_of_none hnone⟩
  | _ => simp [hphase] at hstep

theorem exact_expire
    (hkept : state.ReplyKept) (hstep : state.step call .expire = some next) :
    next.Sound call ∧ next.ReplyKept := by
  simp only [step] at hstep
  cases hphase : state.phase with
  | waiting deadline seen =>
      cases seen with
      | none =>
          have hnone := hkept.arrived_eq_none (by simp [hphase])
            (by simp [hphase])
          simp only [hphase] at hstep
          split at hstep
          · cases hstep
            exact ⟨sound_of_none hnone (by simp), replyKept_of_none hnone⟩
          · cases hstep
      | some event => simp [hphase] at hstep
  | _ => simp [hphase] at hstep

/-- A step keeps the replies if and only if it dispatches none past the
call. -/
theorem exact_step
    (hsound : state.Sound call) (hkept : state.ReplyKept)
    {action : CallAction} (hstep : state.step call action = some next) :
    next.Sound call ∧ (next.ReplyKept ↔ state.Heard call action) := by
  have hharmless : (next.Sound call ∧ next.ReplyKept) →
      (∀ event, action ≠ .dispatch event) →
        next.Sound call ∧ (next.ReplyKept ↔ state.Heard call action) := by
    rintro ⟨hnext, hheld⟩ hother
    refine ⟨hnext, iff_of_true hheld ?_⟩
    cases action with
    | dispatch event => exact absurd rfl (hother event)
    | _ => trivial
  cases action with
  | elapse ms =>
      cases hstep
      refine hharmless ⟨⟨hsound.replied, ?_, hsound.quiet⟩, hkept⟩ (by simp)
      intro deadline event hphase hreply hlt
      exact hsound.timely deadline event hphase hreply
        ((Nat.le_add_right _ _).trans_lt hlt)
  | send => exact hharmless (exact_send hsound hstep) (by simp)
  | beginWait => exact hharmless (exact_beginWait hkept hstep) (by simp)
  | dispatch event =>
      cases hstep
      exact ⟨sound_dispatch hsound, replyKept_dispatch_iff hsound hkept⟩
  | wake => exact hharmless (exact_wake hsound hkept hstep) (by simp)
  | expire => exact hharmless (exact_expire hkept hstep) (by simp)

end Step

theorem replyReturned_iff
    {call : ReplyCall} {state : CallState} (hsound : state.Sound call) :
    state.ReplyReturned call ↔ state.ReplyKept := by
  constructor
  · intro hreturned event harrived
    rcases hreturned event harrived with hphase | hwake
    · exact Or.inl hphase
    · right
      simp only [step] at hwake
      cases hphase : state.phase with
      | waiting deadline seen =>
          cases seen with
          | none => simp [hphase] at hwake
          | some first =>
              simp only [hphase, Option.some.injEq, CallState.mk.injEq,
                true_and, and_true] at hwake
              split at hwake
              · cases hwake
                exact ⟨deadline, rfl⟩
              · cases hwake
      | _ => simp [hphase] at hwake
  · intro hkept event harrived
    rcases hkept event harrived with hphase | ⟨deadline, hphase⟩
    · exact Or.inl hphase
    · right
      have hreplies := hsound.replied event harrived
      rw [ReplyCall.replies, Bool.and_eq_true_iff] at hreplies
      simp only [step, hphase, if_pos hreplies.2]

/-- A call returns every reply which comes in time, in every run, if and only
if none is dispatched before its wait or between two of them. -/
theorem reply_returned_iff
    {call : ReplyCall} {now : ℕ} {actions : List CallAction}
    {final : CallState}
    (hrun : LabelledRun.run (step call) (start now) actions = some final) :
    LabelledRun.MeetsAlong (step call) (Heard call) (start now) actions ↔
      ∀ before state, before <+: actions →
        LabelledRun.run (step call) (start now) before = some state →
          state.ReplyReturned call := by
  refine LabelledRun.meetsAlong_iff_holds_along ?_ (sound_start call now) ?_
    hrun
  · intro state action next hsound hreturned hstep
    have hkept := (replyReturned_iff hsound).mp hreturned
    rcases exact_step hsound hkept hstep with ⟨hnext, hexact⟩
    exact ⟨hnext, (replyReturned_iff hnext).trans hexact⟩
  · exact (replyReturned_iff (sound_start call now)).mpr (replyKept_of_none rfl)

end CallState

open CallState

def farNode : Contact where
  publicKey := .replicate 32 0xaa
  contactType := 2
  advName := "far node"
  lastAdvert := 0
  advLat := 0
  advLon := 0

/-- A text message of the node whose public key begins so. -/
def textFrom (first : UInt8) : MeshCoreEvent where
  eventType := .contactMsgRecv
  payload := .contactMessage ⟨.replicate 6 first, 0, "*^F"⟩

end MeshController
