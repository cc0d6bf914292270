import Mathlib.Tactic

/-!
# Broadcast receivers

Every receiver of a broadcast channel has its own backlog of the same bounded
size.  A message sent to a receiver whose backlog is full pushes out the
oldest one, which that receiver then never sees: it has lagged.  Receivers
which have not lagged hold exactly what was sent and not yet received.
-/

/-- One subscription: the messages sent to it and not yet received, and
whether any message was lost. -/
structure BroadcastReceiver (Message : Type*) where
  backlog : List Message
  lagged : Bool
deriving DecidableEq

namespace BroadcastReceiver

variable {Message : Type*}

def subscribe (Message : Type*) : BroadcastReceiver Message where
  backlog := []
  lagged := false

def deliver (capacity : ℕ) (receiver : BroadcastReceiver Message)
    (message : Message) : BroadcastReceiver Message :=
  if receiver.backlog.length < capacity then
    { receiver with backlog := receiver.backlog ++ [message] }
  else
    { backlog := receiver.backlog.tail ++ [message], lagged := true }

def receive (receiver : BroadcastReceiver Message) :
    Option (Message × BroadcastReceiver Message) :=
  match receiver.backlog with
  | [] => none
  | message :: rest => some (message, { receiver with backlog := rest })

@[simp] theorem backlog_subscribe :
    (subscribe Message).backlog = [] := rfl

@[simp] theorem lagged_subscribe :
    (subscribe Message).lagged = false := rfl

theorem lagged_deliver_of_lagged
    {receiver : BroadcastReceiver Message} (hlagged : receiver.lagged = true)
    (capacity : ℕ) (message : Message) :
    (receiver.deliver capacity message).lagged = true := by
  unfold deliver
  split <;> simp [hlagged]

theorem lagged_of_deliver
    {receiver : BroadcastReceiver Message} {capacity : ℕ} {message : Message}
    (hkept : (receiver.deliver capacity message).lagged = false) :
    receiver.lagged = false := by
  cases hlagged : receiver.lagged with
  | false => rfl
  | true =>
      rw [lagged_deliver_of_lagged hlagged] at hkept
      contradiction

/-- A receiver which has not lagged gets every message, in order. -/
theorem backlog_of_deliver
    {receiver : BroadcastReceiver Message} {capacity : ℕ} {message : Message}
    (hkept : (receiver.deliver capacity message).lagged = false) :
    (receiver.deliver capacity message).backlog =
      receiver.backlog ++ [message] := by
  unfold deliver at hkept ⊢
  split
  next => rfl
  next hfull => simp [hfull] at hkept

theorem message_mem_backlog_deliver
    (receiver : BroadcastReceiver Message) (capacity : ℕ)
    (message : Message) :
    message ∈ (receiver.deliver capacity message).backlog := by
  unfold deliver
  split <;> simp

theorem receive_eq_some_iff
    {receiver next : BroadcastReceiver Message} {message : Message} :
    receiver.receive = some (message, next) ↔
      receiver.backlog = message :: next.backlog ∧
        next.lagged = receiver.lagged := by
  obtain ⟨backlog, lagged⟩ := receiver
  obtain ⟨nextBacklog, nextLagged⟩ := next
  cases backlog with
  | nil => simp [receive]
  | cons head rest =>
      simp only [receive, Option.some.injEq, Prod.mk.injEq, mk.injEq,
        List.cons.injEq]
      tauto

end BroadcastReceiver
