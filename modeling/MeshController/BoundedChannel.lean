import Mathlib.Tactic

/-!
# Bounded first-in first-out channels

A bounded channel with many senders and one receiver.  A sender which finds
the buffer full waits, and the freed slot of a later receive goes to the
sender which has waited longest.  The fields of `BoundedChannel` rule out a
sender waiting in front of a buffer with room, so the number of occupied
places alone decides whether anybody waits.
-/

/-- The messages buffered and the messages whose senders still wait. -/
structure BoundedChannel (Message : Type*) (capacity : ℕ) where
  queue : List Message
  waiting : List Message
  length_le : queue.length ≤ capacity
  full_of_waiting : waiting ≠ [] → queue.length = capacity

namespace BoundedChannel

variable {Message : Type*} {capacity : ℕ}

def empty (Message : Type*) (capacity : ℕ) : BoundedChannel Message capacity where
  queue := []
  waiting := []
  length_le := Nat.zero_le capacity
  full_of_waiting := fun hne => absurd rfl hne

def send (channel : BoundedChannel Message capacity) (message : Message) :
    BoundedChannel Message capacity :=
  if hroom : channel.queue.length < capacity then
    { queue := channel.queue ++ [message]
      waiting := channel.waiting
      length_le := by simpa using hroom
      full_of_waiting := fun hne => by
        have hfull := channel.full_of_waiting hne
        omega }
  else
    { queue := channel.queue
      waiting := channel.waiting ++ [message]
      length_le := channel.length_le
      full_of_waiting := fun _ =>
        Nat.le_antisymm channel.length_le (Nat.le_of_not_lt hroom) }

/-- Take the oldest buffered message; the longest waiting sender gets its
slot. -/
def receive (channel : BoundedChannel Message capacity) :
    Option (Message × BoundedChannel Message capacity) :=
  match hqueue : channel.queue, hwaiting : channel.waiting with
  | [], _ => none
  | message :: rest, [] =>
      some (message,
        { queue := rest
          waiting := []
          length_le := by
            have hle := channel.length_le
            simp only [hqueue, List.length_cons] at hle
            omega
          full_of_waiting := fun hne => absurd rfl hne })
  | message :: rest, first :: others =>
      some (message,
        { queue := rest ++ [first]
          waiting := others
          length_le := by
            have hle := channel.length_le
            simp only [hqueue, List.length_cons] at hle
            simpa using hle
          full_of_waiting := fun _ => by
            have hfull := channel.full_of_waiting (by simp [hwaiting])
            simp only [hqueue, List.length_cons] at hfull
            simpa using hfull })

/-- Drop the messages of some waiting senders, whose tasks were cancelled. -/
def cancelWaiting (channel : BoundedChannel Message capacity)
    (keep : Message → Bool) : BoundedChannel Message capacity where
  queue := channel.queue
  waiting := channel.waiting.filter keep
  length_le := channel.length_le
  full_of_waiting := fun hne => by
    apply channel.full_of_waiting
    intro hnil
    simp [hnil] at hne

def occupied (channel : BoundedChannel Message capacity) : ℕ :=
  channel.queue.length + channel.waiting.length

/-- Everything handed over and not yet taken, oldest first. -/
def pending (channel : BoundedChannel Message capacity) : List Message :=
  channel.queue ++ channel.waiting

@[simp] theorem occupied_empty :
    (empty Message capacity).occupied = 0 := rfl

@[simp] theorem pending_empty :
    (empty Message capacity).pending = [] := rfl

@[simp] theorem occupied_send
    (channel : BoundedChannel Message capacity) (message : Message) :
    (channel.send message).occupied = channel.occupied + 1 := by
  unfold send occupied
  split <;> simp only [List.length_append, List.length_singleton] <;> omega

theorem pending_send
    (channel : BoundedChannel Message capacity) (message : Message) :
    (channel.send message).pending = channel.pending ++ [message] := by
  unfold send pending
  split
  next hroom =>
    have hnobody : channel.waiting = [] := by
      by_contra hne
      have hfull := channel.full_of_waiting hne
      omega
    simp [hnobody]
  next => simp

theorem pending_foldl_send
    (channel : BoundedChannel Message capacity) (messages : List Message) :
    (messages.foldl send channel).pending = channel.pending ++ messages := by
  induction messages generalizing channel with
  | nil => rw [List.foldl_nil, List.append_nil]
  | cons message rest ih =>
      rw [List.foldl_cons, ih, pending_send, List.append_assoc,
        List.singleton_append]

theorem pending_of_receive
    {channel next : BoundedChannel Message capacity} {message : Message}
    (hreceive : channel.receive = some (message, next)) :
    channel.pending = message :: next.pending := by
  unfold receive at hreceive
  split at hreceive
  next => simp at hreceive
  next rest hqueue hwaiting =>
    simp only [Option.some.injEq, Prod.mk.injEq] at hreceive
    obtain ⟨rfl, rfl⟩ := hreceive
    simp [pending, hqueue, hwaiting]
  next rest first others hqueue hwaiting =>
    simp only [Option.some.injEq, Prod.mk.injEq] at hreceive
    obtain ⟨rfl, rfl⟩ := hreceive
    simp [pending, hqueue, hwaiting]

theorem length_pending (channel : BoundedChannel Message capacity) :
    channel.pending.length = channel.occupied := by
  simp [pending, occupied]

theorem occupied_foldl_send
    (channel : BoundedChannel Message capacity) (messages : List Message) :
    (messages.foldl send channel).occupied =
      channel.occupied + messages.length := by
  rw [← length_pending, ← length_pending, pending_foldl_send,
    List.length_append]

theorem occupied_of_receive
    {channel next : BoundedChannel Message capacity} {message : Message}
    (hreceive : channel.receive = some (message, next)) :
    channel.occupied = next.occupied + 1 := by
  rw [← length_pending, ← length_pending, pending_of_receive hreceive,
    List.length_cons]

/-- There is something to take as soon as something was handed over. -/
theorem exists_receive
    (hcapacity : 0 < capacity) {channel : BoundedChannel Message capacity}
    (hpos : 0 < channel.occupied) :
    ∃ message next, channel.receive = some (message, next) := by
  have hqueue : channel.queue ≠ [] := by
    intro hnil
    have hnobody : channel.waiting = [] := by
      by_contra hne
      have hfull := channel.full_of_waiting hne
      rw [hnil, List.length_nil] at hfull
      omega
    simp [occupied, hnil, hnobody] at hpos
  unfold receive
  split
  next hnil => exact absurd hnil hqueue
  next message rest hcons hnobody => exact ⟨message, _, rfl⟩
  next message rest first others hcons hwaiting => exact ⟨message, _, rfl⟩

/-- Somebody waits exactly when more was handed over than fits. -/
theorem waiting_eq_nil_iff (channel : BoundedChannel Message capacity) :
    channel.waiting = [] ↔ channel.occupied ≤ capacity := by
  have hle := channel.length_le
  constructor
  · intro hnil
    simpa [occupied, hnil] using hle
  · intro hfits
    by_contra hne
    have hfull := channel.full_of_waiting hne
    have hpos := List.length_pos_iff.mpr hne
    unfold occupied at hfits
    omega

theorem mem_queue_send
    {channel : BoundedChannel Message capacity} {message : Message}
    (hmem : message ∈ channel.queue) (other : Message) :
    message ∈ (channel.send other).queue := by
  unfold send
  split
  · exact List.mem_append_left _ hmem
  · exact hmem

theorem mem_queue_of_receive
    {channel next : BoundedChannel Message capacity}
    {message other : Message}
    (hreceive : channel.receive = some (message, next))
    (hmem : other ∈ channel.queue) :
    other = message ∨ other ∈ next.queue := by
  unfold receive at hreceive
  split at hreceive
  next => contradiction
  next rest hqueue hwaiting =>
    simp only [Option.some.injEq, Prod.mk.injEq] at hreceive
    obtain ⟨rfl, rfl⟩ := hreceive
    simpa [hqueue] using hmem
  next rest first others hqueue hwaiting =>
    simp only [Option.some.injEq, Prod.mk.injEq] at hreceive
    obtain ⟨rfl, rfl⟩ := hreceive
    rw [hqueue] at hmem
    rcases List.mem_cons.mp hmem with hfirst | hlater
    · exact Or.inl hfirst
    · exact Or.inr (List.mem_append_left _ hlater)

theorem pending_cancelWaiting_sublist
    (channel : BoundedChannel Message capacity) (keep : Message → Bool) :
    (channel.cancelWaiting keep).pending.Sublist channel.pending := by
  unfold pending cancelWaiting
  exact List.Sublist.append_left List.filter_sublist channel.queue

theorem occupied_cancelWaiting_of_nobody
    {channel : BoundedChannel Message capacity}
    (hnobody : channel.waiting = []) (keep : Message → Bool) :
    (channel.cancelWaiting keep).occupied = channel.occupied := by
  simp [occupied, cancelWaiting, hnobody]

end BoundedChannel
