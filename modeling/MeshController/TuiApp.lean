import MeshController.Ipc

/-!
# The terminal client's state

The part of `App` which server messages change, and the one request the
client sends by itself: a fresh snapshot after the events which mean that the
daemon's own state has just changed.
-/

namespace MeshController

def maxEvents : ℕ := 200

def maxPackets : ℕ := 2000

/-- `events` and `packets` are most recent first. -/
structure App where
  snapshot : Snapshot
  events : List MeshEvent
  lastStatus : Option String
  packets : List PacketLogEntry
deriving DecidableEq

def App.new : App where
  snapshot := Snapshot.default
  events := []
  lastStatus := none
  packets := []

def App.applySnapshot (app : App) (snapshot : Snapshot) : App :=
  { app with snapshot := snapshot }

def App.pushEvent (app : App) (event : MeshEvent) : App :=
  if app.events.length ≥ maxEvents then
    { app with events := event :: app.events.dropLast }
  else { app with events := event :: app.events }

def App.setPacketLog (app : App) (backlog : List PacketLogEntry) : App :=
  { app with packets := backlog.take maxPackets }

def App.pushPacket (app : App) (entry : PacketLogEntry) : App :=
  { app with packets := (entry :: app.packets).take maxPackets }

def needsFreshSnapshot : MeshEventKind → Bool
  | .connected => true
  | .contactRemoved .. => true
  | .newContact .. => true
  | .configReloaded .. => true
  | .telemetryReceived .. => true
  | .repeaterStatusChanged .. => true
  | _ => false

/-- The new state, and what the client sends to the daemon because of the
message. -/
def App.applyServerMessage
    (app : App) : ServerMessage → App × List ClientMessage
  | .snapshot snapshot => (app.applySnapshot snapshot, [])
  | .event event =>
      (app.pushEvent event,
        if needsFreshSnapshot event.kind then [.requestSnapshot] else [])
  | .packetLog backlog => (app.setPacketLog backlog, [])
  | .packetLogEntry entry => (app.pushPacket entry, [])
  | .error message => ({ app with lastStatus := some message }, [])
  | .telemetryResult .. => (app, [])
  | .hello .. => (app, [])

def App.afterMessages (app : App) (messages : List ServerMessage) : App :=
  messages.foldl (fun app message => (app.applyServerMessage message).1) app

@[simp] theorem App.afterMessages_nil (app : App) :
    app.afterMessages [] = app := rfl

theorem App.afterMessages_cons
    (app : App) (message : ServerMessage) (rest : List ServerMessage) :
    app.afterMessages (message :: rest) =
      (app.applyServerMessage message).1.afterMessages rest := rfl

theorem App.afterMessages_append
    (app : App) (first second : List ServerMessage) :
    app.afterMessages (first ++ second) =
      (app.afterMessages first).afterMessages second := by
  simp [App.afterMessages]

@[simp] theorem App.snapshot_pushEvent (app : App) (event : MeshEvent) :
    (app.pushEvent event).snapshot = app.snapshot := by
  unfold App.pushEvent
  split <;> rfl

@[simp] theorem App.packets_pushEvent (app : App) (event : MeshEvent) :
    (app.pushEvent event).packets = app.packets := by
  unfold App.pushEvent
  split <;> rfl

/-- Only a snapshot changes the snapshot a client holds. -/
theorem App.snapshot_applyServerMessage
    (app : App) (message : ServerMessage)
    (hother : ∀ snapshot, message ≠ .snapshot snapshot) :
    (app.applyServerMessage message).1.snapshot = app.snapshot := by
  cases message with
  | snapshot snapshot => exact absurd rfl (hother snapshot)
  | event event => simp [App.applyServerMessage]
  | hello version => rfl
  | packetLog backlog => rfl
  | packetLogEntry entry => rfl
  | error message => rfl
  | telemetryResult key telemetry => rfl

theorem App.packets_pushPacket_take
    {app : App} {base : List PacketLogEntry}
    (hbase : app.packets = base.take maxPackets) (entry : PacketLogEntry) :
    (app.pushPacket entry).packets = (entry :: base).take maxPackets := by
  simp only [App.pushPacket, hbase, maxPackets]
  rw [List.take_cons (by omega), List.take_cons (by omega), List.take_take]
  rfl

end MeshController
