import MeshController.Ipc
import MeshController.JsonFronts
import MeshController.LabelledRun
import MeshController.LineFraming

/-!
# Client messages on the socket

A client writes each message as one line of JSON.  The socket is a stream of
bytes, which reaches the daemon in pieces of any size and may be cut anywhere
when the client goes away.  For the daemon it is a queue of messages all the
same: none is lost, changed or made up.
-/

namespace MeshController

open JsonText LabelledRun LineFraming

/-! ## The JSON of a message -/

/-- A value which may be missing. -/
def optionJson {Value : Type} (toJson : Value → Json) : Option Value → Json
  | none => .null
  | some value => toJson value

/-- A variant with fields, under its name. -/
def variantJson (name : String) (fields : List (String × Json)) : Json :=
  .obj [(name, .obj fields)]

namespace ClientMessage

def toJson : ClientMessage → Json
  | .requestSnapshot => .str "RequestSnapshot"
  | .removeContact publicKeyPrefixHex =>
      variantJson "RemoveContact"
        [("public_key_prefix_hex", .str publicKeyPrefixHex)]
  | .setRepeaterStatus publicKeyPrefixHex name status =>
      variantJson "SetRepeaterStatus"
        [("public_key_prefix_hex", .str publicKeyPrefixHex),
          ("name", .str name),
          ("status", optionJson (fun tier => .str tier.tag) status)]
  | .addRepeater publicKeyHex name managed =>
      variantJson "AddRepeater"
        [("public_key_hex", .str publicKeyHex), ("name", .str name),
          ("managed", .bool managed)]
  | .requestTelemetry publicKeyPrefixHex =>
      variantJson "RequestTelemetry"
        [("public_key_prefix_hex", .str publicKeyPrefixHex)]
  | .requestRepeaterDetail publicKeyPrefixHex =>
      variantJson "RequestRepeaterDetail"
        [("public_key_prefix_hex", .str publicKeyPrefixHex)]

/-- `serde_json::to_string`. -/
def toText (message : ClientMessage) : String :=
  String.ofList (write message.toJson)

end ClientMessage

/-! ## Reading a message -/

/-- A variant without fields: its name, or its name with nothing under it. -/
def readUnit : Json → Option String
  | .str name => some name
  | .obj [(name, .null)] => some name
  | _ => none

def RepeaterStatus.ofTag : String → Option RepeaterStatus
  | "managed" => some .managed
  | "known" => some .known
  | "supervised" => some .supervised
  | _ => none

/-- The named fields, from an object or, in their order, from an array.  Other
fields are passed over; a field which comes twice is refused. -/
def readFieldsOf (names : List String) : Json → Option (List (Option Json))
  | .obj fields =>
      if ∀ name ∈ names, fields.countP (fun field => field.1 = name) ≤ 1 then
        some (names.map fun name => fields.lookup name)
      else none
  | .arr items =>
      if items.length = names.length then some (items.map some) else none
  | _ => none

def readString : Option Json → Option String
  | some (.str text) => some text
  | _ => none

def readBool : Option Json → Option Bool
  | some (.bool value) => some value
  | _ => none

/-- A status which is missing counts as none. -/
def readStatus : Option Json → Option (Option RepeaterStatus)
  | none => some none
  | some .null => some none
  | some json =>
      ((readUnit json).bind RepeaterStatus.ofTag).map fun status => some status

namespace ClientMessage

def ofPrefixField (build : String → ClientMessage) (content : Json) :
    Option ClientMessage := do
  match ← readFieldsOf ["public_key_prefix_hex"] content with
  | [field] => (readString field).map build
  | _ => none

def ofStatusFields (content : Json) : Option ClientMessage := do
  match ← readFieldsOf ["public_key_prefix_hex", "name", "status"] content with
  | [key, name, status] => do
      let publicKeyPrefixHex ← readString key
      let name ← readString name
      let status ← readStatus status
      some (.setRepeaterStatus publicKeyPrefixHex name status)
  | _ => none

def ofAddFields (content : Json) : Option ClientMessage := do
  match ← readFieldsOf ["public_key_hex", "name", "managed"] content with
  | [key, name, managed] => do
      let publicKeyHex ← readString key
      let name ← readString name
      let managed ← readBool managed
      some (.addRepeater publicKeyHex name managed)
  | _ => none

def ofVariant (name : String) (content : Json) : Option ClientMessage :=
  match name with
  | "RequestSnapshot" =>
      match content with
      | .null => some .requestSnapshot
      | _ => none
  | "RemoveContact" => ofPrefixField .removeContact content
  | "SetRepeaterStatus" => ofStatusFields content
  | "AddRepeater" => ofAddFields content
  | "RequestTelemetry" => ofPrefixField .requestTelemetry content
  | "RequestRepeaterDetail" => ofPrefixField .requestRepeaterDetail content
  | _ => none

def ofJson : Json → Option ClientMessage
  | .str "RequestSnapshot" => some .requestSnapshot
  | .obj [(name, content)] => ofVariant name content
  | _ => none

/-- `serde_json::from_str`. -/
def ofText (text : String) : Option ClientMessage :=
  (JsonText.read text).bind ofJson

theorem ofJson_toJson (message : ClientMessage) :
    ofJson message.toJson = some message := by
  cases message with
  | requestSnapshot => rfl
  | removeContact publicKeyPrefixHex => rfl
  | setRepeaterStatus publicKeyPrefixHex name status =>
      cases status with
      | none => rfl
      | some status => cases status <;> rfl
  | addRepeater publicKeyHex name managed => rfl
  | requestTelemetry publicKeyPrefixHex => rfl
  | requestRepeaterDetail publicKeyPrefixHex => rfl

theorem ofText_toText (message : ClientMessage) :
    ofText message.toText = some message := by
  rw [ofText, toText, read_write, Option.bind_some, ofJson_toJson]

theorem toJson_ne_int (message : ClientMessage) (number : ℤ) :
    message.toJson ≠ .int number := by
  cases message <;> exact Json.noConfusion

/-- The bytes of a message, without the line feed. -/
def line (message : ClientMessage) : List UInt8 :=
  Utf8Lossy.bytes message.toText

theorem printable_toText (message : ClientMessage) :
    ∀ c ∈ message.toText.toList, 0x20 ≤ c.toNat := by
  rw [toText, String.toList_ofList]
  exact printable_write message.toJson

theorem writable_line (message : ClientMessage) : Writable message.line :=
  writable_bytes message.printable_toText

theorem return_not_mem_line (message : ClientMessage) :
    (13 : UInt8) ∉ message.line := by
  intro hmem
  exact absurd (printable_bytes message.printable_toText 13 hmem) (by decide)

theorem writable_of_mem_lines
    {messages : List ClientMessage} {bytes : List UInt8}
    (hmem : bytes ∈ messages.map line) : Writable bytes := by
  obtain ⟨message, _, rfl⟩ := List.mem_map.mp hmem
  exact message.writable_line

/-- A message which has been cut is not taken for another one. -/
theorem ofText_of_cut
    {message : ClientMessage} {cut : String} {behind : List UInt8}
    (hline : message.line = Utf8Lossy.bytes cut ++ behind)
    (hbehind : behind ≠ []) : ofText cut = none := by
  obtain ⟨rest, hrest⟩ := exists_append_of_bytes_append hline
  rw [toText, String.toList_ofList] at hrest
  have hne : rest ≠ [] := by
    rintro rfl
    rw [List.append_nil] at hrest
    have htext : message.toText = cut := by
      apply String.toList_inj.mp
      rw [toText, String.toList_ofList, hrest]
    rw [line, htext] at hline
    exact hbehind (List.self_eq_append_right.mp hline)
  have hread := read_of_cut message.toJson_ne_int hrest hne
  rw [String.ofList_toList] at hread
  rw [ofText, hread]
  rfl

end ClientMessage

/-! ## The connection -/

/-- `sent` and `received` are in order.  `inFlight` is what has been written
and has not arrived, `begun` what has arrived of an unfinished line. -/
structure SocketLink where
  sent : List ClientMessage
  inFlight : List UInt8
  begun : List UInt8
  received : List ClientMessage
  closed : Bool

/-- `cut` is the client going away: `count` bytes still arrive, and then the
stream ends. -/
inductive SocketAction where
  | send (message : ClientMessage)
  | deliver (count : ℕ)
  | cut (count : ℕ)

namespace SocketLink

def start : SocketLink where
  sent := []
  inFlight := []
  begun := []
  received := []
  closed := false

/-- `handle_client` with a line: one which is no message is passed over, one
which is no text ends the connection. -/
def handle (link : SocketLink) (line : List UInt8) : SocketLink :=
  if link.closed then link
  else
    match readUtf8 line with
    | none => { link with closed := true }
    | some text =>
        { link with
          received := link.received ++ (ClientMessage.ofText text).toList }

def deliver (link : SocketLink) (count : ℕ) : SocketLink :=
  let drained := drain link.begun (link.inFlight.take count)
  drained.1.foldl handle
    { link with
      inFlight := link.inFlight.drop count
      begun := drained.2 }

def finish (link : SocketLink) : SocketLink :=
  { ((lastLine link.begun).elim link link.handle) with closed := true }

def step (link : SocketLink) : SocketAction → Option SocketLink
  | .send message =>
      if link.closed then none
      else
        some { link with
          sent := link.sent ++ [message]
          inFlight := link.inFlight ++ (message.line ++ [10]) }
  | .deliver count => if link.closed then none else some (link.deliver count)
  | .cut count =>
      if link.closed then none else some (link.deliver count).finish

theorem handle_line
    {link : SocketLink} (hopen : link.closed = false)
    (message : ClientMessage) :
    link.handle message.line =
      { link with received := link.received ++ [message] } := by
  rw [handle, hopen, ClientMessage.line, readUtf8_bytes]
  simp only [Bool.false_eq_true, if_false, ClientMessage.ofText_toText,
    Option.toList_some]

theorem foldl_handle_lines
    {link : SocketLink} (hopen : link.closed = false)
    (messages : List ClientMessage) :
    (messages.map ClientMessage.line).foldl handle link =
      { link with received := link.received ++ messages } := by
  induction messages generalizing link with
  | nil => simp
  | cons message messages ih =>
      rw [List.map_cons, List.foldl_cons, handle_line hopen, ih]
      · simp
      · exact hopen

/-- The front of a message is that message, if it is the whole, or nothing. -/
theorem handle_front
    {link : SocketLink} (hopen : link.closed = false)
    {message : ClientMessage} {front behind : List UInt8}
    (hline : message.line = front ++ behind) :
    (link.handle front).received = link.received ∨
      (link.handle front).received = link.received ++ [message] := by
  by_cases hbehind : behind = []
  · right
    rw [hbehind, List.append_nil] at hline
    rw [← hline, handle_line hopen]
  · left
    unfold handle
    rw [hopen]
    simp only [Bool.false_eq_true, if_false]
    cases hread : readUtf8 front with
    | none => rfl
    | some text =>
        rw [← bytes_of_readUtf8 hread] at hline
        simp only [ClientMessage.ofText_of_cut hline hbehind,
          Option.toList_none, List.append_nil]

/-- What has been written and not received is on its way. -/
structure Carries (link : SocketLink) : Prop where
  opened : link.closed = false
  clean : (10 : UInt8) ∉ link.begun
  underWay : ∃ rest : List ClientMessage,
    link.sent = link.received ++ rest ∧
      link.begun ++ link.inFlight = framed (rest.map ClientMessage.line)

theorem start_carries : start.Carries :=
  ⟨rfl, List.not_mem_nil, [], rfl, rfl⟩

theorem Carries.afterSend
    {link : SocketLink} (hcarries : link.Carries) (message : ClientMessage) :
    Carries
      { link with
        sent := link.sent ++ [message]
        inFlight := link.inFlight ++ (message.line ++ [10]) } := by
  obtain ⟨rest, hsent, hbytes⟩ := hcarries.underWay
  refine ⟨hcarries.opened, hcarries.clean, rest ++ [message], ?_, ?_⟩
  · rw [hsent, List.append_assoc]
  · rw [List.map_append, framed_append, ← hbytes, List.append_assoc,
      List.map_singleton, framed_cons, framed_nil]

theorem Carries.deliver
    {link : SocketLink} (hcarries : link.Carries) (count : ℕ) :
    (link.deliver count).Carries := by
  obtain ⟨rest, hsent, hbytes⟩ := hcarries.underWay
  rw [← List.take_append_drop count link.inFlight] at hbytes
  obtain ⟨lines, hlines, hkept, hclean⟩ :=
    drain_of_framed (fun line hmem => ClientMessage.writable_of_mem_lines hmem)
      hcarries.clean hbytes
  obtain ⟨arrived, later, rfl, harrived, rfl⟩ :=
    List.map_eq_append_iff.mp hlines
  have hreceived : link.deliver count =
      { link with
        inFlight := link.inFlight.drop count
        begun := (drain link.begun (link.inFlight.take count)).2
        received := link.received ++ arrived } := by
    rw [SocketLink.deliver, ← harrived, foldl_handle_lines]
    exact hcarries.opened
  rw [hreceived]
  refine ⟨hcarries.opened, hclean, later, ?_, hkept⟩
  rw [hsent, List.append_assoc]

/-- What is left when the stream ends is the front of the next message. -/
theorem Carries.exists_front
    {link : SocketLink} {message : ClientMessage}
    {others : List ClientMessage} (hcarries : link.Carries)
    (hbytes : link.begun ++ link.inFlight =
      framed ((message :: others).map ClientMessage.line)) :
    ∃ behind, message.line = link.begun ++ behind := by
  rw [List.map_cons, framed_cons] at hbytes
  rcases List.append_eq_append_iff.mp hbytes with
    ⟨behind, hline, _⟩ | ⟨extra, hbegun, hextra⟩
  · exact ⟨behind, hline⟩
  · cases extra with
    | nil =>
        rw [List.append_nil] at hbegun
        exact ⟨[], by rw [hbegun, List.append_nil]⟩
    | cons byte extra =>
        rw [List.cons_append, List.cons.injEq] at hextra
        have hmem : (10 : UInt8) ∈ link.begun := by
          rw [hbegun, hextra.1]
          exact List.mem_append_right _ List.mem_cons_self
        exact absurd hmem hcarries.clean

/-- Of the message which is cut nothing but the whole is received. -/
theorem Carries.finish
    {link : SocketLink} (hcarries : link.Carries) :
    link.finish.received <+: link.sent := by
  obtain ⟨rest, hsent, hbytes⟩ := hcarries.underWay
  have hunchanged : link.received <+: link.sent := ⟨rest, hsent.symm⟩
  unfold SocketLink.finish lastLine
  split_ifs with hempty
  · exact hunchanged
  · cases rest with
    | nil =>
        have hbegun := (List.append_eq_nil_iff.mp hbytes).1
        exact absurd (Or.inl hbegun) hempty
    | cons message others =>
        obtain ⟨behind, hline⟩ := hcarries.exists_front hbytes
        have hreturn : stripReturn link.begun = link.begun := by
          apply if_neg
          intro hlast
          apply message.return_not_mem_line
          rw [hline]
          exact List.mem_append_left _ (List.mem_of_getLast? hlast)
        rw [Option.elim_some, hreturn]
        rcases handle_front hcarries.opened hline with hsame | hwhole
        · exact hsame ▸ hunchanged
        · change (link.handle link.begun).received <+: link.sent
          rw [hwhole, hsent]
          exact ⟨others, by simp⟩

theorem received_of_carries
    {link : SocketLink} (hcarries : link.Carries)
    (harrived : link.inFlight = []) : link.received = link.sent := by
  obtain ⟨rest, hsent, hbytes⟩ := hcarries.underWay
  rw [harrived, List.append_nil] at hbytes
  cases rest with
  | nil => rw [hsent, List.append_nil]
  | cons message others =>
      have hmem : (10 : UInt8) ∈ link.begun := by
        rw [hbytes, List.map_cons, framed_cons]
        exact List.mem_append_right _ List.mem_cons_self
      exact absurd hmem hcarries.clean

theorem sent_finish (link : SocketLink) : link.finish.sent = link.sent := by
  unfold SocketLink.finish
  cases lastLine link.begun with
  | none => rfl
  | some line =>
      change (link.handle line).sent = link.sent
      unfold handle
      split
      · rfl
      · split <;> rfl

/-- The connection is over once the stream has ended. -/
def Over (link : SocketLink) : Prop :=
  link.closed = true ∧ link.received <+: link.sent

theorem Carries.step
    {link next : SocketLink} {action : SocketAction} (hcarries : link.Carries)
    (hstep : SocketLink.step link action = some next) :
    next.Carries ∨ (∃ count, action = .cut count) ∧ next.Over := by
  cases action with
  | send message =>
      rw [SocketLink.step, Option.ite_none_left_eq_some,
        Option.some.injEq] at hstep
      exact Or.inl (hstep.2 ▸ hcarries.afterSend message)
  | deliver count =>
      rw [SocketLink.step, Option.ite_none_left_eq_some,
        Option.some.injEq] at hstep
      exact Or.inl (hstep.2 ▸ hcarries.deliver count)
  | cut count =>
      rw [SocketLink.step, Option.ite_none_left_eq_some,
        Option.some.injEq] at hstep
      rcases hstep with ⟨_, rfl⟩
      right
      refine ⟨⟨count, rfl⟩, rfl, ?_⟩
      rw [sent_finish]
      exact (hcarries.deliver count).finish

theorem step_of_over
    {link : SocketLink} (hover : link.Over) (action : SocketAction) :
    SocketLink.step link action = none := by
  cases action <;> exact if_pos hover.1

theorem carries_or_over_step
    (link : SocketLink) (action : SocketAction) (next : SocketLink)
    (hlink : link.Carries ∨ link.Over)
    (hstep : SocketLink.step link action = some next) :
    next.Carries ∨ next.Over := by
  rcases hlink with hcarries | hover
  · rcases hcarries.step hstep with hnext | ⟨_, hnext⟩
    · exact Or.inl hnext
    · exact Or.inr hnext
  · rw [step_of_over hover] at hstep
    cases hstep

theorem carries_step_of_no_cut
    (link : SocketLink) (action : SocketAction) (next : SocketLink)
    (hcarries : link.Carries) (hno : ∀ count, action ≠ .cut count)
    (hstep : SocketLink.step link action = some next) : next.Carries := by
  rcases hcarries.step hstep with hnext | ⟨⟨count, hcut⟩, _⟩
  · exact hnext
  · exact absurd hcut (hno count)

end SocketLink

open SocketLink

end MeshController
