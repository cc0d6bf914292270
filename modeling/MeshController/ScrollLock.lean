import MeshController.HeadCount
import MeshController.PacketDelivery

/-!
# The counter of new packets under scroll lock

A locked view shows the packet list as it was, while the list itself goes on
changing: packets are pushed, and each connection to the daemon begins by
replacing the list.  The client counts what is new by the packet ids, which
one daemon gives out in increasing order, and which start again with the next.
-/

namespace MeshController

open LabelledRun HeadCount

/-- The client's state on the packet page; `lockedView` is the list as it was
when the view was locked. -/
structure PacketPage where
  app : App
  lockedView : Option (List PacketLogEntry)
deriving DecidableEq

namespace PacketPage

def toggleScrollLock (page : PacketPage) : PacketPage :=
  { page with
    lockedView :=
      if page.lockedView.isSome then none else some page.app.packets }

def newPacketsSinceLock (page : PacketPage) : ℕ :=
  match page.lockedView with
  | none => 0
  | some frozen =>
      match frozen.head?.map fun p => p.id with
      | none => page.app.packets.length
      | some newestLockedId =>
          (page.app.packets.takeWhile fun p => p.id > newestLockedId).length

end PacketPage

/-! ## The daemons and the client -/

/-- The daemon that runs, and the client.  `lifetime` counts the restarts of
the daemon, and the client has applied `received` of the messages which the
present connection has brought.  `packetsLifetime` and `lockedLifetime` are
the lifetimes of the daemons which recorded the list and the locked view. -/
structure PacketWatch where
  lifetime : ℕ
  feed : PacketFeed
  received : ℕ
  page : PacketPage
  packetsLifetime : ℕ
  lockedLifetime : ℕ

inductive WatchAction where
  | daemon (action : FeedAction)
  | restart (config : Config)
  | reconnect
  | receive
  | toggleScrollLock

/-- The connection is lost, and the daemon awaits the next one. -/
def PacketFeed.disconnect (feed : PacketFeed) : PacketFeed :=
  { feed with
    phase := .accepted
    packetLogRx := BroadcastReceiver.subscribe _
    sent := [] }

namespace PacketWatch

def start (config : Config) : PacketWatch where
  lifetime := 0
  feed := PacketFeed.start config
  received := 0
  page := ⟨App.new, none⟩
  packetsLifetime := 0
  lockedLifetime := 0

def apply (watch : PacketWatch) (message : ServerMessage) : PacketWatch :=
  { watch with
    received := watch.received + 1
    page :=
      { watch.page with
        app := (watch.page.app.applyServerMessage message).1 }
    packetsLifetime :=
      match message with
      | .packetLog _ => watch.lifetime
      | _ => watch.packetsLifetime }

def step [MeshcoreRs] : Machine PacketWatch WatchAction
  | watch, .daemon action =>
      (PacketFeed.step watch.feed action).map fun feed =>
        { watch with feed := feed }
  | watch, .restart config =>
      some { watch with
        lifetime := watch.lifetime + 1
        feed := PacketFeed.start config
        received := 0 }
  | watch, .reconnect =>
      some { watch with feed := watch.feed.disconnect, received := 0 }
  | watch, .receive => watch.feed.sent[watch.received]?.map watch.apply
  | watch, .toggleScrollLock =>
      some { watch with
        page := watch.page.toggleScrollLock
        lockedLifetime :=
          if watch.page.lockedView.isSome then watch.lockedLifetime
          else watch.packetsLifetime }

/-! ## What is to be counted -/

/-- The packet was recorded after every packet of the locked view: by a later
daemon, or with a higher id by the same. -/
def recordedAfterLock
    (watch : PacketWatch) (frozen : List PacketLogEntry) (lifetime : ℕ)
    (entry : PacketLogEntry) : Bool :=
  frozen.all fun locked =>
    decide (watch.lockedLifetime < lifetime) ||
      decide (watch.lockedLifetime = lifetime ∧ locked.id < entry.id)

def CountsNewPackets (watch : PacketWatch) : Prop :=
  ∀ frozen ∈ watch.page.lockedView,
    watch.page.newPacketsSinceLock =
      watch.page.app.packets.countP
        (watch.recordedAfterLock frozen watch.packetsLifetime)

/-- The test of the client, which knows the first packet of the locked view
only. -/
def looksNew (first entry : PacketLogEntry) : Bool :=
  decide (first.id < entry.id)

/-- A packet of the daemon of the locked view has no id above that of the first
locked packet unless it has one above them all; and a packet of a later daemon
has an id above that of the first locked packet. -/
def NumberedAsRecorded
    (watch : PacketWatch) (first : PacketLogEntry)
    (frozen : List PacketLogEntry) (entry : PacketLogEntry) : Prop :=
  if watch.lifetime = watch.lockedLifetime then
    entry.id ≤ first.id ∨ ∀ locked ∈ frozen, locked.id < entry.id
  else first.id < entry.id

/-- Every packet of the message is numbered as it was recorded, and one which
is no newer than the lock is not pushed after one which is. -/
def MessageInOrder
    (watch : PacketWatch) (first : PacketLogEntry)
    (frozen : List PacketLogEntry) : ServerMessage → Prop
  | .packetLog backlog =>
      ∀ entry ∈ backlog.take maxPackets,
        watch.NumberedAsRecorded first frozen entry
  | .packetLogEntry entry =>
      watch.NumberedAsRecorded first frozen entry ∧
        (first.id < entry.id ∨
          ∀ newest ∈ watch.page.app.packets.head?, newest.id ≤ first.id)
  | _ => True

def ArrivesInOrder (watch : PacketWatch) : WatchAction → Prop
  | .receive =>
      ∀ message ∈ watch.feed.sent[watch.received]?,
        ∀ frozen ∈ watch.page.lockedView, ∀ first ∈ frozen.head?,
          watch.MessageInOrder first frozen message
  | _ => True

section Decisions

variable (watch : PacketWatch)

instance : Decidable watch.CountsNewPackets :=
  inferInstanceAs (Decidable (∀ frozen ∈ watch.page.lockedView, _ = _))

instance (first : PacketLogEntry) (frozen : List PacketLogEntry)
    (entry : PacketLogEntry) :
    Decidable (watch.NumberedAsRecorded first frozen entry) :=
  inferInstanceAs (Decidable
    (if watch.lifetime = watch.lockedLifetime then
      entry.id ≤ first.id ∨ ∀ locked ∈ frozen, locked.id < entry.id
    else first.id < entry.id))

instance (first : PacketLogEntry) (frozen : List PacketLogEntry) :
    ∀ message, Decidable (watch.MessageInOrder first frozen message)
  | .packetLog backlog =>
      inferInstanceAs (Decidable (∀ entry ∈ backlog.take maxPackets,
        watch.NumberedAsRecorded first frozen entry))
  | .packetLogEntry entry =>
      inferInstanceAs (Decidable
        (watch.NumberedAsRecorded first frozen entry ∧ (_ ∨ _)))
  | .hello _ => isTrue trivial
  | .snapshot _ => isTrue trivial
  | .event _ => isTrue trivial
  | .error _ => isTrue trivial
  | .telemetryResult .. => isTrue trivial

instance : ∀ action, Decidable (watch.ArrivesInOrder action)
  | .receive =>
      inferInstanceAs (Decidable
        (∀ message ∈ watch.feed.sent[watch.received]?,
          ∀ frozen ∈ watch.page.lockedView, ∀ first ∈ frozen.head?,
            watch.MessageInOrder first frozen message))
  | .daemon _ => isTrue trivial
  | .restart _ => isTrue trivial
  | .reconnect => isTrue trivial
  | .toggleScrollLock => isTrue trivial

end Decisions

end PacketWatch

/-! ## The messages of one connection -/

/-- The backlog comes before the packets which are pushed, and is sorted. -/
structure PacketFeed.BacklogFirst (feed : PacketFeed) : Prop where
  announced : feed.phase = .forwarding →
    ∃ backlog, ServerMessage.packetLog backlog ∈ feed.sent
  followed : ∀ earlier entry,
    earlier ++ [ServerMessage.packetLogEntry entry] <+: feed.sent →
      ∃ backlog, ServerMessage.packetLog backlog ∈ earlier
  sorted : ∀ backlog, ServerMessage.packetLog backlog ∈ feed.sent →
    PacketFeed.NewestFirst backlog

namespace PacketFeed

theorem backlogFirst_of_unsent
    {feed : PacketFeed} (haccepted : feed.phase = .accepted)
    (hunsent : feed.sent = []) : feed.BacklogFirst := by
  constructor
  · intro hphase
    rw [haccepted] at hphase
    contradiction
  · intro earlier entry hsent
    rw [hunsent] at hsent
    have hempty := List.prefix_nil.mp hsent
    simp at hempty
  · intro backlog hmem
    rw [hunsent] at hmem
    contradiction

theorem start_backlogFirst (config : Config) : (start config).BacklogFirst :=
  backlogFirst_of_unsent rfl rfl

theorem disconnect_backlogFirst (feed : PacketFeed) :
    feed.disconnect.BacklogFirst :=
  backlogFirst_of_unsent rfl rfl

theorem disconnect_logInvariant
    {feed : PacketFeed} (hgood : feed.LogInvariant) :
    feed.disconnect.LogInvariant :=
  ⟨hgood.idsIncrease, hgood.idsUsed, hgood.logNewest⟩

theorem LogInvariant.newestFirst_packetLog
    {feed : PacketFeed} (hgood : feed.LogInvariant) :
    NewestFirst feed.packetLog := by
  apply newestFirst_of_sublist_reverse hgood.idsIncrease
  rw [hgood.logNewest]
  exact List.take_sublist _ _

theorem BacklogFirst.afterSaying
    {feed : PacketFeed} (hgood : feed.BacklogFirst)
    {message : ServerMessage} {phase : FeedPhase}
    (hannounced : phase = .forwarding → feed.phase = .forwarding ∨
      ∃ backlog, message = .packetLog backlog)
    (hpushed : ∀ entry, message = .packetLogEntry entry →
      feed.phase = .forwarding)
    (hsorted : ∀ backlog, message = .packetLog backlog →
      NewestFirst backlog) :
    (feed.say message phase).BacklogFirst := by
  constructor
  · intro hphase
    rcases hannounced hphase with hbefore | ⟨backlog, hmessage⟩
    · rcases hgood.announced hbefore with ⟨backlog, hmem⟩
      exact ⟨backlog, List.mem_append_left _ hmem⟩
    · use backlog
      rw [← hmessage]
      exact List.mem_append_right _ List.mem_cons_self
  · intro earlier entry hsent
    change _ <+: feed.sent ++ [message] at hsent
    rcases List.prefix_concat_iff.mp hsent with hwhole | hbefore
    · rcases List.append_inj' hwhole rfl with ⟨rfl, hlast⟩
      simp only [List.cons.injEq, and_true] at hlast
      exact hgood.announced (hpushed entry hlast.symm)
    · exact hgood.followed earlier entry hbefore
  · intro backlog hmem
    rcases List.mem_append.mp hmem with hold | hnew
    · exact hgood.sorted backlog hold
    · exact hsorted backlog (List.mem_singleton.mp hnew).symm

section Steps

variable [MeshcoreRs]

theorem BacklogFirst.afterStep
    {feed next : PacketFeed} {action : FeedAction}
    (hgood : feed.BacklogFirst) (hlog : feed.LogInvariant)
    (hstep : step feed action = some next) : next.BacklogFirst := by
  cases moves_of_step hstep with
  | rawEvent event nowUnix =>
      constructor
      · simpa using hgood.announced
      · simpa using hgood.followed
      · simpa using hgood.sorted
  | broadcastPacket => exact ⟨hgood.announced, hgood.followed, hgood.sorted⟩
  | subscribe => exact ⟨by simp, hgood.followed, hgood.sorted⟩
  | sendHello | sendSnapshot =>
      exact hgood.afterSaying (by simp) (by simp) (by simp)
  | sendPacketLog =>
      apply hgood.afterSaying
      · intro _
        exact Or.inr ⟨_, rfl⟩
      · simp
      · intro backlog hbacklog
        cases hbacklog
        exact hlog.newestFirst_packetLog
  | @forwardPacket entry rest hforwarding =>
      have hsame : ({ feed with packetLogRx := rest } :
          PacketFeed).BacklogFirst :=
        ⟨hgood.announced, hgood.followed, hgood.sorted⟩
      apply hsame.afterSaying
      · intro _
        exact Or.inl hforwarding
      · intro _ _
        exact hforwarding
      · simp
  | @sendOther message hforwarding hquiet =>
      apply hgood.afterSaying
      · intro _
        exact Or.inl hforwarding
      · intro _ _
        exact hforwarding
      · intro backlog hbacklog
        rw [hbacklog] at hquiet
        contradiction

theorem sent_of_step
    {feed next : PacketFeed} {action : FeedAction}
    (hstep : step feed action = some next) : feed.sent <+: next.sent := by
  cases moves_of_step hstep with
  | rawEvent => simp
  | broadcastPacket | subscribe => exact List.prefix_refl _
  | sendHello | sendSnapshot | sendPacketLog | forwardPacket | sendOther =>
      exact List.prefix_append _ _

end Steps

end PacketFeed

namespace PacketWatch

/-! ## Lists of one lifetime -/

/-- Once the client has the backlog, its list is of the running daemon. -/
structure Sound (watch : PacketWatch) : Prop where
  log : watch.feed.LogInvariant
  conversation : watch.feed.BacklogFirst
  received_le : watch.received ≤ watch.feed.sent.length
  listed : (∃ backlog, ServerMessage.packetLog backlog ∈
    watch.feed.sent.take watch.received) →
      watch.packetsLifetime = watch.lifetime
  packets_le : watch.packetsLifetime ≤ watch.lifetime
  locked_le : watch.page.lockedView.isSome →
    watch.lockedLifetime ≤ watch.packetsLifetime

theorem start_sound (config : Config) : (start config).Sound := by
  constructor
  · exact PacketFeed.start_logInvariant config
  · exact PacketFeed.start_backlogFirst config
  · exact Nat.zero_le _
  · rintro ⟨backlog, hmem⟩
    contradiction
  · exact Nat.le_refl _
  · intro hlocked
    contradiction

theorem Sound.afterConnecting
    {watch : PacketWatch} (hgood : watch.Sound) {feed : PacketFeed}
    (hlog : feed.LogInvariant) (hconversation : feed.BacklogFirst)
    {lifetime : ℕ} (hlifetime : watch.lifetime ≤ lifetime) :
    ({ watch with lifetime := lifetime, feed := feed, received := 0 } :
      PacketWatch).Sound := by
  constructor
  · exact hlog
  · exact hconversation
  · exact Nat.zero_le _
  · rintro ⟨backlog, hmem⟩
    contradiction
  · exact hgood.packets_le.trans hlifetime
  · exact hgood.locked_le

theorem Sound.afterDaemon [MeshcoreRs]
    {watch : PacketWatch} (hgood : watch.Sound)
    {feed : PacketFeed} {action : FeedAction}
    (hstep : PacketFeed.step watch.feed action = some feed) :
    ({ watch with feed := feed } : PacketWatch).Sound := by
  rcases PacketFeed.sent_of_step hstep with ⟨later, hsent⟩
  have hread : feed.sent.take watch.received =
      watch.feed.sent.take watch.received := by
    rw [← hsent, List.take_append_of_le_length hgood.received_le]
  constructor
  · exact hgood.log.afterStep hstep
  · exact hgood.conversation.afterStep hgood.log hstep
  · change watch.received ≤ feed.sent.length
    rw [← hsent, List.length_append]
    exact Nat.le_add_right_of_le hgood.received_le
  · change (∃ backlog, ServerMessage.packetLog backlog ∈
      feed.sent.take watch.received) → _
    rw [hread]
    exact hgood.listed
  · exact hgood.packets_le
  · exact hgood.locked_le

section Receiving

variable {watch : PacketWatch} {message : ServerMessage}

theorem take_received_succ
    (hnext : watch.feed.sent[watch.received]? = some message) :
    watch.feed.sent.take (watch.received + 1) =
      watch.feed.sent.take watch.received ++ [message] := by
  rw [List.take_add_one, hnext, Option.toList_some]

/-- A packet is pushed to a list of the daemon which recorded it. -/
theorem Sound.packetsLifetime_of_pushed
    (hgood : watch.Sound) {entry : PacketLogEntry}
    (hnext : watch.feed.sent[watch.received]? =
      some (.packetLogEntry entry)) :
    watch.packetsLifetime = watch.lifetime := by
  apply hgood.listed
  apply hgood.conversation.followed _ entry
  rw [← take_received_succ hnext]
  exact List.take_prefix _ _

/-- Only a backlog makes the list one of the running daemon. -/
theorem packetsLifetime_apply (watch : PacketWatch) (message : ServerMessage) :
    (watch.apply message).packetsLifetime = watch.lifetime ∨
      (∀ backlog, message ≠ .packetLog backlog) ∧
        (watch.apply message).packetsLifetime = watch.packetsLifetime := by
  cases message with
  | packetLog backlog => exact Or.inl rfl
  | hello | snapshot | event | packetLogEntry | error | telemetryResult =>
      right
      constructor
      · simp
      · rfl

theorem Sound.afterReceiving
    (hgood : watch.Sound)
    (hnext : watch.feed.sent[watch.received]? = some message) :
    (watch.apply message).Sound := by
  have hbound : watch.received < watch.feed.sent.length :=
    (List.getElem?_eq_some_iff.mp hnext).1
  have hlifetime := watch.packetsLifetime_apply message
  constructor
  · exact hgood.log
  · exact hgood.conversation
  · exact hbound
  · change (∃ backlog, ServerMessage.packetLog backlog ∈
      watch.feed.sent.take (watch.received + 1)) →
        (watch.apply message).packetsLifetime = watch.lifetime
    rw [take_received_succ hnext]
    rintro ⟨backlog, hmem⟩
    rcases hlifetime with hnow | ⟨hother, hsame⟩
    · exact hnow
    · rw [hsame]
      apply hgood.listed
      use backlog
      rcases List.mem_append.mp hmem with hread | hlast
      · exact hread
      · exact absurd (List.mem_singleton.mp hlast).symm (hother backlog)
  · change (watch.apply message).packetsLifetime ≤ watch.lifetime
    rcases hlifetime with hnow | ⟨_, hsame⟩
    · exact hnow.le
    · exact hsame ▸ hgood.packets_le
  · intro hlocked
    have hearlier := hgood.locked_le hlocked
    change watch.lockedLifetime ≤ (watch.apply message).packetsLifetime
    rcases hlifetime with hnow | ⟨_, hsame⟩
    · exact hnow ▸ hearlier.trans hgood.packets_le
    · exact hsame ▸ hearlier

end Receiving

theorem Sound.afterToggle
    {watch : PacketWatch} (hgood : watch.Sound) {lockedLifetime : ℕ}
    (hlocked : watch.page.toggleScrollLock.lockedView.isSome →
      lockedLifetime ≤ watch.packetsLifetime) :
    ({ watch with
      page := watch.page.toggleScrollLock
      lockedLifetime := lockedLifetime } : PacketWatch).Sound :=
  ⟨hgood.log, hgood.conversation, hgood.received_le, hgood.listed,
    hgood.packets_le, hlocked⟩

/-! ## How the client counts -/

/-- The list begins with what is new since the lock, and the packet after
that looks old to the client. -/
def Divided (watch : PacketWatch) : Prop :=
  ∀ frozen first, watch.page.lockedView = some frozen →
    frozen.head? = some first →
      Divides (looksNew first)
        (watch.recordedAfterLock frozen watch.packetsLifetime)
        watch.page.app.packets

theorem countsNewPackets_iff
    {watch : PacketWatch} {frozen : List PacketLogEntry}
    {first : PacketLogEntry} (hlocked : watch.page.lockedView = some frozen)
    (hfirst : frozen.head? = some first) :
    watch.CountsNewPackets ↔
      (watch.page.app.packets.takeWhile (looksNew first)).length =
        watch.page.app.packets.countP
          (watch.recordedAfterLock frozen watch.packetsLifetime) := by
  have hcount : watch.page.newPacketsSinceLock =
      (watch.page.app.packets.takeWhile (looksNew first)).length := by
    unfold PacketPage.newPacketsSinceLock
    simp only [hlocked, hfirst, Option.map_some]
    rfl
  constructor
  · intro hcounts
    rw [← hcount]
    exact hcounts frozen hlocked
  · intro hsame other hother
    rw [hlocked, Option.mem_some_iff] at hother
    rw [hcount, ← hother]
    exact hsame

theorem divided_of_locked
    {watch : PacketWatch} {frozen : List PacketLogEntry}
    {first : PacketLogEntry} (hlocked : watch.page.lockedView = some frozen)
    (hfirst : frozen.head? = some first)
    (hdivides : Divides (looksNew first)
      (watch.recordedAfterLock frozen watch.packetsLifetime)
      watch.page.app.packets) : watch.Divided := by
  intro other otherFirst hother hotherFirst
  rw [hlocked, Option.some.injEq] at hother
  subst hother
  rw [hfirst, Option.some.injEq] at hotherFirst
  exact hotherFirst ▸ hdivides

/-- A view which was locked while the list was empty is older than any
packet. -/
theorem Divided.countsNewPackets
    {watch : PacketWatch} (hdivided : watch.Divided) :
    watch.CountsNewPackets := by
  intro frozen hlocked
  cases frozen with
  | nil =>
      have hall : watch.page.app.packets.countP
          (watch.recordedAfterLock [] watch.packetsLifetime) =
            watch.page.app.packets.length := by
        rw [List.countP_eq_length]
        intro entry _
        rfl
      unfold PacketPage.newPacketsSinceLock
      rw [hlocked, hall]
      rfl
  | cons first rest =>
      apply (countsNewPackets_iff hlocked rfl).mpr ?_ (first :: rest) hlocked
      exact (hdivided (first :: rest) first hlocked rfl).length_takeWhile

theorem divided_toggleScrollLock (watch : PacketWatch) :
    ({ watch with
      page := watch.page.toggleScrollLock
      lockedLifetime :=
        if watch.page.lockedView.isSome then watch.lockedLifetime
        else watch.packetsLifetime } : PacketWatch).Divided := by
  intro frozen first hlocked hfirst
  cases hbefore : watch.page.lockedView with
  | some earlier =>
      simp [PacketPage.toggleScrollLock, hbefore] at hlocked
  | none =>
      simp only [PacketPage.toggleScrollLock, hbefore, Option.isSome_none,
        Bool.false_eq_true, if_false, Option.some.injEq] at hlocked ⊢
      subst frozen
      apply Divides.of_not_fresh
      · intro entry hentry
        rw [recordedAfterLock, List.all_eq_false]
        exact ⟨entry, hentry, by simp⟩
      · intro newest hnewest
        rw [hfirst, Option.mem_some_iff] at hnewest
        rw [hnewest]
        simp [looksNew]

/-! ## A message under scroll lock -/

section Locked

variable {watch : PacketWatch} {frozen : List PacketLogEntry}
variable {first : PacketLogEntry}

theorem numberedAsRecorded_iff
    (hlifetimes : watch.lockedLifetime ≤ watch.lifetime)
    (hfirst : first ∈ frozen) (entry : PacketLogEntry) :
    watch.NumberedAsRecorded first frozen entry ↔
      looksNew first entry =
        watch.recordedAfterLock frozen watch.lifetime entry := by
  unfold NumberedAsRecorded
  by_cases hsame : watch.lifetime = watch.lockedLifetime
  · have hafter : watch.recordedAfterLock frozen watch.lifetime entry =
        decide (∀ locked ∈ frozen, locked.id < entry.id) := by
      rw [Bool.eq_iff_iff]
      simp [recordedAfterLock, hsame]
    rw [if_pos hsame, hafter, looksNew, decide_eq_decide]
    constructor
    · rintro (hold | hnew)
      · constructor
        · intro hlooks
          omega
        · intro hnew
          exact hnew first hfirst
      · exact iff_of_true (hnew first hfirst) hnew
    · intro hagree
      by_cases hlooks : first.id < entry.id
      · exact Or.inr (hagree.mp hlooks)
      · exact Or.inl (Nat.le_of_not_lt hlooks)
  · have hlater : watch.lockedLifetime < watch.lifetime := by omega
    have hafter :
        watch.recordedAfterLock frozen watch.lifetime entry = true := by
      simp [recordedAfterLock, hlater]
    rw [if_neg hsame, hafter, looksNew, decide_eq_true_eq]

/-- Within one lifetime the client's test errs to one side only, and to the
other side across two. -/
theorem looksNew_errs_to_one_side
    (hlifetimes : watch.lockedLifetime ≤ watch.lifetime)
    (hfirst : first ∈ frozen) (packets : List PacketLogEntry) :
    (∀ entry ∈ packets,
      watch.recordedAfterLock frozen watch.lifetime entry = true →
        looksNew first entry = true) ∨
    ∀ entry ∈ packets, looksNew first entry = true →
      watch.recordedAfterLock frozen watch.lifetime entry = true := by
  rcases Nat.lt_or_eq_of_le hlifetimes with hlater | hsame
  · right
    intro entry _ _
    simp [recordedAfterLock, hlater]
  · left
    intro entry _ hafter
    have hfirstBefore := List.all_eq_true.mp hafter first hfirst
    simpa [hsame, looksNew] using hfirstBefore

theorem sorted_looksNew
    {backlog : List PacketLogEntry}
    (hsorted : PacketFeed.NewestFirst backlog) (size : ℕ) :
    (backlog.take size).Pairwise fun newer older =>
      looksNew first older = true → looksNew first newer = true := by
  have htaken := hsorted.sublist (List.take_sublist size backlog)
  apply htaken.imp
  intro newer older hids holder
  simp only [looksNew, decide_eq_true_eq] at holder ⊢
  omega

theorem backlog_counted_iff
    (hlocked : watch.page.lockedView = some frozen)
    (hfirst : frozen.head? = some first)
    (hlifetimes : watch.lockedLifetime ≤ watch.lifetime)
    {backlog : List PacketLogEntry}
    (hsorted : PacketFeed.NewestFirst backlog) :
    ((watch.apply (.packetLog backlog)).CountsNewPackets ↔
      watch.MessageInOrder first frozen (.packetLog backlog)) ∧
    ((watch.apply (.packetLog backlog)).CountsNewPackets →
      (watch.apply (.packetLog backlog)).Divided) := by
  have hmem : first ∈ frozen := List.mem_of_mem_head? hfirst
  have htest := @sorted_looksNew first backlog hsorted maxPackets
  have hlockedStill :
      (watch.apply (.packetLog backlog)).page.lockedView = some frozen :=
    hlocked
  have hcounts : (watch.apply (.packetLog backlog)).CountsNewPackets ↔
      ∀ entry ∈ backlog.take maxPackets, looksNew first entry =
        watch.recordedAfterLock frozen watch.lifetime entry := by
    rw [countsNewPackets_iff hlockedStill hfirst]
    exact length_takeWhile_iff_of_sorted htest
      (looksNew_errs_to_one_side hlifetimes hmem _)
  constructor
  · rw [hcounts]
    apply forall₂_congr
    intro entry _
    exact (numberedAsRecorded_iff hlifetimes hmem entry).symm
  · intro hright
    apply divided_of_locked hlockedStill hfirst
    exact divides_of_sorted htest (hcounts.mp hright)

theorem push_counted_iff
    (hlocked : watch.page.lockedView = some frozen)
    (hfirst : frozen.head? = some first)
    (hlifetimes : watch.lockedLifetime ≤ watch.lifetime)
    (hlisted : watch.packetsLifetime = watch.lifetime)
    (hdivided : watch.Divided) (entry : PacketLogEntry) :
    ((watch.apply (.packetLogEntry entry)).CountsNewPackets ↔
      watch.MessageInOrder first frozen (.packetLogEntry entry)) ∧
    ((watch.apply (.packetLogEntry entry)).CountsNewPackets →
      (watch.apply (.packetLogEntry entry)).Divided) := by
  have hmem : first ∈ frozen := List.mem_of_mem_head? hfirst
  have hbefore := hdivided frozen first hlocked hfirst
  have hlockedStill :
      (watch.apply (.packetLogEntry entry)).page.lockedView = some frozen :=
    hlocked
  have hcounts : (watch.apply (.packetLogEntry entry)).CountsNewPackets ↔
      looksNew first entry =
          watch.recordedAfterLock frozen watch.packetsLifetime entry ∧
        (looksNew first entry = true ∨
          ∀ newest ∈ watch.page.app.packets.head?,
            looksNew first newest = false) := by
    rw [countsNewPackets_iff hlockedStill hfirst]
    exact hbefore.length_takeWhile_push_iff (by decide) entry
  constructor
  · rw [hcounts, MessageInOrder,
      numberedAsRecorded_iff hlifetimes hmem entry, hlisted]
    simp only [looksNew, decide_eq_true_eq, decide_eq_false_iff_not,
      Nat.not_lt]
  · intro hright
    rcases hcounts.mp hright with ⟨hagree, hstops⟩
    apply divided_of_locked hlockedStill hfirst
    exact (hbefore.push hagree hstops).take maxPackets

theorem Divided.afterQuiet
    {message : ServerMessage} (hdivided : watch.Divided)
    (hquiet : message.carriesPackets = false) :
    (watch.apply message).Divided := by
  intro frozen first hlocked hfirst
  have hpackets : (watch.apply message).page.app.packets =
      watch.page.app.packets :=
    PacketFeed.packets_applyServerMessage_of_quiet _ hquiet
  have hlifetime : (watch.apply message).packetsLifetime =
      watch.packetsLifetime := by
    cases message with
    | packetLog backlog => contradiction
    | hello | snapshot | event | packetLogEntry | error | telemetryResult =>
        rfl
  rw [hpackets, hlifetime]
  exact hdivided frozen first hlocked hfirst

theorem message_counted_iff
    {message : ServerMessage} (hgood : watch.Sound)
    (hdivided : watch.Divided)
    (hnext : watch.feed.sent[watch.received]? = some message)
    (hlocked : watch.page.lockedView = some frozen)
    (hfirst : frozen.head? = some first) :
    ((watch.apply message).CountsNewPackets ↔
      watch.MessageInOrder first frozen message) ∧
    ((watch.apply message).CountsNewPackets →
      (watch.apply message).Divided) := by
  have hlifetimes : watch.lockedLifetime ≤ watch.lifetime :=
    (hgood.locked_le (by rw [hlocked]; rfl)).trans hgood.packets_le
  cases message with
  | packetLog backlog =>
      apply backlog_counted_iff hlocked hfirst hlifetimes
      exact hgood.conversation.sorted backlog (List.mem_of_getElem? hnext)
  | packetLogEntry entry =>
      exact push_counted_iff hlocked hfirst hlifetimes
        (hgood.packetsLifetime_of_pushed hnext) hdivided entry
  | hello | snapshot | event | error | telemetryResult =>
      constructor
      · apply iff_of_true ?_ trivial
        apply Divided.countsNewPackets
        exact hdivided.afterQuiet rfl
      · intro _
        exact hdivided.afterQuiet rfl

end Locked

/-! ## The condition is exact -/

theorem receive_counted_iff
    {watch : PacketWatch} {message : ServerMessage}
    (hgood : watch.Sound) (hdivided : watch.Divided)
    (hnext : watch.feed.sent[watch.received]? = some message) :
    ((watch.apply message).CountsNewPackets ↔
      watch.ArrivesInOrder .receive) ∧
    ((watch.apply message).CountsNewPackets →
      (watch.apply message).Divided) := by
  by_cases hsome : ∃ frozen first, watch.page.lockedView = some frozen ∧
      frozen.head? = some first
  · rcases hsome with ⟨frozen, first, hlocked, hfirst⟩
    have harrives : watch.ArrivesInOrder .receive ↔
        watch.MessageInOrder first frozen message := by
      constructor
      · intro hall
        exact hall message hnext frozen hlocked first hfirst
      · intro hone otherMessage hmessage other hother otherFirst hotherFirst
        rw [hnext, Option.mem_some_iff] at hmessage
        rw [hlocked, Option.mem_some_iff] at hother
        subst hmessage
        subst hother
        rw [hfirst, Option.mem_some_iff] at hotherFirst
        exact hotherFirst ▸ hone
    rw [harrives]
    exact message_counted_iff hgood hdivided hnext hlocked hfirst
  · have hnone : (watch.apply message).Divided := by
      intro frozen first hlocked hfirst
      exact absurd ⟨frozen, first, hlocked, hfirst⟩ hsome
    constructor
    · apply iff_of_true hnone.countsNewPackets
      intro _ _ frozen hlocked first hfirst
      exact absurd ⟨frozen, first, hlocked, hfirst⟩ hsome
    · intro _
      exact hnone

section Runs

variable [MeshcoreRs]

/-- While the counts agree, the list is divided, because they have agreed all
along. -/
def Invariant (watch : PacketWatch) : Prop :=
  watch.Sound ∧ (watch.CountsNewPackets → watch.Divided)

omit [MeshcoreRs] in
theorem start_divided (config : Config) : (start config).Divided := by
  intro frozen first hlocked
  contradiction

theorem countsNewPackets_iff_arrivesInOrder
    {watch next : PacketWatch} {action : WatchAction}
    (hgood : watch.Invariant) (hcounts : watch.CountsNewPackets)
    (hstep : step watch action = some next) :
    next.Invariant ∧
      (next.CountsNewPackets ↔ watch.ArrivesInOrder action) := by
  rcases hgood with ⟨hsound, hagreed⟩
  have hdivided := hagreed hcounts
  cases action with
  | daemon action =>
      simp only [step, Option.map_eq_some_iff] at hstep
      rcases hstep with ⟨feed, hfeed, rfl⟩
      constructor
      · exact ⟨hsound.afterDaemon hfeed, hagreed⟩
      · exact iff_of_true hcounts trivial
  | restart config =>
      simp only [step, Option.some.injEq] at hstep
      rw [← hstep]
      constructor
      · constructor
        · exact hsound.afterConnecting
            (PacketFeed.start_logInvariant config)
            (PacketFeed.start_backlogFirst config) (Nat.le_succ _)
        · exact hagreed
      · exact iff_of_true hcounts trivial
  | reconnect =>
      simp only [step, Option.some.injEq] at hstep
      rw [← hstep]
      constructor
      · constructor
        · exact hsound.afterConnecting
            (PacketFeed.disconnect_logInvariant hsound.log)
            (PacketFeed.disconnect_backlogFirst watch.feed) (Nat.le_refl _)
        · exact hagreed
      · exact iff_of_true hcounts trivial
  | receive =>
      simp only [step, Option.map_eq_some_iff] at hstep
      rcases hstep with ⟨message, hnext, rfl⟩
      have hreceived := receive_counted_iff hsound hdivided hnext
      constructor
      · exact ⟨hsound.afterReceiving hnext, hreceived.2⟩
      · exact hreceived.1
  | toggleScrollLock =>
      simp only [step, Option.some.injEq] at hstep
      have hnow := watch.divided_toggleScrollLock
      rw [← hstep]
      constructor
      · constructor
        · apply hsound.afterToggle
          intro _
          split
          next hlocked => exact hsound.locked_le hlocked
          next => exact Nat.le_refl _
        · intro _
          exact hnow
      · exact iff_of_true hnow.countsNewPackets trivial

/-- The counter is right in every state of a run if and only if each message
of the run arrives in order. -/
theorem new_packets_counted_iff_in_order
    {config : Config} {actions : List WatchAction} {final : PacketWatch}
    (hrun : run step (start config) actions = some final) :
    (∀ before middle, before <+: actions →
      run step (start config) before = some middle →
        middle.CountsNewPackets) ↔
      MeetsAlong step ArrivesInOrder (start config) actions := by
  have hstart := start_divided config
  have hinit : (start config).Invariant := by
    constructor
    · exact start_sound config
    · intro _
      exact hstart
  symm
  apply meetsAlong_iff_holds_along ?_ hinit hstart.countsNewPackets hrun
  intro watch action next hgood hcounts hstep
  exact countsNewPackets_iff_arrivesInOrder hgood hcounts hstep

end Runs

/-- The daemon takes up a connection, and the client reads the greeting and
the backlog. -/
def connecting : List WatchAction :=
  [.daemon .subscribe, .daemon .sendHello,
    .daemon (.sendSnapshot Snapshot.default), .daemon .sendPacketLog,
    .receive, .receive, .receive]

def hearing (payload : UInt8) : List WatchAction :=
  [.daemon (.rawEvent (PacketFeed.heardPacket payload) 0),
    .daemon .broadcastPacket]

def lockAndReconnect : List WatchAction :=
  hearing 1 ++ connecting ++ [.toggleScrollLock] ++ hearing 2 ++
    [.daemon .forwardPacket, .receive, .reconnect] ++ connecting

theorem new_packets_counted_after_reconnect :
    ∃ final,
      run (@step wireValues) (start Config.bare) lockAndReconnect =
        some final ∧
      final.page.newPacketsSinceLock = 1 ∧
      ∀ before middle, before <+: lockAndReconnect →
        run (@step wireValues) (start Config.bare) before = some middle →
          middle.CountsNewPackets := by
  refine ⟨_, rfl, rfl, ?_⟩
  apply (@new_packets_counted_iff_in_order wireValues Config.bare
    lockAndReconnect _ rfl).mpr
  decide

/-- The restarted daemon has recorded one packet, and the client counts none:
the first id of the new daemon is not above the second of the old one. -/
theorem not_new_packets_counted_after_restart :
    ¬ ∀ before middle,
      before <+: hearing 1 ++ hearing 2 ++ connecting ++
        [.toggleScrollLock, .restart Config.bare] ++ hearing 3 ++
          connecting →
      run (@step wireValues) (start Config.bare) before = some middle →
        middle.CountsNewPackets := by
  intro hall
  have hcounts := hall _ _ (List.prefix_refl _) rfl
  revert hcounts
  decide

end PacketWatch

end MeshController
