import ErgoIrc.Server.Queries

/-! The channel table over whole runs, with the channel methods of `specChannels`. Each
channel stays stored under its lowercased name, and every member of every channel is a
`Normal` client the loop has created (`Server.ChannelsLive`). `JOIN` adds only the client
that sends it, `PART`, `KICK`, `TOPIC` and channel `MODE` store a channel back under its own
name with no new member, `Quit` takes the client out of every channel before it terminates
it, and every other write keeps the table and keeps `Normal` clients `Normal`
(`Server.Calm`). The one assumption is that the loop handles no command of a client it has
terminated: `processCommand` sends every phase past registration to the `HandleServer`
handlers, `Terminated` included, so such a command can seat a terminated client. -/
namespace Ergo.Irc

namespace Channel

/-- A member after `members[client] = modes` is that client or a member before. -/
theorem isMember_set (channel : Channel) (client : ClientId) (modes : ChannelMode → Bool)
    (m : ClientId) :
    { channel with members := channel.members.set client modes }.isMember m = true ↔
      m = client ∨ channel.isMember m = true := by
  simp only [isMember, GoMap.get_set]
  split <;> simp [*]

/-- A member after `delete(members, client)` is a member before, and not that client. -/
theorem isMember_delete (channel : Channel) (client m : ClientId) :
    { channel with members := channel.members.delete client }.isMember m = true ↔
      m ≠ client ∧ channel.isMember m = true := by
  simp only [isMember, GoMap.get_delete]
  split <;> simp [*]

end Channel

namespace Server

/-- Every member of the channel is a client the loop has created and that is `Normal`. -/
def Seats (s : Server) (channel : Channel) : Prop :=
  ∀ m, channel.isMember m = true → m.addr < s.allocated ∧ (s.heap m).phase = .normal

/-- The channel table of a state: each channel is stored under its lowercased name, and
every member of it is a `Normal` client the loop has created. -/
structure ChannelsLive (lowerRune : Char → Char) (s : Server) : Prop where
  keyed : ∀ key channel, s.channels.get key = some channel → toLower lowerRune channel.name = key
  seats : ∀ key channel, s.channels.get key = some channel → s.Seats channel

/-- A write that keeps the channel table and the addresses, and keeps every `Normal` client
`Normal`. -/
structure Calm (s s' : Server) : Prop where
  channels : s'.channels = s.channels
  allocated : s'.allocated = s.allocated
  normal : ∀ x, (s.heap x).phase = .normal → (s'.heap x).phase = .normal

variable {lowerRune : Char → Char}

namespace Seats

variable {s : Server} {channel : Channel} (seats : s.Seats channel)
include seats

theorem delete (client : ClientId) :
    s.Seats { channel with members := channel.members.delete client } :=
  fun m member => seats m ((Channel.isMember_delete ..).mp member).2

theorem set {client : ClientId} (allocated : client.addr < s.allocated)
    (normal : (s.heap client).phase = .normal) (modes : ChannelMode → Bool) :
    s.Seats { channel with members := channel.members.set client modes } := by
  intro m member
  rcases (Channel.isMember_set ..).mp member with rfl | member
  · exact ⟨allocated, normal⟩
  · exact seats m member

theorem of_calm {s' : Server} (calm : s.Calm s') : s'.Seats channel := fun m member =>
  ⟨calm.allocated ▸ (seats m member).1, calm.normal m (seats m member).2⟩

end Seats

namespace Calm

theorem refl (s : Server) : s.Calm s := ⟨rfl, rfl, fun _ => id⟩

theorem trans {s₁ s₂ s₃ : Server} (first : s₁.Calm s₂) (second : s₂.Calm s₃) :
    s₁.Calm s₃ :=
  ⟨second.channels.trans first.channels, second.allocated.trans first.allocated,
    fun x normal => second.normal x (first.normal x normal)⟩

theorem reply (s : Server) (client : ClientId) (r : Reply) : s.Calm (s.reply client r) :=
  ⟨rfl, rfl, fun _ => id⟩

theorem send (s : Server) (out : Outbox) : s.Calm (s.send out) := ⟨rfl, rfl, fun _ => id⟩

theorem closed : Closed Calm := ⟨refl, trans, send⟩

theorem modify (s : Server) (client : ClientId) {f : Client → Client}
    (kept : (s.heap client).phase = .normal → (f (s.heap client)).phase = .normal) :
    s.Calm (s.modify client f) := by
  refine ⟨rfl, rfl, fun x normal => ?_⟩
  by_cases same : x = client
  · subst same
    simpa using kept normal
  · simpa [Function.update_noteq same] using normal

theorem changeNickname (s : Server) (client : ClientId) (nick : String) :
    s.Calm (s.changeNickname lowerRune client nick) := by
  refine ⟨(closed.foldl (fun s _ _ => reply ..) _).channels, (changeNickname_tame ..).allocated,
    fun x normal => ?_⟩
  by_cases same : x = client
  · subst same
    simpa using normal
  · simpa [Function.update_noteq same] using normal

end Calm

namespace ChannelsLive

variable {s : Server} (live : s.ChannelsLive lowerRune)
include live

theorem of_calm {s' : Server} (calm : s.Calm s') : s'.ChannelsLive lowerRune :=
  ⟨fun key channel found => live.keyed key channel (calm.channels ▸ found),
    fun key channel found => (live.seats key channel (calm.channels ▸ found)).of_calm calm⟩

/-- Storing a channel under its lowercased name. -/
theorem store {key : String} (channel : Channel) (named : toLower lowerRune channel.name = key)
    (seats : s.Seats channel) :
    { s with channels := s.channels.set key channel }.ChannelsLive lowerRune := by
  constructor <;> intro key' stored found <;>
    simp only [GoMap.get_set] at found <;> split at found
  · cases found
    next same => exact named.trans same.symm
  · exact live.keyed key' stored found
  · cases found
    exact seats
  · exact live.seats key' stored found

end ChannelsLive

/-- What a channel method of `specChannels` leaves as the table: the table as it was, or the
table with one channel of seated members stored under its lowercased name. -/
def Stores (lowerRune : Char → Char) (s : Server) (table : GoMap String Channel) : Prop :=
  table = s.channels ∨
    ∃ channel, s.Seats channel ∧ table = s.channels.set (toLower lowerRune channel.name) channel

theorem ChannelsLive.apply {s : Server} (live : s.ChannelsLive lowerRune)
    {table : GoMap String Channel} (stores : s.Stores lowerRune table) (out : Outbox) :
    ({ s with channels := table }.send out).ChannelsLive lowerRune := by
  rcases stores with rfl | ⟨channel, seats, rfl⟩
  · exact live.of_calm (.send s out)
  · exact (live.store channel rfl seats).of_calm (.send _ out)

theorem Seats.congr {s t : Server} {channel : Channel} (seats : s.Seats channel)
    (heap : t.heap = s.heap) (allocated : t.allocated = s.allocated) : t.Seats channel := by
  rw [Seats, heap, allocated]
  exact seats

/-- A property of the server that each step of a loop keeps holds after the loop. -/
theorem foldl_holds {α : Type} (P : Server → Prop) {f : Server → α → Server} {xs : List α}
    (step : ∀ t, ∀ a ∈ xs, P t → P (f t a)) (s : Server) (holds : P s) : P (xs.foldl f s) :=
  List.foldlRecOn (motive := P) xs f s holds fun t held a mem => step t a mem held

theorem mem_channelsOf {s : Server} {client : ClientId} {channel : Channel} :
    channel ∈ s.channelsOf client ↔
      (∃ key, s.channels.get key = some channel) ∧ channel.isMember client = true := by
  simp [channelsOf, GoMap.get_eq_some_iff, Channel.isMember]

variable (lowerRune) in
/-- The channel side of `Quit` under `specChannels`: each channel the client is in is stored
back without it, and no other entry changes. -/
theorem quitChannels_clears (s₀ : Server) (y : ClientId) :
    ∀ (cs : List Channel) (t : Server), t.heap = s₀.heap → t.allocated = s₀.allocated →
      (∀ c ∈ cs, s₀.Seats c) →
      (∀ key c, t.channels.get key = some c →
        toLower lowerRune c.name = key ∧ s₀.Seats c ∧ (c.isMember y = true → c ∈ cs)) →
      let t' := cs.foldl (fun s channel =>
        let (channels, out) := (specChannels lowerRune).quit s channel y
        { s with channels := channels }.send out) t
      t'.heap = s₀.heap ∧ t'.allocated = s₀.allocated ∧
        ∀ key c, t'.channels.get key = some c →
          toLower lowerRune c.name = key ∧ s₀.Seats c ∧ c.isMember y = false := by
  intro cs
  induction cs with
  | nil =>
    intro t heap allocated _ table
    refine ⟨heap, allocated, fun key c found => ?_⟩
    obtain ⟨keyed, seats, member⟩ := table key c found
    exact ⟨keyed, seats, Bool.eq_false_iff.mpr fun joined => List.not_mem_nil c (member joined)⟩
  | cons first rest ih =>
    intro t heap allocated seats table
    refine ih _ heap allocated (fun c member => seats c (.tail _ member)) fun key c found => ?_
    simp only [specChannels, send, GoMap.get_set] at found
    split at found
    next same =>
      cases found
      refine ⟨same.symm, (seats first (.head _)).delete y, fun member => ?_⟩
      exact absurd rfl ((Channel.isMember_delete ..).mp member).1
    next other =>
      obtain ⟨keyed, seats, member⟩ := table key c found
      refine ⟨keyed, seats, fun joined => (List.mem_cons.mp (member joined)).resolve_left ?_⟩
      rintro rfl
      exact other keyed.symm

variable (lowerRune) in
/-- The channel side of `JOIN 0` under `specChannels` stores what that of `Quit` stores:
`Part` of a member takes it out of the channel as `Quit` does. -/
theorem partChannels_eq_quit (y : ClientId) :
    ∀ (cs : List Channel) (t₁ t₂ : Server), (∀ c ∈ cs, c.isMember y = true) →
      t₁.channels = t₂.channels → t₁.heap = t₂.heap →
      (cs.foldl (fun s channel =>
        let (table, out) := (specChannels lowerRune).part s channel y (s.heap y).Nick
        { s with channels := table }.send out) t₁).channels =
      (cs.foldl (fun s channel =>
        let (channels, out) := (specChannels lowerRune).quit s channel y
        { s with channels := channels }.send out) t₂).channels := by
  intro cs
  induction cs with
  | nil => exact fun t₁ t₂ _ channels _ => channels
  | cons c rest ih =>
    intro t₁ t₂ members channels heap
    refine ih _ _ (fun c' member => members c' (.tail _ member)) ?_ heap
    simp only [specChannels, send, members c (.head _), Bool.not_true, Bool.false_eq_true,
      if_false, channels]

namespace ChannelsLive

variable {s : Server} (live : s.ChannelsLive lowerRune)
include live

/-- `quitChannels_clears` from a state of the invariant, over the channels the client is in. -/
theorem quitChannels (y : ClientId) :
    let t' := (s.channelsOf y).foldl (fun s channel =>
      let (channels, out) := (specChannels lowerRune).quit s channel y
      { s with channels := channels }.send out) s
    t'.heap = s.heap ∧ t'.allocated = s.allocated ∧
      ∀ key c, t'.channels.get key = some c →
        toLower lowerRune c.name = key ∧ s.Seats c ∧ c.isMember y = false :=
  quitChannels_clears lowerRune s y (s.channelsOf y) s rfl rfl
    (fun c member => live.seats _ c (mem_channelsOf.mp member).1.choose_spec)
    (fun key c found => ⟨live.keyed key c found, live.seats key c found,
      fun member => mem_channelsOf.mpr ⟨⟨key, found⟩, member⟩⟩)

/-- `Quit` under `specChannels` takes the client out of every channel before it terminates
it. -/
theorem quit (y : ClientId) (message : String) :
    (s.quit lowerRune (specChannels lowerRune) y message).ChannelsLive lowerRune := by
  obtain ⟨heap, allocated, table⟩ := live.quitChannels y
  unfold Server.quit
  dsimp only
  refine ChannelsLive.of_calm ?_ (Calm.closed.foldl (fun s _ _ => Calm.reply ..) _)
  refine ⟨fun key c found => (table key c found).1, fun key c found m member => ?_⟩
  obtain ⟨-, seats, free⟩ := table key c found
  have other : m ≠ y := by
    rintro rfl
    rw [free] at member
    cases member
  simpa [Function.update_noteq other, heap, allocated] using seats m member

end ChannelsLive

/-! ## The channel methods of `specChannels` -/

namespace Seats

variable {s : Server} {channel : Channel} (seats : s.Seats channel)
include seats

theorem join_stores {client : ClientId} (allocated : client.addr < s.allocated)
    (normal : (s.heap client).phase = .normal) (key : String) :
    s.Stores lowerRune ((specChannels lowerRune).join s channel client key).1 := by
  simp only [specChannels]
  split_ifs
  · exact .inl rfl
  · exact .inl rfl
  · exact .inr ⟨_, seats.set allocated normal _, rfl⟩

theorem part_stores (client : ClientId) (message : String) :
    s.Stores lowerRune ((specChannels lowerRune).part s channel client message).1 := by
  simp only [specChannels]
  split_ifs
  · exact .inl rfl
  · exact .inr ⟨_, seats.delete client, rfl⟩

theorem setTopic_stores (client : ClientId) (topic : String) :
    s.Stores lowerRune ((specChannels lowerRune).setTopic s channel client topic).1 := by
  simp only [specChannels]
  split_ifs
  · exact .inl rfl
  · exact .inr ⟨{ channel with topic := topic }, seats, rfl⟩

theorem kick_stores (client target : ClientId) (comment : String) :
    s.Stores lowerRune ((specChannels lowerRune).kick s channel client target comment).1 := by
  simp only [specChannels]
  split_ifs
  · exact .inl rfl
  · exact .inl rfl
  · exact .inr ⟨_, seats.delete target, rfl⟩

theorem mode_stores (client : ClientId) (changes : List ChannelModeChange) :
    s.Stores lowerRune ((specChannels lowerRune).mode s channel client changes).1 := by
  simp only [specChannels]
  split_ifs
  · exact .inl rfl
  · exact .inr ⟨{ channel with flags := changes.foldl (fun flags change =>
      Function.update flags change.mode (change.op = .add)) channel.flags }, seats, rfl⟩

end Seats

variable (lowerRune) in
/-- `Invite` writes no channel: invite lists are not modelled. -/
theorem invite_table (s : Server) (channel : Channel) (target inviter : ClientId) :
    ((specChannels lowerRune).invite s channel target inviter).1 = s.channels := by
  simp only [specChannels]
  split_ifs <;> rfl

variable (lowerRune) in
/-- The channel `NewChannel` makes has no member. -/
theorem seats_newChannel (s t : Server) (name : String) :
    t.Seats (s.newChannel lowerRune name).1 := fun _ member => by cases member

end Server

section Handlers

variable {lowerRune : Char → Char} {s : Server} {client : ClientId}
  (live : s.ChannelsLive lowerRune)
include live

theorem JoinCommand.handleServer_channelsLive (allocated : client.addr < s.allocated)
    (normal : (s.heap client).phase = .normal) (zero : Bool) (channels : List (String × String)) :
    (JoinCommand.handleServer lowerRune (specChannels lowerRune) s client zero channels
      ).ChannelsLive lowerRune := by
  unfold JoinCommand.handleServer
  split
  · refine (Server.foldl_holds (fun t => t.ChannelsLive lowerRune ∧ t.heap = s.heap ∧
      t.allocated = s.allocated) (fun t channel member held => ?_) s ⟨live, rfl, rfl⟩).1
    obtain ⟨⟨key, found⟩, -⟩ := Server.mem_channelsOf.mp member
    exact ⟨held.1.apply (((live.seats key channel found).congr held.2.1 held.2.2).part_stores _ _) _,
      held.2.1, held.2.2⟩
  · refine (Server.foldl_holds (fun t => t.ChannelsLive lowerRune ∧ client.addr < t.allocated ∧
      (t.heap client).phase = .normal) (fun t ⟨name, key⟩ _ held => ?_) s ⟨live, allocated, normal⟩).1
    obtain ⟨live, allocated, normal⟩ := held
    dsimp only
    split
    · exact ⟨live.of_calm (.reply ..), allocated, normal⟩
    · cases found : t.getChannel lowerRune name with
      | some channel =>
        exact ⟨live.apply ((live.seats _ channel found).join_stores allocated normal key) _,
          allocated, normal⟩
      | none =>
        have created : (t.newChannel lowerRune name).2.ChannelsLive lowerRune :=
          live.store _ rfl (Server.seats_newChannel lowerRune t t name)
        exact ⟨created.apply ((Server.seats_newChannel lowerRune t (t.newChannel lowerRune name).2
          name).join_stores allocated normal key) _, allocated, normal⟩

theorem PartCommand.handleServer_channelsLive (channels : List String) (message : String) :
    (PartCommand.handleServer lowerRune (specChannels lowerRune) s client channels message
      ).ChannelsLive lowerRune := by
  refine Server.foldl_holds _ (fun t name _ live => ?_) s live
  split
  · exact live.of_calm (.reply ..)
  · next channel found => exact live.apply ((live.seats _ channel found).part_stores _ _) _

theorem TopicCommand.handleServer_channelsLive (name : String) (setTopic : Bool) (topic : String) :
    (TopicCommand.handleServer lowerRune (specChannels lowerRune) s client name setTopic topic
      ).ChannelsLive lowerRune := by
  unfold TopicCommand.handleServer
  split
  · exact live.of_calm (.reply ..)
  · next channel found =>
    split
    · exact live.apply ((live.seats _ channel found).setTopic_stores _ _) _
    · exact live.of_calm (.send ..)

theorem ChannelModeCommand.handleServer_channelsLive (name : String)
    (changes : List ChannelModeChange) :
    (ChannelModeCommand.handleServer lowerRune (specChannels lowerRune) s client name changes
      ).ChannelsLive lowerRune := by
  unfold ChannelModeCommand.handleServer
  split
  · exact live.of_calm (.reply ..)
  · next channel found => exact live.apply ((live.seats _ channel found).mode_stores _ _) _

theorem KickCommand.handleServer_channelsLive (kicks : List (String × String)) (comment : String) :
    (KickCommand.handleServer lowerRune (specChannels lowerRune) s client kicks comment
      ).ChannelsLive lowerRune := by
  refine Server.foldl_holds _ (fun t ⟨name, nickname⟩ _ live => ?_) s live
  dsimp only
  split
  · exact live.of_calm (.reply ..)
  · next channel found =>
    split
    · exact live.of_calm (.reply ..)
    · exact live.apply ((live.seats _ channel found).kick_stores _ _ _) _

theorem InviteCommand.handleServer_channelsLive (nickname name : String) :
    (InviteCommand.handleServer lowerRune (specChannels lowerRune) s client nickname name
      ).ChannelsLive lowerRune := by
  unfold InviteCommand.handleServer
  split
  · exact live.of_calm (.reply ..)
  · split
    · exact live.of_calm ((Server.Calm.reply ..).trans (.reply ..))
    · exact live.apply (.inl (Server.invite_table lowerRune ..)) _

theorem KillCommand.handleServer_channelsLive (nickname comment : String) :
    (KillCommand.handleServer lowerRune (specChannels lowerRune) s client nickname comment
      ).ChannelsLive lowerRune := by
  unfold KillCommand.handleServer
  split
  · exact live.of_calm (.reply ..)
  · split
    · exact live.of_calm (.reply ..)
    · exact live.quit ..

end Handlers

/-! ## The handlers that leave the channel table alone -/

theorem Server.register_calm (lowerRune : Char → Char) (s : Server) (client : ClientId) :
    s.Calm (s.register lowerRune client) := by
  unfold Server.register
  refine Server.Calm.trans ?_ (.modify _ client fun _ => rfl)
  exact ⟨rfl, rfl, fun _ => id⟩

namespace Server.ChannelsLive

variable {lowerRune : Char → Char} {s : Server} (live : s.ChannelsLive lowerRune)
include live

/-- A new connection gets the next address, which no member holds. -/
theorem newClient (hostname : String) (now : Nat) :
    (s.newClient hostname now).ChannelsLive lowerRune := by
  refine ⟨live.keyed, fun key channel found m member => ?_⟩
  obtain ⟨allocated, normal⟩ := live.seats key channel found m member
  have fresh : m ≠ ⟨s.allocated⟩ := fun same => by subst same; exact Nat.lt_irrefl _ allocated
  exact ⟨Nat.lt_succ_of_lt allocated,
    by simpa [Server.newClient, Function.update_noteq fresh] using normal⟩

end Server.ChannelsLive

namespace Command

variable {lowerRune : Char → Char} {world : World} {cmd : Command} {s s' : Server}

theorem handleAuthServer_channelsLive
    (handled : cmd.handleAuthServer lowerRune (specChannels lowerRune) s = some s')
    (live : s.ChannelsLive lowerRune) (authorizing : (s.heap cmd.client).phase = .authorization) :
    s'.ChannelsLive lowerRune := by
  rcases handleAuthServer_inv _ _ handled with
    ⟨hostname, rfl⟩ | rfl | ⟨err, rfl⟩ | ⟨message, rfl⟩
  · exact live.of_calm (.modify _ _ id)
  · exact live
  · cases err <;> simp only [PassCommand.handleAuthServer]
    · exact live.of_calm (.modify _ _ fun normal => by cases authorizing.symm.trans normal)
    · exact (live.of_calm (.reply ..)).quit ..
  · exact live.quit ..

theorem handleRegServer_channelsLive
    (handled : cmd.handleRegServer lowerRune (specChannels lowerRune) world s = some s')
    (live : s.ChannelsLive lowerRune) : s'.ChannelsLive lowerRune := by
  rcases handleRegServer_inv _ _ _ handled with ⟨hostname, rfl⟩ | rfl | ⟨nickname, rfl⟩ |
    ⟨username, realname, rfl⟩ | ⟨username, realname, mode, rfl⟩ | ⟨message, rfl⟩
  · exact live.of_calm (.modify _ _ id)
  · exact live
  · exact live.of_calm (NickCommand.handleRegServer_footprint Server.Calm.closed (.modify _ _ id)
      (Server.register_calm lowerRune · _))
  · exact live.of_calm (UserCommand.handleRegServer2_footprint Server.Calm.closed
      (.modify · _ id) (Server.register_calm lowerRune · _))
  · exact live.of_calm (RFC2812UserCommand.handleRegServer_footprint Server.Calm.closed
      (fun t _ _ => .modify t _ id) (.modify · _ id) (Server.register_calm lowerRune · _))
  · exact live.quit ..

/-- `HandleServer` under `specChannels`, for a `Normal` client the loop has created. -/
theorem handleServer_channelsLive
    (handled : cmd.handleServer lowerRune (specChannels lowerRune) world s = some s')
    (live : s.ChannelsLive lowerRune) (allocated : cmd.client.addr < s.allocated)
    (normal : (s.heap cmd.client).phase = .normal) : s'.ChannelsLive lowerRune := by
  have closed := Server.Calm.closed
  cases cmd <;> cases handled
  case pong => exact live
  case quit => exact live.quit ..
  case join => exact JoinCommand.handleServer_channelsLive live allocated normal ..
  case part => exact PartCommand.handleServer_channelsLive live ..
  case topic => exact TopicCommand.handleServer_channelsLive live ..
  case channelMode => exact ChannelModeCommand.handleServer_channelsLive live ..
  case kick => exact KickCommand.handleServer_channelsLive live ..
  case invite => exact InviteCommand.handleServer_channelsLive live ..
  case kill => exact KillCommand.handleServer_channelsLive live ..
  all_goals refine live.of_calm ?_
  case pass | userRFC1459 | userRFC2812 | ping | isOn => exact .reply ..
  case motd => exact .send ..
  case version | time => exact closed.ite (.reply ..) (.reply ..)
  case whoWas => exact closed.foldl (fun s _ _ => (Server.Calm.reply ..).trans (.reply ..)) _
  case nick => exact NickCommand.handleServer_footprint closed (.changeNickname _ _)
  case privMsg => exact PrivMsgCommand.handleServer_footprint closed
  case mode => exact ModeCommand.handleServer_footprint closed (.modify _ · id)
  case whois => exact WhoisCommand.handleServer_footprint closed
  case who => exact WhoCommand.handleServer_footprint closed
  case oper => exact OperCommand.handleServer_footprint closed (.modify _ _ id)
  case away => exact AwayCommand.handleServer_footprint closed (.modify _ _ id)
  case notice => exact NoticeCommand.handleServer_footprint closed
  case list => exact ListCommand.handleServer_footprint closed
  case names => exact NamesCommand.handleServer_footprint closed
  case debug => exact DebugCommand.handleServer_footprint closed

end Command

/-- A command comes from a connection the loop has accepted, of a client that has not been
terminated. -/
def Event.Live (s : Server) : Event → Prop
  | .command cmd => cmd.client.addr < s.allocated ∧ (s.heap cmd.client).phase ≠ .terminated
  | _ => True

instance (s : Server) : (event : Event) → Decidable (event.Live s)
  | .command cmd => inferInstanceAs
    (Decidable (cmd.client.addr < s.allocated ∧ (s.heap cmd.client).phase ≠ .terminated))
  | .signal | .newConn _ | .idle _ | .timeout _ => isTrue trivial

namespace Server

variable (lowerRune : Char → Char) (world : World)

theorem processCommand_channelsLive (s : Server) (cmd : Command)
    (live : s.ChannelsLive lowerRune) (alive : (Event.command cmd).Live s) :
    (s.processCommand lowerRune (specChannels lowerRune) world cmd).ChannelsLive lowerRune := by
  unfold processCommand
  cases phase : (s.heap cmd.client).phase <;> simp only [phase]
  case authorization =>
    split
    next => exact live.quit ..
    next handled => exact Command.handleAuthServer_channelsLive handled live phase
  case registration =>
    split
    next => exact live.quit ..
    next handled => exact Command.handleRegServer_channelsLive handled live
  case normal =>
    split
    next => exact live.of_calm (.reply ..)
    next handled =>
      have touched : s.Calm (cmd.touchClient world.now s) :=
        Command.touchClient_footprint Server.Calm.closed (fun t x => .modify t x id)
          fun t x => .modify t x id
      exact Command.handleServer_channelsLive handled (live.of_calm touched)
        (touched.allocated ▸ alive.1) (touched.normal _ phase)
  case terminated => exact absurd phase alive.2

theorem handleEvent_channelsLive (s : Server) (event : Event) (live : s.ChannelsLive lowerRune)
    (alive : event.Live s) :
    (s.handleEvent lowerRune (specChannels lowerRune) world event).ChannelsLive lowerRune := by
  cases event with
  | signal => exact live.of_calm (Calm.closed.foldl (fun s _ _ => .reply ..) s)
  | newConn hostname => exact live.newClient hostname world.now
  | command cmd => exact processCommand_channelsLive lowerRune world s cmd live alive
  | idle client => exact live.of_calm (.reply ..)
  | timeout client => exact live.quit ..

variable (methods : ChannelMethods)

/-- Every command of a run comes from an accepted connection of a client that has not been
terminated by the time the loop handles it. -/
def RunLive (s : Server) : List (World × Event) → Prop
  | [] => True
  | (world, event) :: rest =>
    event.Live s ∧ (s.handleEvent lowerRune methods world event).RunLive rest

theorem run_channelsLive (s : Server) (events : List (World × Event))
    (live : s.ChannelsLive lowerRune) (alive : s.RunLive lowerRune (specChannels lowerRune) events) :
    (s.run lowerRune (specChannels lowerRune) events).ChannelsLive lowerRune := by
  induction events generalizing s with
  | nil => exact live
  | cons first rest ih =>
    obtain ⟨world, event⟩ := first
    obtain ⟨now, later⟩ := alive
    have stepped := handleEvent_channelsLive lowerRune world s event live now
    cases event with
    | signal => exact stepped
    | _ => exact ih _ stepped later

theorem new_channelsLive (config : Config) (rows : List ChannelRecord) :
    (Server.new lowerRune config rows).ChannelsLive lowerRune := by
  refine foldl_holds _ (fun t row _ live => ?_) _
    ⟨fun _ _ found => (by cases found), fun _ _ found => (by cases found)⟩
  dsimp only
  split
  · exact (live.store _ rfl (seats_newChannel lowerRune t t row.name)).store _ rfl
      (seats_newChannel lowerRune t _ row.name)
  · exact live

/-- At the end of every run of the loop from `NewServer` in which no command of a terminated
client is handled, and so at every state of one, each channel of the table is stored under
its lowercased name, and every member of every channel is a client the loop has created that
is `Normal`. -/
theorem new_run_channelsLive (config : Config) (rows : List ChannelRecord)
    (events : List (World × Event))
    (alive : (Server.new lowerRune config rows).RunLive lowerRune (specChannels lowerRune) events) :
    ((Server.new lowerRune config rows).run lowerRune (specChannels lowerRune) events
      ).ChannelsLive lowerRune :=
  run_channelsLive lowerRune _ events (new_channelsLive lowerRune config rows) alive

/-- `alice` and `bob` register and join `#x`; `alice` takes operator rights and kills `bob`. -/
def killInChannel : List (World × Event) :=
  [(quietWorld, .newConn "example.net"), (quietWorld, .newConn "example.org"),
    (quietWorld, .command (.nick ⟨0⟩ "alice")),
    (quietWorld, .command (.userRFC1459 ⟨0⟩ "alice" "Alice")),
    (quietWorld, .command (.nick ⟨1⟩ "bob")), (quietWorld, .command (.userRFC1459 ⟨1⟩ "bob" "Bob")),
    (quietWorld, .command (.join ⟨0⟩ false [("#x", "")])),
    (quietWorld, .command (.join ⟨1⟩ false [("#x", "")])),
    (quietWorld, .command (.oper ⟨0⟩ (some [1]) none)),
    (quietWorld, .command (.kill ⟨0⟩ "bob" "spam"))]

theorem killInChannel_channelsLive :
    (Server.new Char.toLower ⟨"irc.example.net", "", ""⟩ []).RunLive Char.toLower
        (specChannels Char.toLower) killInChannel ∧
      ((Server.new Char.toLower ⟨"irc.example.net", "", ""⟩ []).run Char.toLower
        (specChannels Char.toLower) killInChannel).ChannelsLive Char.toLower :=
  have alive : (Server.new Char.toLower ⟨"irc.example.net", "", ""⟩ []).RunLive Char.toLower
      (specChannels Char.toLower) killInChannel :=
    ⟨trivial, trivial, by decide, by decide, by decide, by decide, by decide, by decide, by decide,
      by decide, trivial⟩
  ⟨alive, new_run_channelsLive _ _ _ _ alive⟩

end Server

/-- Why the run must not hand the loop a command of a terminated client: `processCommand` sends
every phase past registration to the `HandleServer` handlers, so a `JOIN` queued before the
`KILL` of `bob` seats `bob`, now terminated, in a new channel. -/
example :
    let killed := Server.aliceAndBob.run Char.toLower (specChannels Char.toLower)
      [(quietWorld, .command (.kill ⟨0⟩ "bob" "spam"))]
    let s' := killed.processCommand Char.toLower (specChannels Char.toLower) quietWorld
      (.join ⟨1⟩ false [("#x", "")])
    (killed.heap ⟨1⟩).phase = .terminated ∧
      (s'.getChannel Char.toLower "#x").map (·.isMember ⟨1⟩) = some true ∧
      (s'.heap ⟨1⟩).phase = .terminated := by
  decide

variable {lowerRune : Char → Char} {world : World}

/-- `JOIN 0` under the spec's `Channel.Part`, in a state whose channel table is keyed by
lowercased names and seats only live clients, as every state of a live run is: the client is
in no channel after it. -/
theorem JoinCommand.zero_parts_all {s : Server} (live : s.ChannelsLive lowerRune)
    (client : ClientId) (channels : List (String × String)) :
    (JoinCommand.handleServer lowerRune (specChannels lowerRune) s client true
      channels).channelsOf client = [] := by
  obtain ⟨-, -, table⟩ := live.quitChannels client
  have same := Server.partChannels_eq_quit lowerRune client (s.channelsOf client) s s
    (fun c member => (Server.mem_channelsOf.mp member).2) rfl rfl
  refine List.eq_nil_iff_forall_not_mem.mpr fun c member => ?_
  obtain ⟨⟨key, found⟩, joined⟩ := Server.mem_channelsOf.mp member
  rw [JoinCommand.handleServer, if_pos rfl, same] at found
  rw [(table key c found).2.2] at joined
  cases joined

/-- `alice` registers and joins `#a` and `#b`. -/
def Server.aliceInTwo : List (World × Event) :=
  [(quietWorld, .newConn "example.net"), (quietWorld, .command (.nick ⟨0⟩ "alice")),
    (quietWorld, .command (.userRFC1459 ⟨0⟩ "alice" "Alice")),
    (quietWorld, .command (.join ⟨0⟩ false [("#a", ""), ("#b", "")]))]

/-- After `JOIN #a,#b`, `JOIN 0` leaves both channels. -/
theorem Server.aliceInTwo_parts_all :
    let s := (Server.new Char.toLower ⟨"irc.example.net", "", ""⟩ []).run Char.toLower
      (specChannels Char.toLower) aliceInTwo
    s.ChannelsLive Char.toLower ∧ (s.channelsOf ⟨0⟩).length = 2 ∧
      (JoinCommand.handleServer Char.toLower (specChannels Char.toLower) s ⟨0⟩ true
        []).channelsOf ⟨0⟩ = [] :=
  have live := run_channelsLive Char.toLower _ aliceInTwo (new_channelsLive ..)
    ⟨trivial, by decide, by decide, by decide, trivial⟩
  ⟨live, by decide, JoinCommand.zero_parts_all live ⟨0⟩ []⟩

end Ergo.Irc
