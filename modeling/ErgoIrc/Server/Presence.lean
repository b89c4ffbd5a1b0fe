import ErgoIrc.Server.Queries

/-! A client's presence: whether it is away and with what message, which a `PRIVMSG` to it
answers with `RPL_AWAY`, and when it was last active and last heard from, which the
heartbeat reads. Only the client's own commands write it, and only past registration: the
type switch of `processCommand` makes the client active and touches it (`PING` and `PONG`
only touch it, `QUIT` does neither), and `AWAY` sets the away state. No handler writes the
presence of another client: a user `MODE` leaves `Away` alone, and `KILL` and the timeout
only end the client. So no other client and no operator can mark a client away or count as
its activity, and keep-alive traffic is not activity. -/
namespace Ergo.Irc

/-- The fields of a client record that make up its presence. -/
structure Presence where
  away : Bool
  awayMessage : String
  lastActive : Nat
  lastTouched : Nat
  deriving DecidableEq

def Client.presence (c : Client) : Presence :=
  ⟨c.flags .away, c.awayMessage, c.lastActive, c.lastTouched⟩

namespace Command

/-- What a command of the client, handled past registration at time `now`, makes of its
presence. `PROXY` and `CAP` are no `ServerCommand`, so they are answered as unknown. -/
def presenceAfter (now : Nat) (p : Presence) : Command → Presence
  | proxy .. | cap .. | quit .. => p
  | ping _ | pong _ => { p with lastTouched := now }
  | away _ gone text => ⟨gone, text, now, now⟩
  | _ => { p with lastActive := now, lastTouched := now }

/-- `PING`, `PONG` and `QUIT`: the commands the type switch of `processCommand` does not
count as activity. -/
def keepsActivity : Command → Bool
  | ping _ | pong _ | quit .. => true
  | _ => false

theorem presenceAfter_of_keepsActivity {cmd : Command} (kept : cmd.keepsActivity = true)
    (now : Nat) (p : Presence) :
    (cmd.presenceAfter now p).away = p.away ∧
      (cmd.presenceAfter now p).awayMessage = p.awayMessage ∧
      (cmd.presenceAfter now p).lastActive = p.lastActive := by
  cases cmd <;> (try cases kept) <;> exact ⟨rfl, rfl, rfl⟩

end Command

/-- The event is a command of `x` that counts as its activity. -/
def Event.activityOf (x : ClientId) : Event → Bool
  | .command cmd => decide (cmd.client = x) && !cmd.keepsActivity
  | _ => false

theorem presence_update (heap : ClientId → Client) (client x : ClientId) {c : Client}
    (kept : c.presence = (heap client).presence) :
    (Function.update heap client c x).presence = (heap x).presence := by
  by_cases same : x = client
  · subst same
    rwa [Function.update_same]
  · rw [Function.update_noteq same]

theorem Client.presence_setFlag (c : Client) {flag : UserMode} (other : flag ≠ .away) (b : Bool) :
    { c with flags := Function.update c.flags flag b }.presence = c.presence := by
  simp only [presence, Function.update_noteq other.symm]

theorem applyModeChanges_away (flags : UserMode → Bool) (changes : List ModeChange) :
    (applyModeChanges flags changes).1 .away = flags .away := by
  rw [applyModeChanges_flag, if_neg (by decide), if_neg (by decide)]

namespace Server

/-- No client's presence changes. -/
structure KeepsPresence (s s' : Server) : Prop where
  presence : ∀ x, (s'.heap x).presence = (s.heap x).presence

namespace KeepsPresence

variable {lowerRune : Char → Char} {methods : ChannelMethods}

theorem refl (s : Server) : s.KeepsPresence s := ⟨fun _ => rfl⟩

theorem trans {s₁ s₂ s₃ : Server} (first : s₁.KeepsPresence s₂)
    (second : s₂.KeepsPresence s₃) : s₁.KeepsPresence s₃ :=
  ⟨fun x => (second.presence x).trans (first.presence x)⟩

theorem of_heap {s s' : Server} (heap : s'.heap = s.heap) : s.KeepsPresence s' :=
  ⟨fun x => by rw [heap]⟩

theorem reply (s : Server) (client : ClientId) (r : Reply) : s.KeepsPresence (s.reply client r) :=
  of_heap rfl

theorem send (s : Server) (out : Outbox) : s.KeepsPresence (s.send out) := of_heap rfl

theorem closed : Closed KeepsPresence := ⟨refl, trans, send⟩

theorem modify (s : Server) (client : ClientId) {f : Client → Client}
    (kept : (f (s.heap client)).presence = (s.heap client).presence) :
    s.KeepsPresence (s.modify client f) :=
  ⟨fun x => presence_update _ client x kept⟩

theorem quit (s : Server) (client : ClientId) (message : String) :
    s.KeepsPresence (s.quit lowerRune methods client message) :=
  ⟨fun x => by rw [quit_heap]; exact presence_update _ client x rfl⟩

theorem changeNickname (s : Server) (client : ClientId) (nick : String) :
    s.KeepsPresence (s.changeNickname lowerRune client nick) :=
  ⟨fun x => by rw [changeNickname_heap]; exact presence_update _ client x rfl⟩

theorem register (s : Server) (client : ClientId) :
    s.KeepsPresence (s.register lowerRune client) :=
  ⟨fun x => by rw [register_heap]; exact presence_update _ client x rfl⟩

end KeepsPresence

theorem touch_presence (s : Server) (client : ClientId) (now : Nat) (x : ClientId) :
    ((s.touch client now).heap x).presence =
      if x = client then { (s.heap x).presence with lastTouched := now }
      else (s.heap x).presence := by
  by_cases same : x = client
  · subst same
    simp [touch, Client.presence]
  · simp [touch, same]

theorem touch_active_presence (s : Server) (client : ClientId) (now : Nat) (x : ClientId) :
    (((s.active client now).touch client now).heap x).presence =
      if x = client then { (s.heap x).presence with lastActive := now, lastTouched := now }
      else (s.heap x).presence := by
  by_cases same : x = client
  · subst same
    simp [touch, active, Client.presence]
  · simp [touch, active, same]

/-- A handler that keeps every presence, run after the type switch made the client active. -/
theorem KeepsPresence.after_active {s s' : Server} {client : ClientId} {now : Nat}
    (keeps : ((s.active client now).touch client now).KeepsPresence s') (x : ClientId) :
    (s'.heap x).presence =
      if x = client then { (s.heap x).presence with lastActive := now, lastTouched := now }
      else (s.heap x).presence :=
  (keeps.presence x).trans (touch_active_presence s client now x)

end Server

/-! ## The handlers -/

section Handlers

variable (lowerRune : Char → Char) (methods : ChannelMethods) (world : World) (s : Server)
  (client : ClientId)

theorem PassCommand.handleAuthServer_presence (err : Option String) :
    s.KeepsPresence (PassCommand.handleAuthServer lowerRune methods s client err) := by
  cases err
  · dsimp only [PassCommand.handleAuthServer]
    exact .modify _ _ (by rfl)
  · exact (Server.KeepsPresence.reply ..).trans (.quit ..)

/-- `AWAY` sets the away state of its client and no other presence. -/
theorem AwayCommand.handleServer_presence (away : Bool) (text : String) (x : ClientId) :
    ((AwayCommand.handleServer s client away text).heap x).presence =
      if x = client then { (s.heap x).presence with away := away, awayMessage := text }
      else (s.heap x).presence := by
  have marked : (AwayCommand.handleServer s client away text).heap = (s.modify client fun c =>
      { c with flags := Function.update c.flags .away away, awayMessage := text }).heap := by
    unfold AwayCommand.handleServer
    dsimp only
    split <;> rfl
  rw [marked]
  by_cases same : x = client
  · subst same
    simp [Client.presence]
  · simp [same]

end Handlers

/-! ## Each phase, and the loop -/

namespace Command

variable {lowerRune : Char → Char} {methods : ChannelMethods} {world : World}

theorem handleAuthServer_presence {cmd : Command} {s s' : Server}
    (handled : cmd.handleAuthServer lowerRune methods s = some s') : s.KeepsPresence s' := by
  rcases handleAuthServer_inv _ _ handled with
    ⟨hostname, rfl⟩ | rfl | ⟨err, rfl⟩ | ⟨message, rfl⟩
  · exact .modify _ _ (by rfl)
  · exact .refl _
  · exact PassCommand.handleAuthServer_presence ..
  · exact .quit ..

theorem handleRegServer_presence {cmd : Command} {s s' : Server}
    (handled : cmd.handleRegServer lowerRune methods world s = some s') : s.KeepsPresence s' := by
  rcases handleRegServer_inv _ _ _ handled with ⟨hostname, rfl⟩ | rfl | ⟨nickname, rfl⟩ |
    ⟨username, realname, rfl⟩ | ⟨username, realname, mode, rfl⟩ | ⟨message, rfl⟩
  · exact .modify _ _ (by rfl)
  · exact .refl _
  · exact NickCommand.handleRegServer_footprint Server.KeepsPresence.closed (.modify _ _ (by rfl))
      (.register · _)
  · exact UserCommand.handleRegServer2_footprint Server.KeepsPresence.closed
      (.modify · _ (by rfl)) (.register · _)
  · refine RFC2812UserCommand.handleRegServer_footprint Server.KeepsPresence.closed
      (fun t flag listed => .modify t _ ?_) (.modify · _ (by rfl)) (.register · _)
    rcases userModeFlags_mem listed with rfl | rfl <;> exact Client.presence_setFlag _ (by decide) _
  · exact .quit ..

/-- `HandleServer` after the type switch, on the presence: only the command's own client
changes, as `presenceAfter` says. -/
theorem handleServer_presence {cmd : Command} {s s' : Server} {now : Nat}
    (handled : cmd.handleServer lowerRune methods world (cmd.touchClient now s) = some s')
    (x : ClientId) :
    (s'.heap x).presence =
      if x = cmd.client then cmd.presenceAfter now (s.heap x).presence
      else (s.heap x).presence := by
  have closed := Server.KeepsPresence.closed
  have store : ∀ (t : Server) table out, t.KeepsPresence ({ t with channels := table }.send out) :=
    fun _ _ _ => .of_heap rfl
  cases cmd <;> cases handled
  case ping | pong => exact Server.touch_presence ..
  case quit => exact ((Server.KeepsPresence.quit ..).presence x).trans (ite_self _).symm
  case away client gone text =>
    have touched :
        touchClient now s (.away client gone text) = (s.active client now).touch client now := rfl
    have own : (Command.away client gone text).client = client := rfl
    rw [touched, AwayCommand.handleServer_presence, Server.touch_active_presence, own]
    by_cases same : x = client
    · simp only [if_pos same]
      rfl
    · simp only [if_neg same]
  all_goals refine Server.KeepsPresence.after_active ?_ x
  case pass | userRFC1459 | userRFC2812 | isOn => exact .reply ..
  case motd => exact .send ..
  case version | time => exact closed.ite (.reply ..) (.reply ..)
  case whoWas =>
    exact closed.foldl (fun s nickname _ => (Server.KeepsPresence.reply ..).trans (.reply ..)) _
  case nick => exact NickCommand.handleServer_footprint closed (.changeNickname _ _)
  case join => exact JoinCommand.handleServer_footprint closed store
  case part => exact PartCommand.handleServer_footprint closed store
  case topic => exact TopicCommand.handleServer_footprint closed store
  case privMsg => exact PrivMsgCommand.handleServer_footprint closed
  case mode =>
    exact ModeCommand.handleServer_footprint closed
      fun _ => .modify _ _ (by simp only [Client.presence, applyModeChanges_away])
  case whois => exact WhoisCommand.handleServer_footprint closed
  case channelMode => exact ChannelModeCommand.handleServer_footprint closed store
  case who => exact WhoCommand.handleServer_footprint closed
  case oper =>
    exact OperCommand.handleServer_footprint closed
      (.modify _ _ (Client.presence_setFlag _ (by decide) _))
  case notice => exact NoticeCommand.handleServer_footprint closed
  case kick => exact KickCommand.handleServer_footprint closed store
  case list => exact ListCommand.handleServer_footprint closed
  case names => exact NamesCommand.handleServer_footprint closed
  case debug => exact DebugCommand.handleServer_footprint closed
  case invite => exact InviteCommand.handleServer_footprint closed store
  case kill => exact KillCommand.handleServer_footprint closed fun _ _ => .quit ..

/-- A command that is no `ServerCommand` is one `presenceAfter` leaves alone. -/
theorem presenceAfter_of_unknown {cmd : Command} {s : Server}
    (unknown : cmd.handleServer lowerRune methods world s = none) (now : Nat) (p : Presence) :
    cmd.presenceAfter now p = p := by
  cases cmd <;> (try cases unknown) <;> rfl

end Command

namespace Server

variable (lowerRune : Char → Char) (methods : ChannelMethods) (world : World)

/-- What a command does to the presence of every client: only that of the command's own
client changes, and only past registration, as `presenceAfter` says. -/
theorem processCommand_presence (s : Server) (cmd : Command) (x : ClientId) :
    ((s.processCommand lowerRune methods world cmd).heap x).presence =
      if x = cmd.client ∧ Phase.normal.rank ≤ (s.heap x).phase.rank then
        cmd.presenceAfter world.now (s.heap x).presence
      else (s.heap x).presence := by
  have early (ranked : (s.heap cmd.client).phase.rank < Phase.normal.rank) :
      ¬(x = cmd.client ∧ Phase.normal.rank ≤ (s.heap x).phase.rank) := by
    rintro ⟨rfl, registered⟩
    omega
  have past (ranked : Phase.normal.rank ≤ (s.heap cmd.client).phase.rank) :
      (x = cmd.client ∧ Phase.normal.rank ≤ (s.heap x).phase.rank) ↔ x = cmd.client :=
    ⟨And.left, fun same => ⟨same, same ▸ ranked⟩⟩
  unfold processCommand
  cases phase : (s.heap cmd.client).phase <;> simp only [phase]
  case authorization =>
    rw [if_neg (early (by simp [phase, Phase.rank]))]
    split
    next => exact (KeepsPresence.quit ..).presence x
    next handled => exact (Command.handleAuthServer_presence handled).presence x
  case registration =>
    rw [if_neg (early (by simp [phase, Phase.rank]))]
    split
    next => exact (KeepsPresence.quit ..).presence x
    next handled => exact (Command.handleRegServer_presence handled).presence x
  all_goals
    rw [if_congr (past (by simp [phase, Phase.rank])) rfl rfl]
    split
    next unknown =>
      rw [Command.presenceAfter_of_unknown unknown, ite_self]
      rfl
    next handled => exact Command.handleServer_presence handled x

/-- One event: only a command of the client changes its presence. -/
theorem handleEvent_presence (s : Server) (event : Event) {x : ClientId}
    (allocated : x.addr < s.allocated) :
    ((s.handleEvent lowerRune methods world event).heap x).presence = (s.heap x).presence ∨
      ∃ cmd, event = .command cmd ∧ cmd.client = x ∧
        ((s.handleEvent lowerRune methods world event).heap x).presence =
          cmd.presenceAfter world.now (s.heap x).presence := by
  cases event with
  | signal => exact .inl ((KeepsPresence.of_heap (by simp [handleEvent, shutdown])).presence x)
  | newConn hostname =>
    have fresh : x ≠ ⟨s.allocated⟩ := fun same => by
      subst same
      exact Nat.lt_irrefl _ allocated
    exact .inl (by simp [handleEvent, newClient, Function.update_noteq fresh])
  | command cmd =>
    have step := processCommand_presence lowerRune methods world s cmd x
    split at step
    next own => exact .inr ⟨cmd, rfl, own.1.symm, step⟩
    next => exact .inl step
  | idle client => exact .inl rfl
  | timeout client => exact .inl ((KeepsPresence.quit ..).presence x)

/-- A property of a client's presence that each of its own commands keeps holds after any
run. -/
theorem run_presence (P : Presence → Prop) {x : ClientId} (events : List (World × Event))
    (keeps : ∀ world cmd, (world, Event.command cmd) ∈ events → cmd.client = x →
      ∀ p, P p → P (cmd.presenceAfter world.now p))
    (s : Server) (allocated : x.addr < s.allocated) (holds : P (s.heap x).presence) :
    P ((s.run lowerRune methods events).heap x).presence := by
  induction events generalizing s with
  | nil => exact holds
  | cons first rest ih =>
    obtain ⟨world, event⟩ := first
    have moved : P ((s.handleEvent lowerRune methods world event).heap x).presence := by
      rcases handleEvent_presence lowerRune methods world s event allocated with
        kept | ⟨cmd, rfl, own, after⟩
      · exact kept ▸ holds
      · exact after ▸ keeps world cmd (.head rest) own _ holds
    cases event with
    | signal => exact moved
    | _ =>
      exact ih (fun world cmd mem => keeps world cmd (.tail _ mem)) _
        (allocated.trans_le (handleEvent_allocated ..)) moved

/-- Over any events in which the client's own commands are only `PING`, `PONG` and `QUIT`,
its away state and its last-active time stay as they were: other clients' commands, an
operator's `MODE` or `KILL`, idle and timeout events and keep-alive traffic write neither. -/
theorem run_keeps_activity (s : Server) (events : List (World × Event)) {x : ClientId}
    (allocated : x.addr < s.allocated) (idle : ∀ e ∈ events, e.2.activityOf x = false) :
    ((s.run lowerRune methods events).heap x).flags .away = (s.heap x).flags .away ∧
      ((s.run lowerRune methods events).heap x).awayMessage = (s.heap x).awayMessage ∧
      ((s.run lowerRune methods events).heap x).lastActive = (s.heap x).lastActive := by
  refine run_presence lowerRune methods
    (fun p => p.away = (s.heap x).flags .away ∧ p.awayMessage = (s.heap x).awayMessage ∧
      p.lastActive = (s.heap x).lastActive) events (fun world cmd mem own p kept => ?_) s
    allocated ⟨rfl, rfl, rfl⟩
  have counted : cmd.keepsActivity = true := by simpa [Event.activityOf, own] using idle _ mem
  obtain ⟨away, message, active⟩ := Command.presenceAfter_of_keepsActivity counted world.now p
  exact ⟨away.trans kept.1, message.trans kept.2.1, active.trans kept.2.2⟩

/-- `bob` answers a `PING` with a `PONG` and sends nothing else, while the operator `alice`
sets a mode on `bob`, messages `bob`, goes away and kills `bob`. -/
def bobPestered : List (World × Event) :=
  [(quietWorld, .command (.mode ⟨0⟩ "bob" [⟨.invisible, .add⟩])),
    (quietWorld, .command (.privMsg ⟨0⟩ "bob" "ping?")), (quietWorld, .idle ⟨1⟩),
    (quietWorld, .command (.pong ⟨1⟩)), (quietWorld, .command (.away ⟨0⟩ true "lunch")),
    (quietWorld, .command (.kill ⟨0⟩ "bob" "idle"))]

theorem bobPestered_keeps_activity :
    (⟨1⟩ : ClientId).addr < aliceAndBob.allocated ∧
      (∀ e ∈ bobPestered, e.2.activityOf ⟨1⟩ = false) ∧
      ((aliceAndBob.run Char.toLower (specChannels Char.toLower) bobPestered).heap
          ⟨1⟩).flags .away = (aliceAndBob.heap ⟨1⟩).flags .away ∧
        ((aliceAndBob.run Char.toLower (specChannels Char.toLower) bobPestered).heap
          ⟨1⟩).awayMessage = (aliceAndBob.heap ⟨1⟩).awayMessage ∧
        ((aliceAndBob.run Char.toLower (specChannels Char.toLower) bobPestered).heap
          ⟨1⟩).lastActive = (aliceAndBob.heap ⟨1⟩).lastActive :=
  have allocated : (⟨1⟩ : ClientId).addr < aliceAndBob.allocated := by decide
  have idle : ∀ e ∈ bobPestered, e.2.activityOf ⟨1⟩ = false := by decide
  ⟨allocated, idle, run_keeps_activity _ _ _ _ allocated idle⟩

end Server

end Ergo.Irc
