import ErgoIrc.Server.Steps

/-! What one event of the loop can do to one client record, said once: `processCommand`
writes tamely, except for a verified `PASS` in the authorization phase, a `Register` in the
registration phase and a successful `OPER` afterwards. Every property of the phases and the
operator flags over whole runs is derived from `handleEvent_move`. -/
namespace Ergo.Irc

namespace Command

variable (lowerRune : Char → Char) (methods : ChannelMethods) (world : World)

theorem handleAuthServer_cases {cmd : Command} {s s' : Server}
    (handled : cmd.handleAuthServer lowerRune methods s = some s') :
    s.Tame s' ∨ ∃ client, cmd = .pass client none ∧
      s' = s.modify client fun c => { c with phase := .registration } := by
  cases cmd <;> cases handled
  case proxy client hostname => exact .inl (.modify s client fun _ => .of_eq rfl rfl)
  case cap => exact .inl (.refl s)
  case pass client err =>
    rcases PassCommand.handleAuthServer_cases lowerRune methods s client err with tame | ⟨rfl, moved⟩
    · exact .inl tame
    · exact .inr ⟨client, rfl, moved⟩
  case quit client message => exact .inl (Server.quit_tame ..)

theorem handleRegServer_cases {cmd : Command} {s s' : Server}
    (handled : cmd.handleRegServer lowerRune methods world s = some s') :
    s.Tame s' ∨ s.Registers world s' cmd.client := by
  cases cmd <;> cases handled
  case proxy client hostname => exact .inl (.modify s client fun _ => .of_eq rfl rfl)
  case cap => exact .inl (.refl s)
  case nick client nickname => exact NickCommand.handleRegServer_cases lowerRune world s client nickname
  case userRFC1459 client username realname =>
    exact UserCommand.handleRegServer2_cases lowerRune world s client username realname
  case userRFC2812 client username realname mode =>
    exact RFC2812UserCommand.handleRegServer_cases lowerRune world s client username realname mode
  case quit client message => exact .inl (Server.quit_tame ..)

/-- What `HandleAuthServer` can be, said once: the handler of `PROXY`, `CAP`, `PASS` or
`QUIT`, for the command's client. -/
theorem handleAuthServer_inv {cmd : Command} {s s' : Server}
    (handled : cmd.handleAuthServer lowerRune methods s = some s') :
    (∃ hostname, s' = ProxyCommand.handleAuthServer s cmd.client hostname) ∨ s' = s ∨
      (∃ err, s' = PassCommand.handleAuthServer lowerRune methods s cmd.client err) ∨
      ∃ message, s' = s.quit lowerRune methods cmd.client message := by
  cases cmd <;> cases handled
  · exact .inl ⟨_, rfl⟩
  · exact .inr (.inl rfl)
  · exact .inr (.inr (.inl ⟨_, rfl⟩))
  · exact .inr (.inr (.inr ⟨_, rfl⟩))

/-- What `HandleRegServer` can be, said once: the handler of `PROXY`, `CAP`, `NICK`, either
`USER` or `QUIT`, for the command's client. -/
theorem handleRegServer_inv {cmd : Command} {s s' : Server}
    (handled : cmd.handleRegServer lowerRune methods world s = some s') :
    (∃ hostname, s' = ProxyCommand.handleAuthServer s cmd.client hostname) ∨ s' = s ∨
      (∃ nickname, s' = NickCommand.handleRegServer lowerRune world s cmd.client nickname) ∨
      (∃ username realname,
        s' = UserCommand.handleRegServer2 lowerRune world s cmd.client username realname) ∨
      (∃ username realname mode, s' =
        RFC2812UserCommand.handleRegServer lowerRune world s cmd.client username realname mode) ∨
      ∃ message, s' = s.quit lowerRune methods cmd.client message := by
  cases cmd <;> cases handled
  · exact .inl ⟨_, rfl⟩
  · exact .inr (.inl rfl)
  · exact .inr (.inr (.inl ⟨_, rfl⟩))
  · exact .inr (.inr (.inr (.inl ⟨_, _, rfl⟩)))
  · exact .inr (.inr (.inr (.inr (.inl ⟨_, _, _, rfl⟩))))
  · exact .inr (.inr (.inr (.inr (.inr ⟨_, rfl⟩))))

/-- `HandleServer`, said once: a sequence of primitive writes for the command's client,
or a successful `OPER`. -/
theorem handleServer_cases {cmd : Command} {s s' : Server}
    (handled : cmd.handleServer lowerRune methods world s = some s') :
    s.Writes lowerRune methods cmd.client s' ∨ ∃ client hash, cmd = .oper client (some hash) none ∧
      s' = OperCommand.handleServer s client (some hash) none := by
  have closed : Server.Closed (Server.Writes lowerRune methods cmd.client) := Server.Writes.closed
  have store : ∀ t table out, Server.Writes lowerRune methods cmd.client t
      ({ t with channels := table }.send out) := fun _ _ _ => .same rfl rfl rfl
  cases cmd <;> cases handled
  case oper client hash err =>
    cases hash with
    | none => exact .inl (.reply ..)
    | some hash =>
      cases err with
      | none => exact .inr ⟨client, hash, rfl, rfl⟩
      | some _ => exact .inl (.reply ..)
  all_goals refine .inl ?_
  case pass | userRFC1459 | userRFC2812 | ping | isOn => exact .reply ..
  case pong => exact .refl s
  case quit => exact .quit ..
  case nick => exact NickCommand.handleServer_footprint closed (.changeNickname _)
  case join => exact JoinCommand.handleServer_footprint closed store
  case part => exact PartCommand.handleServer_footprint closed store
  case topic => exact TopicCommand.handleServer_footprint closed store
  case privMsg => exact PrivMsgCommand.handleServer_footprint closed
  case mode => exact ModeCommand.handleServer_writes ..
  case whois => exact WhoisCommand.handleServer_footprint closed
  case channelMode => exact ChannelModeCommand.handleServer_footprint closed store
  case who => exact WhoCommand.handleServer_footprint closed
  case away =>
    exact AwayCommand.handleServer_footprint closed (.modify _ _ ⟨rfl, rfl, rfl, rfl,
      fun raised => by simpa only [Function.update_noteq (show UserMode.operator ≠ .away by decide)],
      fun raised => by
        simpa only [Function.update_noteq (show UserMode.localOperator ≠ .away by decide)]⟩)
  case motd => exact .send ..
  case notice => exact NoticeCommand.handleServer_footprint closed
  case kick => exact KickCommand.handleServer_footprint closed store
  case list => exact ListCommand.handleServer_footprint closed
  case names => exact NamesCommand.handleServer_footprint closed
  case debug => exact DebugCommand.handleServer_footprint closed
  case version | time => exact closed.ite (.reply ..) (.reply ..)
  case invite => exact InviteCommand.handleServer_footprint closed store
  case kill => exact KillCommand.handleServer_footprint closed (.quit _)
  case whoWas =>
    exact closed.foldl (fun s nickname _ => (Server.Writes.reply ..).trans (.reply ..)) _

theorem touchClient_writes (now : Nat) (s : Server) (cmd : Command) :
    s.Writes lowerRune methods cmd.client (cmd.touchClient now s) :=
  touchClient_footprint Server.Writes.closed (fun t x => .modify t x (.of_eq rfl rfl rfl rfl rfl))
    fun t x => .modify t x (.of_eq rfl rfl rfl rfl rfl)

end Command

namespace Server

variable (lowerRune : Char → Char) (methods : ChannelMethods) (world : World)

/-- What `processCommand` can do, said once. -/
theorem processCommand_cases {s s' : Server} {cmd : Command}
    (processed : s.processCommand lowerRune methods world cmd = s') :
    s.Tame s' ∨
      (∃ client, cmd = .pass client none ∧ (s.heap client).phase = .authorization ∧
        s' = s.modify client fun c => { c with phase := .registration }) ∨
      ((s.heap cmd.client).phase = .registration ∧ s.Registers world s' cmd.client) ∨
      (∃ client hash, cmd = .oper client (some hash) none ∧
        ((s.heap client).phase = .normal ∨ (s.heap client).phase = .terminated) ∧
        s.Opers s' client) := by
  unfold processCommand at processed
  cases phase : (s.heap cmd.client).phase <;> simp only [phase] at processed
  case authorization =>
    split at processed
    next => exact .inl (processed ▸ quit_tame ..)
    next handled =>
      subst processed
      rcases Command.handleAuthServer_cases lowerRune methods handled with tame | ⟨client, rfl, rfl⟩
      · exact .inl tame
      · exact .inr (.inl ⟨client, rfl, phase, rfl⟩)
  case registration =>
    split at processed
    next => exact .inl (processed ▸ quit_tame ..)
    next handled =>
      subst processed
      exact (Command.handleRegServer_cases lowerRune methods world handled).imp id
        fun registers => .inr (.inl ⟨rfl, registers⟩)
  all_goals
    split at processed
    next => exact .inl (processed ▸ .reply ..)
    next handled =>
      subst processed
      have touched := (Command.touchClient_writes lowerRune methods world.now s cmd).tame
      rcases Command.handleServer_cases lowerRune methods world handled with
        writes | ⟨client, hash, rfl, rfl⟩
      · exact .inl (touched.trans writes.tame)
      · exact .inr (.inr (.inr ⟨client, hash, rfl, by first | exact .inl phase | exact .inr phase,
          .of_tame touched (OperCommand.handleServer_opers ..)⟩))

end Server

/-- What one event can do to the record of one client. -/
inductive ClientMove (x : ClientId) : Event → Client → Client → Prop
  /-- The phase is kept or terminated, and no operator flag is raised. -/
  | tame {event : Event} {c c' : Client} (tame : c.Tame c') : ClientMove x event c c'
  /-- A verified `PASS` in the authorization phase. -/
  | pass {c : Client} (authorizing : c.phase = .authorization) :
      ClientMove x (.command (.pass x none)) c { c with phase := .registration }
  /-- `Register`, for a command of the client in the registration phase. -/
  | register {cmd : Command} {c c' : Client} (own : cmd.client = x)
      (registering : c.phase = .registration) (normal : c'.phase = .normal)
      (named : c'.hasNick = true ∧ c'.hasUsername = true) (privileges : c.KeepsPrivileges c') :
      ClientMove x (.command cmd) c c'
  /-- A successful `OPER` of the client, past registration. -/
  | oper {hash : List UInt8} {c c' : Client} (registered : c.phase = .normal ∨ c.phase = .terminated)
      (phase : c'.phase = c.phase ∨ c'.phase = .terminated)
      (localOperator : c'.flags .localOperator = true → c.flags .localOperator = true) :
      ClientMove x (.command (.oper x (some hash) none)) c c'

namespace Server

variable (lowerRune : Char → Char) (methods : ChannelMethods) (world : World)

theorem processCommand_move (s : Server) (cmd : Command) (x : ClientId) :
    ClientMove x (.command cmd) (s.heap x) ((s.processCommand lowerRune methods world cmd).heap x) := by
  rcases processCommand_cases lowerRune methods world
      (rfl : s.processCommand lowerRune methods world cmd = _) with
    tame | ⟨client, rfl, phase, moved⟩ | ⟨phase, registers⟩ | ⟨client, hash, rfl, registered, opers⟩
  · exact .tame (tame.client x)
  · rw [moved, modify_heap]
    by_cases same : x = client
    · subst same
      rw [Function.update_same]
      exact .pass phase
    · rw [Function.update_noteq same]
      exact .tame (.refl _)
  · by_cases same : x = cmd.client
    · subst same
      exact .register rfl phase registers.normal registers.named registers.privileges
    · exact .tame (registers.others x same)
  · by_cases same : x = client
    · subst same
      exact .oper registered opers.phase opers.localOperator
    · exact .tame (opers.others x same)

theorem processCommand_allocated (s : Server) (cmd : Command) :
    (s.processCommand lowerRune methods world cmd).allocated = s.allocated := by
  rcases processCommand_cases lowerRune methods world
      (rfl : s.processCommand lowerRune methods world cmd = _) with
    tame | ⟨client, -, -, moved⟩ | ⟨-, registers⟩ | ⟨client, hash, -, -, opers⟩
  · exact tame.allocated
  · rw [moved, modify_allocated]
  · exact registers.allocated
  · exact opers.allocated

theorem shutdown_tame (s : Server) : s.Tame s.shutdown := .foldl (fun _ _ _ => .reply ..) s

/-- One event, for a client that already exists: a new connection gets the next address. -/
theorem handleEvent_move (s : Server) (event : Event) {x : ClientId}
    (allocated : x.addr < s.allocated) :
    ClientMove x event (s.heap x) ((s.handleEvent lowerRune methods world event).heap x) := by
  cases event with
  | signal => exact .tame ((shutdown_tame s).client x)
  | newConn hostname =>
    have fresh : x ≠ ⟨s.allocated⟩ := fun same => by subst same; exact Nat.lt_irrefl _ allocated
    simpa [handleEvent, newClient, Function.update_noteq fresh] using .tame (.refl (s.heap x))
  | command cmd => exact processCommand_move lowerRune methods world s cmd x
  | idle client => exact .tame ((Tame.reply ..).client x)
  | timeout client => exact .tame ((quit_tame ..).client x)

theorem handleEvent_allocated (s : Server) (event : Event) :
    s.allocated ≤ (s.handleEvent lowerRune methods world event).allocated := by
  cases event with
  | signal => exact (shutdown_tame s).allocated.ge
  | newConn hostname => exact Nat.le_succ _
  | command cmd => exact (processCommand_allocated lowerRune methods world s cmd).ge
  | idle client => exact le_rfl
  | timeout client => exact (quit_allocated ..).ge

/-- A property of one client record that each move of the run's events keeps holds after the
whole run. -/
theorem run_preserves (P : Client → Prop) {x : ClientId} (events : List (World × Event))
    (keeps : ∀ world event c c', (world, event) ∈ events → ClientMove x event c c' → P c → P c')
    (s : Server) (allocated : x.addr < s.allocated) (holds : P (s.heap x)) :
    P ((s.run lowerRune methods events).heap x) := by
  induction events generalizing s with
  | nil => exact holds
  | cons first rest ih =>
    obtain ⟨world, event⟩ := first
    have moved := keeps world event _ _ (.head rest) (handleEvent_move lowerRune methods world s event allocated) holds
    cases event with
    | signal => exact moved
    | _ =>
      exact ih (fun world event c c' mem => keeps world event c c' (.tail _ mem)) _
        (allocated.trans_le (handleEvent_allocated ..)) moved

end Server

end Ergo.Irc

