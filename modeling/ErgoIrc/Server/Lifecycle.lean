import ErgoIrc.Server.Moves
import ErgoIrc.Server.Channels

/-! The lifecycle of a client. `processCommand` routes a command by the client's phase:
the `AuthServerCommand` handlers in `Authorization`, the `RegServerCommand` handlers in
`Registration`, and the `ServerCommand` handlers in every other phase, `Terminated`
included. A phase never moves back; `Authorization` is left by a verified `PASS` or by
`Client.Quit`, and `Normal` is entered only by `Register` from `Registration`. -/
namespace Ergo.Irc

theorem Phase.eq_terminated_of_rank {phase : Phase} (ranked : Phase.terminated.rank ≤ phase.rank) :
    phase = .terminated := by
  cases phase <;> simp_all [Phase.rank]

namespace ClientMove

variable {x : ClientId} {event : Event} {c c' : Client}

theorem rank_le (move : ClientMove x event c c') : c.phase.rank ≤ c'.phase.rank := by
  cases move with
  | tame tame => exact tame.rank_le
  | pass authorizing => simp [authorizing, Phase.rank]
  | register _ registering normal => simp [registering, normal, Phase.rank]
  | oper _ phase => exact Phase.rank_le_of_kept phase

theorem of_authorization (move : ClientMove x event c c') (authorizing : c.phase = .authorization) :
    c'.phase = .authorization ∨ c'.phase = .terminated ∨
      event = .command (.pass x none) ∧ c'.phase = .registration := by
  cases move with
  | tame tame => exact tame.phase.imp (·.trans authorizing) .inl
  | pass => exact .inr (.inr ⟨rfl, rfl⟩)
  | register _ registering => simp_all
  | oper registered => rcases registered with phase | phase <;> simp_all

theorem to_normal (move : ClientMove x event c c') (fresh : c.phase ≠ .normal)
    (normal : c'.phase = .normal) :
    c.phase = .registration ∧ (∃ cmd, event = .command cmd ∧ cmd.client = x) ∧
      c'.hasNick = true ∧ c'.hasUsername = true := by
  cases move with
  | tame tame => rcases tame.phase with same | terminated <;> simp_all
  | pass => simp at normal
  | register own registering _ named => exact ⟨registering, ⟨_, rfl, own⟩, named⟩
  | oper registered phase => rcases registered with p | p <;> rcases phase with q | q <;> simp_all

end ClientMove

namespace Server

variable (lowerRune : Char → Char) (methods : ChannelMethods) (world : World)

/-- A command that makes its client `Normal` ends by queuing it the welcome burst and the
MOTD: only `Register` makes a client `Normal`, and it comes with those replies. -/
theorem processCommand_welcomes (s : Server) (cmd : Command)
    (fresh : (s.heap cmd.client).phase ≠ .normal)
    (normal : ((s.processCommand lowerRune methods world cmd).heap cmd.client).phase = .normal) :
    ∃ earlier, (s.processCommand lowerRune methods world cmd).outbox = earlier ++
      ([(cmd.client, .rplWelcome), (cmd.client, .rplYourHost), (cmd.client, .rplCreated),
        (cmd.client, .rplMyInfo)] ++
        (motdReplies s.motdFile (world.readFile s.motdFile)).map (cmd.client, ·)) := by
  have stuck : ∀ {c : Client}, c.phase = (s.heap cmd.client).phase ∨ c.phase = .terminated →
      c.phase ≠ .normal := by
    rintro c (same | terminated)
    · exact same ▸ fresh
    · exact terminated ▸ by decide
  rcases processCommand_cases lowerRune methods world
      (rfl : s.processCommand lowerRune methods world cmd = _) with
    tame | ⟨client, rfl, -, moved⟩ | ⟨-, registers⟩ | ⟨client, hash, rfl, -, opers⟩
  · exact absurd normal (stuck (tame.client cmd.client).phase)
  · have registering : ((s.modify client fun c => { c with phase := .registration }).heap
        client).phase = .normal := moved ▸ normal
    simp at registering
  · exact registers.welcomed
  · exact absurd normal (stuck opers.phase)

end Server

/-- The lifecycle of one client from a state of the loop, over any events. -/
structure Lifecycle (lowerRune : Char → Char) (methods : ChannelMethods) (s : Server)
    (x : ClientId) : Prop where
  /-- The phase never moves back. -/
  monotone : ∀ events, (s.heap x).phase.rank ≤ ((s.run lowerRune methods events).heap x).phase.rank
  /-- An event takes the client out of `Authorization` only into `Terminated`, or into
  `Registration` by a verified `PASS` of its own. -/
  leaves_authorization : ∀ world event, (s.heap x).phase = .authorization →
    ((s.handleEvent lowerRune methods world event).heap x).phase = .authorization ∨
      ((s.handleEvent lowerRune methods world event).heap x).phase = .terminated ∨
      event = .command (.pass x none) ∧
        ((s.handleEvent lowerRune methods world event).heap x).phase = .registration
  /-- Without a verified `PASS`, a client in `Authorization` ends in `Authorization` or
  `Terminated`, so no `RegServerCommand` handler ever runs for it, nor `tryRegister`. -/
  locked : ∀ events, (s.heap x).phase = .authorization →
    (∀ world, (world, Event.command (.pass x none)) ∉ events) →
    ((s.run lowerRune methods events).heap x).phase = .authorization ∨
      ((s.run lowerRune methods events).heap x).phase = .terminated
  /-- An event makes the client `Normal` only from `Registration`, for a command of its own,
  with a nickname and a username set; as the phase never moves back, this happens once. -/
  enters_normal : ∀ world event, (s.heap x).phase ≠ .normal →
    ((s.handleEvent lowerRune methods world event).heap x).phase = .normal →
    (s.heap x).phase = .registration ∧ (∃ cmd, event = .command cmd ∧ cmd.client = x) ∧
      ((s.handleEvent lowerRune methods world event).heap x).hasNick = true ∧
      ((s.handleEvent lowerRune methods world event).heap x).hasUsername = true
  /-- That event ends by queuing the client `RPL_WELCOME`, `RPL_YOURHOST`, `RPL_CREATED`,
  `RPL_MYINFO` and the MOTD: the replies of `tryRegister` come with its one `Register`. -/
  welcomed : ∀ world event, (s.heap x).phase ≠ .normal →
    ((s.handleEvent lowerRune methods world event).heap x).phase = .normal →
    ∃ earlier, (s.handleEvent lowerRune methods world event).outbox = earlier ++
      ([(x, .rplWelcome), (x, .rplYourHost), (x, .rplCreated), (x, .rplMyInfo)] ++
        (motdReplies s.motdFile (world.readFile s.motdFile)).map (x, ·))

theorem client_lifecycle (lowerRune : Char → Char) (methods : ChannelMethods) (s : Server)
    (x : ClientId) (allocated : x.addr < s.allocated) : Lifecycle lowerRune methods s x where
  monotone events :=
    Server.run_preserves lowerRune methods (fun c => (s.heap x).phase.rank ≤ c.phase.rank) events
      (fun _ _ _ _ _ move before => before.trans move.rank_le) s allocated le_rfl
  leaves_authorization world event authorizing :=
    (Server.handleEvent_move lowerRune methods world s event allocated).of_authorization authorizing
  locked events authorizing unverified := by
    refine Server.run_preserves lowerRune methods
      (fun c => c.phase = .authorization ∨ c.phase = .terminated) events ?_ s allocated (.inl authorizing)
    intro world event c c' mem move locked
    rcases locked with authorizing | terminated
    · rcases move.of_authorization authorizing with kept | terminated | ⟨rfl, -⟩
      · exact .inl kept
      · exact .inr terminated
      · exact absurd mem (unverified world)
    · exact .inr (Phase.eq_terminated_of_rank (terminated ▸ move.rank_le))
  enters_normal world event fresh normal :=
    (Server.handleEvent_move lowerRune methods world s event allocated).to_normal fresh normal
  welcomed world event fresh normal := by
    obtain ⟨-, ⟨cmd, rfl, rfl⟩, -⟩ :=
      (Server.handleEvent_move lowerRune methods world s event allocated).to_normal fresh normal
    exact Server.processCommand_welcomes lowerRune methods world s cmd fresh normal

/-- The loop's outside world in the examples: the clock at zero and no MOTD file. -/
def quietWorld : World := ⟨0, fun _ => none, 1, false⟩

/-- A server with a password, and a client just connected at address 0. -/
def lockedServer : Server :=
  (Server.new Char.toLower ⟨"irc.example.net", "", "secret"⟩ []).handleEvent Char.toLower
    (specChannels Char.toLower) quietWorld (.newConn "example.net")

theorem client_lifecycle_connected :
    (⟨0⟩ : ClientId).addr < lockedServer.allocated ∧
      Lifecycle Char.toLower (specChannels Char.toLower) lockedServer ⟨0⟩ :=
  ⟨by decide, client_lifecycle Char.toLower (specChannels Char.toLower) lockedServer ⟨0⟩ (by decide)⟩

/-- `USER` then `NICK` registers a client: it is indexed under its nickname, `Normal`, and sent
the welcome burst and, with no MOTD file configured, `ERR_NOMOTD`. -/
example :
    let s := (Server.new Char.toLower ⟨"irc.example.net", "", ""⟩ []).run Char.toLower
      (specChannels Char.toLower)
      [(quietWorld, .newConn "example.com"), (quietWorld, .command (.userRFC1459 ⟨0⟩ "carol" "Carol"))]
    let s' := s.processCommand Char.toLower (specChannels Char.toLower) quietWorld
      (.nick ⟨0⟩ "carol")
    s'.clients.get Char.toLower "carol" = some ⟨0⟩ ∧ (s'.heap ⟨0⟩).phase = .normal ∧
      s'.outbox = s.outbox ++ [(⟨0⟩, .rplWelcome), (⟨0⟩, .rplYourHost), (⟨0⟩, .rplCreated),
        (⟨0⟩, .rplMyInfo), (⟨0⟩, .errNoMOTD)] :=
  ⟨by decide, by decide, rfl⟩

/-- Before any `PASS`, a `NICK` terminates the client, and the `JOIN` after it is handled by
`JoinCommand.HandleServer`, which makes the client a member of `#a`. -/
theorem join_without_pass :
    (lockedServer.heap ⟨0⟩).phase = .authorization ∧
      ((lockedServer.run Char.toLower (specChannels Char.toLower)
        [(quietWorld, .command (.nick ⟨0⟩ "alice"))]).heap ⟨0⟩).phase = .terminated ∧
      ((lockedServer.run Char.toLower (specChannels Char.toLower)
        [(quietWorld, .command (.nick ⟨0⟩ "alice")),
          (quietWorld, .command (.join ⟨0⟩ false [("#a", "")]))]).getChannel Char.toLower
          "#a").map (·.isMember ⟨0⟩) = some true := by
  decide

end Ergo.Irc
