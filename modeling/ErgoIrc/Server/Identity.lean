import ErgoIrc.Server.Lifecycle

/-! A client's user name and host name, the `user@host` of its `nick!user@host`, are written
while it registers, by `USER` and `PROXY`, and never again. Past registration
`processCommand` hands every command to the `ServerCommand` handlers, where `USER` is
answered with `ERR_ALREADYREGISTERED` and `PROXY` is an unknown command; those handlers write
other clients only through `Quit`, and the handlers of the earlier phases write only the
record of the client the command came from. -/
namespace Ergo.Irc

/-- The user and host names of a client, as `USER` and `PROXY` set them. -/
def Client.userAndHost (c : Client) : String × String := (c.username, c.hostname)

namespace Server

theorem userAndHost_update (heap : ClientId → Client) (client x : ClientId) {c : Client}
    (kept : c.userAndHost = (heap client).userAndHost) :
    (Function.update heap client c x).userAndHost = (heap x).userAndHost := by
  by_cases same : x = client
  · subst same
    rwa [Function.update_same]
  · rw [Function.update_noteq same]

variable {lowerRune : Char → Char} {methods : ChannelMethods} {actor : ClientId}

theorem Write.userAndHost {s s' : Server} (write : s.Write lowerRune methods actor s')
    (x : ClientId) : (s'.heap x).userAndHost = (s.heap x).userAndHost := by
  cases write with
  | same heap => rw [heap]
  | modify client quiet =>
    exact userAndHost_update _ _ _ (by rw [Client.userAndHost, quiet.username, quiet.hostname]; rfl)
  | quit client => exact (quit_heap ..) ▸ userAndHost_update _ _ _ rfl
  | changeNickname nick => exact (changeNickname_heap ..) ▸ userAndHost_update _ _ _ rfl

theorem Writes.userAndHost {s s' : Server} (writes : s.Writes lowerRune methods actor s')
    (x : ClientId) : (s'.heap x).userAndHost = (s.heap x).userAndHost := by
  induction writes with
  | refl => rfl
  | tail _ write kept => exact (write.userAndHost x).trans kept

theorem tryRegister_heap_of_ne (world : World) (s : Server) {client x : ClientId}
    (other : x ≠ client) : (s.tryRegister lowerRune world client).heap x = s.heap x := by
  unfold tryRegister
  split <;> simp [motd, Function.update_noteq other]

end Server

namespace Command

variable {lowerRune : Char → Char} {methods : ChannelMethods} {world : World}

/-- A handler of the authorization phase writes only the record of the command's client. -/
theorem handleAuthServer_heap_of_ne {cmd : Command} {s s' : Server}
    (handled : cmd.handleAuthServer lowerRune methods s = some s') {x : ClientId}
    (other : x ≠ cmd.client) : s'.heap x = s.heap x := by
  rcases handleAuthServer_inv _ _ handled with ⟨hostname, rfl⟩ | rfl | ⟨err, rfl⟩ | ⟨message, rfl⟩
  · simp only [ProxyCommand.handleAuthServer, Server.modify_heap, Function.update_noteq other]
  · rfl
  · cases err
    · simp only [PassCommand.handleAuthServer, Server.modify_heap, Function.update_noteq other]
    · simp only [PassCommand.handleAuthServer, Server.quit_heap, Server.reply_heap,
        Function.update_noteq other]
  · simp only [Server.quit_heap, Function.update_noteq other]

/-- A handler of the registration phase writes only the record of the command's client. -/
theorem handleRegServer_heap_of_ne {cmd : Command} {s s' : Server}
    (handled : cmd.handleRegServer lowerRune methods world s = some s') {x : ClientId}
    (other : x ≠ cmd.client) : s'.heap x = s.heap x := by
  rcases handleRegServer_inv _ _ _ handled with ⟨hostname, rfl⟩ | rfl | ⟨nickname, rfl⟩ |
    ⟨username, realname, rfl⟩ | ⟨username, realname, mode, rfl⟩ | ⟨message, rfl⟩
  · simp only [ProxyCommand.handleAuthServer, Server.modify_heap, Function.update_noteq other]
  · rfl
  · simp only [NickCommand.handleRegServer, apply_ite (fun s : Server => s.heap x),
      Server.reply_heap, Server.tryRegister_heap_of_ne _ _ other, Server.setNickname,
      Server.modify_heap, Function.update_noteq other, ite_self]
  · simp only [UserCommand.handleRegServer2, Server.tryRegister_heap_of_ne _ _ other,
      Server.modify_heap, Function.update_noteq other]
  · simp only [RFC2812UserCommand.handleRegServer, UserCommand.handleRegServer2,
      Server.tryRegister_heap_of_ne _ _ other, Server.modify_heap, Function.update_noteq other]
    split
    · simp only [Server.reply_heap, Server.foldl_modify, Server.modify_heap, Function.update_noteq other]
    · rfl
  · simp only [Server.quit_heap, Function.update_noteq other]

end Command

namespace Server

variable (lowerRune : Char → Char) (methods : ChannelMethods) (world : World)

theorem OperCommand.handleServer_userAndHost (s : Server) (client : ClientId) (hash : List UInt8)
    (x : ClientId) :
    ((OperCommand.handleServer s client (some hash) none).heap x).userAndHost =
      (s.heap x).userAndHost := by
  simp only [OperCommand.handleServer, Option.isNone_some, Option.isSome_none, Bool.or_false,
    Bool.false_eq_true, if_false, reply_heap, modify_heap]
  exact userAndHost_update _ _ _ rfl

/-- A command keeps the user and host names of every client past registration. -/
theorem processCommand_userAndHost (s : Server) (cmd : Command) {x : ClientId}
    (registered : Phase.normal.rank ≤ (s.heap x).phase.rank) :
    ((s.processCommand lowerRune methods world cmd).heap x).userAndHost =
      (s.heap x).userAndHost := by
  have other (early : Phase.normal.rank > (s.heap cmd.client).phase.rank) : x ≠ cmd.client := by
    rintro rfl
    omega
  unfold processCommand
  cases phase : (s.heap cmd.client).phase <;> simp only [phase]
  case authorization =>
    have other := other (by simp [phase, Phase.rank])
    split
    next => simp [Function.update_noteq other]
    next handled => rw [Command.handleAuthServer_heap_of_ne handled other]
  case registration =>
    have other := other (by simp [phase, Phase.rank])
    split
    next => simp [Function.update_noteq other]
    next handled => rw [Command.handleRegServer_heap_of_ne handled other]
  all_goals
    split
    next => rfl
    next handled =>
      have touched := (Command.touchClient_writes lowerRune methods world.now s cmd).userAndHost x
      rcases Command.handleServer_cases lowerRune methods world handled with
        writes | ⟨client, hash, rfl, rfl⟩
      · exact (writes.userAndHost x).trans touched
      · exact (OperCommand.handleServer_userAndHost _ client hash x).trans touched

theorem handleEvent_userAndHost (s : Server) (event : Event) {x : ClientId}
    (allocated : x.addr < s.allocated) (registered : Phase.normal.rank ≤ (s.heap x).phase.rank) :
    ((s.handleEvent lowerRune methods world event).heap x).userAndHost =
      (s.heap x).userAndHost := by
  cases event with
  | signal => simp [handleEvent, shutdown]
  | newConn hostname =>
    have fresh : x ≠ ⟨s.allocated⟩ := fun same => by subst same; exact Nat.lt_irrefl _ allocated
    simp [handleEvent, newClient, Function.update_noteq fresh]
  | command cmd => exact processCommand_userAndHost lowerRune methods world s cmd registered
  | idle client => rfl
  | timeout client => exact (quit_heap ..) ▸ userAndHost_update _ _ _ rfl

/-- Over any events, the user and host names of a client past registration stay as they
are: no command, of that client or of another, and no other event writes them. -/
theorem run_keeps_userAndHost (s : Server) (events : List (World × Event)) {x : ClientId}
    (allocated : x.addr < s.allocated) (registered : Phase.normal.rank ≤ (s.heap x).phase.rank) :
    ((s.run lowerRune methods events).heap x).userAndHost = (s.heap x).userAndHost := by
  induction events generalizing s with
  | nil => rfl
  | cons first rest ih =>
    obtain ⟨world, event⟩ := first
    have kept := handleEvent_userAndHost lowerRune methods world s event allocated registered
    have ranked := (handleEvent_move lowerRune methods world s event allocated).rank_le
    cases event with
    | signal => exact kept
    | _ =>
      exact (ih _ (allocated.trans_le (handleEvent_allocated ..)) (registered.trans ranked)).trans
        kept

/-- `alice`, registered on a server without a password. -/
def aliceOnline : Server :=
  (Server.new Char.toLower ⟨"irc.example.net", "", ""⟩ []).run Char.toLower
    (specChannels Char.toLower)
    [(quietWorld, .newConn "example.net"), (quietWorld, .command (.nick ⟨0⟩ "alice")),
      (quietWorld, .command (.userRFC1459 ⟨0⟩ "alice" "Alice"))]

/-- After registering, `alice` sends `PROXY` and `USER` again: the names stay. -/
theorem aliceOnline_keeps_userAndHost :
    (⟨0⟩ : ClientId).addr < aliceOnline.allocated ∧
      Phase.normal.rank ≤ (aliceOnline.heap ⟨0⟩).phase.rank ∧
      ((aliceOnline.run Char.toLower (specChannels Char.toLower)
          [(quietWorld, .command (.proxy ⟨0⟩ "elsewhere.example")),
            (quietWorld, .command (.userRFC1459 ⟨0⟩ "mallory" "Mallory"))]).heap ⟨0⟩).userAndHost =
        (aliceOnline.heap ⟨0⟩).userAndHost :=
  ⟨by decide, by decide, run_keeps_userAndHost _ _ _ _ (by decide) (by decide)⟩

end Server

end Ergo.Irc
