import Mathlib.Logic.Relation
import ErgoIrc.Server.Loop

/-! What one event can do to the client objects. The handlers write a client record only
through `Server.modify`, and besides that they queue replies and replace channel tables.
The handlers of a registered client's command are sequences of four primitive writes
(`Server.Write`); four kinds of step matter for the phase and the operator flags: a
verified `PASS`, the `Register` in `tryRegister`, a successful `OPER`, and everything
else, which keeps the phase or terminates the client and raises no operator flag. -/
namespace Ergo.Irc

/-- The phases in the order of the lifecycle. -/
def Phase.rank : Phase → Nat
  | .authorization => 0
  | .registration => 1
  | .normal => 2
  | .terminated => 3

theorem Phase.rank_le_terminated (phase : Phase) : phase.rank ≤ Phase.terminated.rank := by
  cases phase <;> decide

/-- A phase that is kept or terminated has not moved back. -/
theorem Phase.rank_le_of_kept {phase phase' : Phase}
    (kept : phase' = phase ∨ phase' = .terminated) : phase.rank ≤ phase'.rank := by
  rcases kept with rfl | rfl
  · exact le_rfl
  · exact rank_le_terminated phase

/-- No operator flag of the record is raised. -/
structure Client.KeepsPrivileges (c c' : Client) : Prop where
  operator : c'.flags .operator = true → c.flags .operator = true
  localOperator : c'.flags .localOperator = true → c.flags .localOperator = true

/-- A write that keeps the phase or terminates the client, and raises no operator flag. -/
structure Client.Tame (c c' : Client) : Prop where
  phase : c'.phase = c.phase ∨ c'.phase = .terminated
  privileges : c.KeepsPrivileges c'

/-- A write that keeps the phase and the fields the nickname index reads (nickname,
username, hostname), and raises no operator flag: `Touch`, `Active`, `AWAY`, user `MODE`. -/
structure Client.Quiet (c c' : Client) : Prop where
  phase : c'.phase = c.phase
  nick : c'.nick = c.nick
  username : c'.username = c.username
  hostname : c'.hostname = c.hostname
  privileges : c.KeepsPrivileges c'

namespace Client

theorem KeepsPrivileges.refl (c : Client) : c.KeepsPrivileges c := ⟨id, id⟩

theorem KeepsPrivileges.trans {c₁ c₂ c₃ : Client} (first : c₁.KeepsPrivileges c₂)
    (second : c₂.KeepsPrivileges c₃) : c₁.KeepsPrivileges c₃ :=
  ⟨first.operator ∘ second.operator, first.localOperator ∘ second.localOperator⟩

theorem Tame.refl (c : Client) : c.Tame c := ⟨.inl rfl, .refl c⟩

theorem Tame.trans {c₁ c₂ c₃ : Client} (first : c₁.Tame c₂) (second : c₂.Tame c₃) :
    c₁.Tame c₃ := by
  refine ⟨?_, first.privileges.trans second.privileges⟩
  rcases second.phase with same | terminated
  · rw [same]
    exact first.phase
  · exact .inr terminated

/-- A write that leaves the phase and the flags alone is tame. -/
theorem Tame.of_eq {c c' : Client} (phase : c'.phase = c.phase) (flags : c'.flags = c.flags) :
    c.Tame c' :=
  ⟨.inl phase, ⟨by rw [flags]; exact id, by rw [flags]; exact id⟩⟩

theorem Tame.rank_le {c c' : Client} (tame : c.Tame c') : c.phase.rank ≤ c'.phase.rank :=
  Phase.rank_le_of_kept tame.phase

theorem Quiet.tame {c c' : Client} (quiet : c.Quiet c') : c.Tame c' :=
  ⟨.inl quiet.phase, quiet.privileges⟩

/-- A write of the fields no property here reads (activity times, away text). -/
theorem Quiet.of_eq {c c' : Client} (phase : c'.phase = c.phase) (nick : c'.nick = c.nick)
    (username : c'.username = c.username) (hostname : c'.hostname = c.hostname)
    (flags : c'.flags = c.flags) : c.Quiet c' :=
  ⟨phase, nick, username, hostname, (Tame.of_eq phase flags).privileges⟩

end Client

namespace Server

/-- A step that creates no client and writes every client record tamely. -/
structure Tame (s s' : Server) : Prop where
  allocated : s'.allocated = s.allocated
  client : ∀ x, (s.heap x).Tame (s'.heap x)

theorem Tame.refl (s : Server) : s.Tame s := ⟨rfl, fun x => .refl (s.heap x)⟩

theorem Tame.trans {s₁ s₂ s₃ : Server} (first : s₁.Tame s₂) (second : s₂.Tame s₃) :
    s₁.Tame s₃ :=
  ⟨second.allocated.trans first.allocated, fun x => (first.client x).trans (second.client x)⟩

/-- A step that leaves the client objects and the next address as they were is tame. -/
theorem Tame.of_same {s s' : Server} (heap : s'.heap = s.heap)
    (allocated : s'.allocated = s.allocated) : s.Tame s' :=
  ⟨allocated, fun x => by rw [heap]; exact .refl _⟩

theorem Tame.foldl {α : Type} {f : Server → α → Server} {xs : List α}
    (step : ∀ (s : Server), ∀ a ∈ xs, s.Tame (f s a)) (s : Server) : s.Tame (xs.foldl f s) :=
  List.foldlRecOn (motive := s.Tame) xs f s (.refl s) fun s' tame a mem => tame.trans (step s' a mem)

/-- A step that rewrites one client record tamely. -/
theorem Tame.of_update {s s' : Server} {client : ClientId} {c : Client}
    (heap : s'.heap = Function.update s.heap client c) (allocated : s'.allocated = s.allocated)
    (tame : (s.heap client).Tame c) : s.Tame s' := by
  refine ⟨allocated, fun x => ?_⟩
  rw [heap]
  by_cases same : x = client
  · subst same
    simpa using tame
  · simpa [Function.update_noteq same] using Client.Tame.refl (s.heap x)

theorem Tame.modify (s : Server) (client : ClientId) {f : Client → Client}
    (tame : ∀ c : Client, c.Tame (f c)) : s.Tame (s.modify client f) :=
  .of_update rfl rfl (tame _)

theorem Tame.reply (s : Server) (client : ClientId) (r : Reply) : s.Tame (s.reply client r) :=
  .of_same rfl rfl

variable (lowerRune : Char → Char) (methods : ChannelMethods) (world : World)

theorem quit_tame (s : Server) (client : ClientId) (message : String) :
    s.Tame (s.quit lowerRune methods client message) :=
  .of_update (quit_heap ..) (quit_allocated ..) ⟨.inr rfl, id, id⟩

theorem changeNickname_tame (s : Server) (client : ClientId) (nick : String) :
    s.Tame (s.changeNickname lowerRune client nick) :=
  .of_update (changeNickname_heap ..) (changeNickname_allocated ..) (.of_eq rfl rfl)

end Server

/-! ## The writes of a registered client's handlers -/

namespace Server

/-- One primitive write of a handler for a command of `actor`: replies queued and channel
tables replaced, a quiet write of any client record, `Client.Quit` of any client, and
`Client.ChangeNickname` of the actor. -/
inductive Write (lowerRune : Char → Char) (methods : ChannelMethods) (actor : ClientId) :
    Server → Server → Prop
  /-- No client record, address or index entry changes. -/
  | same {s s' : Server} (heap : s'.heap = s.heap) (allocated : s'.allocated = s.allocated)
      (clients : s'.clients = s.clients) : Write lowerRune methods actor s s'
  | modify (s : Server) (client : ClientId) {f : Client → Client}
      (quiet : (s.heap client).Quiet (f (s.heap client))) :
      Write lowerRune methods actor s (s.modify client f)
  | quit (s : Server) (client : ClientId) (message : String) :
      Write lowerRune methods actor s (s.quit lowerRune methods client message)
  | changeNickname (s : Server) (nick : String) :
      Write lowerRune methods actor s (s.changeNickname lowerRune actor nick)

/-- A handler of a command of `actor`, as a sequence of primitive writes. -/
def Writes (lowerRune : Char → Char) (methods : ChannelMethods) (actor : ClientId) :
    Server → Server → Prop :=
  Relation.ReflTransGen (Write lowerRune methods actor)

variable {lowerRune : Char → Char} {methods : ChannelMethods} {actor : ClientId}

theorem Write.tame {s s' : Server} (write : s.Write lowerRune methods actor s') : s.Tame s' := by
  cases write with
  | same heap allocated => exact .of_same heap allocated
  | modify client quiet => exact .of_update rfl rfl quiet.tame
  | quit => exact quit_tame ..
  | changeNickname => exact changeNickname_tame ..

namespace Writes

theorem refl (s : Server) : s.Writes lowerRune methods actor s := Relation.ReflTransGen.refl

theorem trans {s₁ s₂ s₃ : Server} (first : s₁.Writes lowerRune methods actor s₂)
    (second : s₂.Writes lowerRune methods actor s₃) : s₁.Writes lowerRune methods actor s₃ :=
  Relation.ReflTransGen.trans first second

theorem same {s s' : Server} (heap : s'.heap = s.heap) (allocated : s'.allocated = s.allocated)
    (clients : s'.clients = s.clients) : s.Writes lowerRune methods actor s' :=
  .single (.same heap allocated clients)

theorem reply (s : Server) (client : ClientId) (r : Reply) :
    s.Writes lowerRune methods actor (s.reply client r) :=
  same rfl rfl rfl

theorem send (s : Server) (out : Outbox) : s.Writes lowerRune methods actor (s.send out) :=
  same rfl rfl rfl

theorem modify (s : Server) (client : ClientId) {f : Client → Client}
    (quiet : (s.heap client).Quiet (f (s.heap client))) :
    s.Writes lowerRune methods actor (s.modify client f) :=
  .single (.modify s client quiet)

theorem quit (s : Server) (client : ClientId) (message : String) :
    s.Writes lowerRune methods actor (s.quit lowerRune methods client message) :=
  .single (.quit s client message)

theorem changeNickname (s : Server) (nick : String) :
    s.Writes lowerRune methods actor (s.changeNickname lowerRune actor nick) :=
  .single (.changeNickname s nick)

/-- Every handler built from the primitive writes is tame. -/
theorem tame {s s' : Server} (writes : s.Writes lowerRune methods actor s') : s.Tame s' := by
  induction writes with
  | refl => exact .refl s
  | tail _ write tame => exact tame.trans write.tame

end Writes

end Server

/-! ## Handler footprints

Each handler is walked once, over any relation `R` that is `Closed` and holds of the steps
the handler's hypotheses name: channel tables stored with replies (`store`), a `Quit`, a
nickname change, or one write of a client record. `Writes` here, `Calm` in `Members` and
`KeepsPresence` in `Presence` are read off these footprints. -/

namespace Server

/-- A relation between states that holds of no step, of two steps in a row when it holds of
each, and of queuing replies. -/
structure Closed (R : Server → Server → Prop) : Prop where
  refl : ∀ s, R s s
  trans : ∀ {s₁ s₂ s₃}, R s₁ s₂ → R s₂ s₃ → R s₁ s₃
  send : ∀ s out, R s (s.send out)

namespace Closed

variable {R : Server → Server → Prop}

theorem ite (_ : Closed R) {s a b : Server} {c : Prop} [Decidable c] (yes : R s a)
    (no : R s b) : R s (if c then a else b) := by
  split <;> assumption

variable (closed : Closed R)
include closed

theorem reply (s : Server) (client : ClientId) (r : Reply) : R s (s.reply client r) :=
  closed.send s [(client, r)]

theorem foldl {α : Type} {f : Server → α → Server} {xs : List α}
    (step : ∀ (s : Server), ∀ a ∈ xs, R s (f s a)) (s : Server) : R s (xs.foldl f s) :=
  List.foldlRecOn (motive := R s) xs f s (closed.refl s) fun s' held a mem =>
    closed.trans held (step s' a mem)

end Closed

variable {lowerRune : Char → Char} {methods : ChannelMethods} {actor : ClientId}

theorem Writes.closed : Closed (Writes lowerRune methods actor) := ⟨.refl, .trans, .send⟩

end Server

section Footprints

variable {lowerRune : Char → Char} {methods : ChannelMethods} {world : World} {s : Server}
  {client : ClientId} {R : Server → Server → Prop} (closed : Server.Closed R)
include closed

theorem NickCommand.handleServer_footprint {nickname : String}
    (changeNickname : ∀ nick, R s (s.changeNickname lowerRune client nick)) :
    R s (NickCommand.handleServer lowerRune s client nickname) := by
  unfold NickCommand.handleServer
  refine closed.ite (closed.reply ..) (closed.ite (closed.reply ..) (closed.ite (closed.refl s) ?_))
  split
  · exact closed.ite (closed.reply ..) (changeNickname _)
  · exact changeNickname _

theorem JoinCommand.handleServer_footprint {zero : Bool} {channels : List (String × String)}
    (store : ∀ t table out, R t ({ t with channels := table }.send out)) :
    R s (JoinCommand.handleServer lowerRune methods s client zero channels) := by
  unfold JoinCommand.handleServer
  split <;> refine closed.foldl (fun t a _ => ?_) s
  · exact store ..
  · dsimp only
    split_ifs
    · exact closed.reply ..
    · split <;> exact store ..

theorem PartCommand.handleServer_footprint {channels : List String} {message : String}
    (store : ∀ t table out, R t ({ t with channels := table }.send out)) :
    R s (PartCommand.handleServer lowerRune methods s client channels message) := by
  refine closed.foldl (fun t name _ => ?_) s
  split
  · exact closed.reply ..
  · exact store ..

theorem TopicCommand.handleServer_footprint {name : String} {setTopic : Bool} {topic : String}
    (store : ∀ t table out, R t ({ t with channels := table }.send out)) :
    R s (TopicCommand.handleServer lowerRune methods s client name setTopic topic) := by
  unfold TopicCommand.handleServer
  split
  · exact closed.reply ..
  · exact closed.ite (store ..) (closed.send ..)

theorem PrivMsgCommand.handleServer_footprint {target message : String} :
    R s (PrivMsgCommand.handleServer lowerRune methods s client target message) := by
  unfold PrivMsgCommand.handleServer
  refine closed.ite ?_ ?_ <;> split
  · exact closed.reply ..
  · exact closed.send ..
  · exact closed.reply ..
  · exact closed.trans (closed.reply ..) (closed.ite (closed.reply ..) (closed.refl _))

theorem ModeCommand.handleServer_footprint {nickname : String} {changes : List ModeChange}
    (flagged : ∀ target, R s (s.modify target fun c =>
      { c with flags := (applyModeChanges (s.heap target).flags changes).1 })) :
    R s (ModeCommand.handleServer lowerRune s client nickname changes) := by
  unfold ModeCommand.handleServer
  split
  · exact closed.reply ..
  · rename_i target _
    refine closed.ite (closed.reply ..) ?_
    have modified := flagged target
    rcases moved : applyModeChanges (s.heap target).flags changes with ⟨flags, applied⟩
    rw [moved] at modified
    exact closed.ite (closed.trans modified (closed.reply ..)) modified

theorem WhoisCommand.handleServer_footprint {masks : List String} :
    R s (WhoisCommand.handleServer lowerRune s client masks) := by
  refine closed.foldl (fun t mask _ => ?_) s
  split
  · exact closed.reply ..
  · exact closed.foldl (fun _ _ _ => closed.reply ..) _

theorem ChannelModeCommand.handleServer_footprint {name : String}
    {changes : List ChannelModeChange}
    (store : ∀ t table out, R t ({ t with channels := table }.send out)) :
    R s (ChannelModeCommand.handleServer lowerRune methods s client name changes) := by
  unfold ChannelModeCommand.handleServer
  split
  · exact closed.reply ..
  · exact store ..

theorem whoChannel_footprint (t : Server) (channel : Channel) (friends : List ClientId) :
    R t (whoChannel t client channel friends) :=
  closed.foldl (fun t _ _ => closed.ite (closed.reply ..) (closed.refl t)) t

theorem WhoCommand.handleServer_footprint {mask : String} :
    R s (WhoCommand.handleServer lowerRune s client mask) := by
  unfold WhoCommand.handleServer
  refine closed.trans (closed.ite (closed.foldl (fun t _ _ => whoChannel_footprint closed ..) _)
    (closed.ite ?_ (closed.foldl (fun _ _ _ => closed.reply ..) _))) (closed.reply ..)
  split
  · exact whoChannel_footprint closed ..
  · exact closed.refl s

theorem OperCommand.handleServer_footprint {hash : Option (List UInt8)} {err : Option String}
    (raised : R s (s.modify client fun c => { c with flags := Function.update c.flags .operator true })) :
    R s (OperCommand.handleServer s client hash err) :=
  closed.ite (closed.reply ..) (closed.trans (closed.trans raised (closed.reply ..)) (closed.reply ..))

theorem AwayCommand.handleServer_footprint {away : Bool} {text : String}
    (marked : R s (s.modify client fun c =>
      { c with flags := Function.update c.flags .away away, awayMessage := text })) :
    R s (AwayCommand.handleServer s client away text) :=
  closed.ite (closed.trans marked (closed.reply ..)) (closed.trans marked (closed.reply ..))

theorem NoticeCommand.handleServer_footprint {target message : String} :
    R s (NoticeCommand.handleServer lowerRune methods s client target message) := by
  unfold NoticeCommand.handleServer
  refine closed.ite ?_ ?_ <;> split
  · exact closed.reply ..
  · exact closed.send ..
  all_goals exact closed.reply ..

theorem KickCommand.handleServer_footprint {kicks : List (String × String)} {comment : String}
    (store : ∀ t table out, R t ({ t with channels := table }.send out)) :
    R s (KickCommand.handleServer lowerRune methods s client kicks comment) := by
  refine closed.foldl (fun t kick _ => ?_) s
  dsimp only
  split
  · exact closed.reply ..
  · split
    · exact closed.reply ..
    · exact store ..

theorem ListCommand.handleServer_footprint {channels : List String} {target : String} :
    R s (ListCommand.handleServer lowerRune s client channels target) := by
  unfold ListCommand.handleServer
  refine closed.ite (closed.reply ..) (closed.trans (closed.ite
    (closed.foldl (fun t _ _ => closed.ite (closed.refl t) (closed.reply ..)) _)
    (closed.foldl (fun t name _ => ?_) _)) (closed.reply ..))
  split
  · exact closed.ite (closed.reply ..) (closed.reply ..)
  · exact closed.reply ..

theorem NamesCommand.handleServer_footprint {channels : List String} :
    R s (NamesCommand.handleServer lowerRune methods s client channels) := by
  unfold NamesCommand.handleServer
  refine closed.ite (closed.foldl (fun _ _ _ => closed.send ..) _)
    (closed.foldl (fun t name _ => ?_) _)
  split
  · exact closed.reply ..
  · exact closed.send ..

theorem DebugCommand.handleServer_footprint {subCommand : String} :
    R s (DebugCommand.handleServer world s client subCommand) := by
  unfold DebugCommand.handleServer Server.privMsg
  exact closed.ite (closed.refl s) (closed.ite (closed.reply ..) (closed.ite
    (closed.foldl (fun _ _ _ => closed.reply ..) _) (closed.ite (closed.reply ..)
      (closed.ite (closed.ite (closed.reply ..) (closed.refl s)) (closed.refl s)))))

theorem InviteCommand.handleServer_footprint {nickname name : String}
    (store : ∀ t table out, R t ({ t with channels := table }.send out)) :
    R s (InviteCommand.handleServer lowerRune methods s client nickname name) := by
  unfold InviteCommand.handleServer
  split
  · exact closed.reply ..
  · split
    · exact closed.trans (closed.reply ..) (closed.reply ..)
    · exact store ..

theorem KillCommand.handleServer_footprint {nickname comment : String}
    (quit : ∀ target message, R s (s.quit lowerRune methods target message)) :
    R s (KillCommand.handleServer lowerRune methods s client nickname comment) := by
  unfold KillCommand.handleServer
  refine closed.ite (closed.reply ..) ?_
  split
  · exact closed.reply ..
  · exact quit ..

theorem Server.tryRegister_footprint (register : ∀ t : Server, R t (t.register lowerRune client)) :
    R s (s.tryRegister lowerRune world client) := by
  unfold Server.tryRegister Server.motd
  refine closed.ite ?_ (closed.refl s)
  exact closed.trans (closed.trans (closed.trans (closed.trans (closed.trans (register s)
    (closed.reply ..)) (closed.reply ..)) (closed.reply ..)) (closed.reply ..)) (closed.send ..)

theorem NickCommand.handleRegServer_footprint {nickname : String}
    (named : R s (s.setNickname client nickname))
    (register : ∀ t : Server, R t (t.register lowerRune client)) :
    R s (NickCommand.handleRegServer lowerRune world s client nickname) := by
  unfold NickCommand.handleRegServer
  exact closed.ite (closed.reply ..) (closed.ite (closed.reply ..) (closed.ite (closed.reply ..)
    (closed.trans named (Server.tryRegister_footprint closed register))))

theorem UserCommand.handleRegServer2_footprint {username realname : String}
    (named : ∀ t : Server,
      R t (t.modify client fun c => { c with username := username, realname := realname }))
    (register : ∀ t : Server, R t (t.register lowerRune client)) :
    R s (UserCommand.handleRegServer2 lowerRune world s client username realname) :=
  closed.trans (named s) (Server.tryRegister_footprint closed register)

theorem RFC2812UserCommand.handleRegServer_footprint {username realname : String} {mode : Nat}
    (flagged : ∀ t : Server, ∀ flag ∈ userModeFlags mode,
      R t (t.modify client fun c => { c with flags := Function.update c.flags flag true }))
    (named : ∀ t : Server,
      R t (t.modify client fun c => { c with username := username, realname := realname }))
    (register : ∀ t : Server, R t (t.register lowerRune client)) :
    R s (RFC2812UserCommand.handleRegServer lowerRune world s client username realname mode) :=
  closed.trans (closed.ite (closed.trans (closed.foldl flagged s) (closed.reply ..)) (closed.refl s))
    (UserCommand.handleRegServer2_footprint closed named register)

theorem Command.touchClient_footprint {now : Nat} {cmd : Command}
    (touched : ∀ t x, R t (t.touch x now)) (activated : ∀ t x, R t (t.active x now)) :
    R s (cmd.touchClient now s) := by
  unfold Command.touchClient
  split
  · exact touched ..
  · exact touched ..
  · exact closed.refl s
  · exact closed.trans (activated ..) (touched ..)

end Footprints

section Handlers

variable (lowerRune : Char → Char) (methods : ChannelMethods) (s : Server) (client : ClientId)

/-- A user `MODE` writes only the flags it may: `Operator` and `LocalOperator` are never
raised. -/
theorem ModeCommand.handleServer_writes (nickname : String) (changes : List ModeChange) :
    s.Writes lowerRune methods client
      (ModeCommand.handleServer lowerRune s client nickname changes) :=
  ModeCommand.handleServer_footprint Server.Writes.closed fun target =>
    .modify s target ⟨rfl, rfl, rfl, rfl, applyModeChanges_not_raised _ changes (by decide),
      applyModeChanges_not_raised _ changes (by decide)⟩

end Handlers

/-! ## Registration and `OPER` -/

namespace Server

/-- `Register` and the replies after it: the client is now `normal` with a nickname and a
username, its operator flags are not raised, every other record is written tamely, and the
step ends by queuing the client the welcome burst and the MOTD. -/
structure Registers (world : World) (s s' : Server) (client : ClientId) : Prop where
  allocated : s'.allocated = s.allocated
  others : ∀ x, x ≠ client → (s.heap x).Tame (s'.heap x)
  normal : (s'.heap client).phase = .normal
  named : (s'.heap client).hasNick = true ∧ (s'.heap client).hasUsername = true
  privileges : (s.heap client).KeepsPrivileges (s'.heap client)
  welcomed : ∃ earlier, s'.outbox = earlier ++ ([(client, .rplWelcome), (client, .rplYourHost),
    (client, .rplCreated), (client, .rplMyInfo)] ++
    (motdReplies s.motdFile (world.readFile s.motdFile)).map (client, ·))

theorem Registers.of_tame {world : World} {s₁ s₂ s₃ : Server} {client : ClientId}
    (first : s₁.Tame s₂) (motdFile : s₂.motdFile = s₁.motdFile)
    (second : s₂.Registers world s₃ client) : s₁.Registers world s₃ client :=
  ⟨second.allocated.trans first.allocated,
    fun x other => (first.client x).trans (second.others x other), second.normal, second.named,
    (first.client client).privileges.trans second.privileges, motdFile ▸ second.welcomed⟩

/-- A successful `OPER`: the client's phase is kept or terminated, its `LocalOperator`
flag is not raised, and every other record is written tamely. -/
structure Opers (s s' : Server) (client : ClientId) : Prop where
  allocated : s'.allocated = s.allocated
  others : ∀ x, x ≠ client → (s.heap x).Tame (s'.heap x)
  phase : (s'.heap client).phase = (s.heap client).phase ∨ (s'.heap client).phase = .terminated
  localOperator :
    (s'.heap client).flags .localOperator = true → (s.heap client).flags .localOperator = true

theorem Opers.of_tame {s₁ s₂ s₃ : Server} {client : ClientId} (first : s₁.Tame s₂)
    (second : s₂.Opers s₃ client) : s₁.Opers s₃ client := by
  refine ⟨second.allocated.trans first.allocated,
    fun x other => (first.client x).trans (second.others x other), ?_,
    (first.client client).privileges.localOperator ∘ second.localOperator⟩
  rcases second.phase with same | terminated
  · exact same ▸ (first.client client).phase
  · exact .inr terminated

variable (lowerRune : Char → Char) (world : World)

theorem tryRegister_cases (s : Server) (client : ClientId) :
    s.Tame (s.tryRegister lowerRune world client) ∨
      s.Registers world (s.tryRegister lowerRune world client) client := by
  by_cases named : ((s.heap client).hasNick && (s.heap client).hasUsername) = true
  · rw [tryRegister_of_named lowerRune world s client named]
    rw [Bool.and_eq_true] at named
    refine .inr ⟨rfl, fun x other => ?_, by simp,
      by simpa [Client.hasNick, Client.hasUsername] using named,
      by rw [send_heap, register_heap, Function.update_same]; exact ⟨id, id⟩, ⟨_, rfl⟩⟩
    rw [send_heap, register_heap, Function.update_noteq other]
    exact .refl _
  · rw [tryRegister, if_neg named]
    exact .inl (.refl s)

end Server

section Registration

variable (lowerRune : Char → Char) (methods : ChannelMethods) (world : World) (s : Server)
  (client : ClientId)

theorem NickCommand.handleRegServer_cases (nickname : String) :
    s.Tame (NickCommand.handleRegServer lowerRune world s client nickname) ∨
      s.Registers world (NickCommand.handleRegServer lowerRune world s client nickname) client := by
  unfold NickCommand.handleRegServer
  split_ifs
  · exact .inl (.reply ..)
  · exact .inl (.reply ..)
  · exact .inl (.reply ..)
  · have named : s.Tame (s.setNickname client nickname) := .modify s client fun _ => .of_eq rfl rfl
    exact (Server.tryRegister_cases lowerRune world _ client).imp named.trans
      (Server.Registers.of_tame named rfl)

theorem UserCommand.handleRegServer2_cases (username realname : String) :
    s.Tame (UserCommand.handleRegServer2 lowerRune world s client username realname) ∨
      s.Registers world (UserCommand.handleRegServer2 lowerRune world s client username realname)
        client := by
  have named : s.Tame (s.modify client fun c => { c with username := username, realname := realname }) :=
    .modify s client fun _ => .of_eq rfl rfl
  exact (Server.tryRegister_cases lowerRune world _ client).imp named.trans
    (Server.Registers.of_tame named rfl)

theorem userModeFlags_mem {mode : Nat} {flag : UserMode} (listed : flag ∈ userModeFlags mode) :
    flag = .wallOps ∨ flag = .invisible := by
  unfold userModeFlags at listed
  split_ifs at listed <;> simp_all

theorem RFC2812UserCommand.handleRegServer_cases (username realname : String) (mode : Nat) :
    s.Tame (RFC2812UserCommand.handleRegServer lowerRune world s client username realname mode) ∨
      s.Registers world (RFC2812UserCommand.handleRegServer lowerRune world s client username realname
        mode) client := by
  unfold RFC2812UserCommand.handleRegServer
  have set : ∀ (s : Server), ∀ flag ∈ userModeFlags mode,
      s.Tame (s.modify client fun c => { c with flags := Function.update c.flags flag true }) := by
    intro s flag listed
    have other (privileged : UserMode) (named : privileged = .operator ∨ privileged = .localOperator) :
        privileged ≠ flag := by
      rcases userModeFlags_mem listed with rfl | rfl <;> rcases named with rfl | rfl <;> decide
    exact .modify s client fun c => ⟨.inl rfl,
      fun raised => by simpa only [Function.update_noteq (other _ (.inl rfl))] using raised,
      fun raised => by simpa only [Function.update_noteq (other _ (.inr rfl))] using raised⟩
  have flagged : s.Tame (if (userModeFlags mode).length > 0 then
      (List.foldl (fun s flag => s.modify client fun c =>
        { c with flags := Function.update c.flags flag true }) s (userModeFlags mode)).reply client
          (.rplUModeIs client)
      else s) := by
    split_ifs
    · exact (Server.Tame.foldl set s).trans (.reply ..)
    · exact .refl s
  have motdFile : (if (userModeFlags mode).length > 0 then
      (List.foldl (fun s flag => s.modify client fun c =>
        { c with flags := Function.update c.flags flag true }) s (userModeFlags mode)).reply client
          (.rplUModeIs client)
      else s).motdFile = s.motdFile := by
    split_ifs
    · show (List.foldl _ s (userModeFlags mode)).motdFile = s.motdFile
      refine Server.Closed.foldl (R := fun a b : Server => b.motdFile = a.motdFile)
        ⟨fun _ => rfl, fun first second => second.trans first, fun _ _ => rfl⟩ (fun _ _ _ => ?_) s
      rfl
    · rfl
  exact (UserCommand.handleRegServer2_cases lowerRune world _ client username realname).imp
    flagged.trans (Server.Registers.of_tame flagged motdFile)

theorem PassCommand.handleAuthServer_cases (err : Option String) :
    s.Tame (PassCommand.handleAuthServer lowerRune methods s client err) ∨
      err = none ∧ PassCommand.handleAuthServer lowerRune methods s client err =
        s.modify client fun c => { c with phase := .registration } := by
  cases err with
  | some _ => exact .inl ((Server.Tame.reply ..).trans (Server.quit_tame ..))
  | none => exact .inr ⟨rfl, rfl⟩

theorem OperCommand.handleServer_granted (hash : List UInt8) :
    OperCommand.handleServer s client (some hash) none =
      ((s.modify client fun c => { c with flags := Function.update c.flags .operator true }).reply
        client .rplYoureOper).reply client (.rplUModeIs client) := rfl

/-- A granted `OPER` raises `Operator` and writes no other flag or record. -/
theorem OperCommand.handleServer_opers (hash : List UInt8) :
    s.Opers (OperCommand.handleServer s client (some hash) none) client := by
  rw [OperCommand.handleServer_granted]
  refine ⟨by simp only [Server.reply_allocated, Server.modify_allocated], fun x other => ?_,
    .inl (by simp), ?_⟩
  · simpa [Function.update_noteq other] using Client.Tame.refl (s.heap x)
  · simp [Function.update_noteq (show UserMode.localOperator ≠ .operator by decide)]

end Registration

end Ergo.Irc
