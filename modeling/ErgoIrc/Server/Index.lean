import ErgoIrc.Server.Moves

/-! The nickname index over whole runs of the loop. `Register` and `ChangeNickname` call the
lookup set's `Add`, `Quit` and `ChangeNickname` call its `Remove`, and between the calls
the handlers write client records. In every state the loop reaches from `NewServer`, the
index is a state the lookup set reaches by its own calls (`ClientLookupSet.Reachable`), so
the set's representation invariant holds of it, and every indexed client is one the loop
has created and is past registration (`Server.Reachable.indexed`). The one assumption is
that a command comes from a connection the loop has accepted. Under the invariant, `NICK`
moves the client's entry, and `PRIVMSG` reaches and an operator's `KILL` terminates exactly
the client holding the nickname. -/
namespace Ergo.Irc

/-- A write that keeps what the nickname index reads of a record, its nickname and its
user host, and does not take a registered client back before `Normal`. -/
structure Client.KeepsEntry (c c' : Client) : Prop where
  nick : c'.nick = c.nick
  userHost : c'.userHost = c.userHost
  registered : Phase.normal.rank ≤ c.phase.rank → Phase.normal.rank ≤ c'.phase.rank

theorem Client.KeepsEntry.refl (c : Client) : c.KeepsEntry c := ⟨rfl, rfl, id⟩

theorem Client.Quiet.keepsEntry {c c' : Client} (quiet : c.Quiet c') : c.KeepsEntry c' :=
  ⟨quiet.nick, by simp only [Client.userHost, Client.Nick, Client.hasNick, quiet.nick,
    quiet.username, quiet.hostname], fun registered => quiet.phase ▸ registered⟩

namespace Server

/-- The nickname index of a server state: a state of the lookup set reachable by its own
calls, whose entries are clients the loop has created and that are past registration. -/
structure Indexed (lowerRune : Char → Char) (s : Server) : Prop where
  reachable : ClientLookupSet.Reachable lowerRune s.heap s.clients
  allocated : ∀ key x, s.clients.byNick.get key = some x → x.addr < s.allocated
  registered : ∀ key x, s.clients.byNick.get key = some x →
    Phase.normal.rank ≤ (s.heap x).phase.rank

variable {lowerRune : Char → Char}

theorem Indexed.ite {a b : Server} {c : Prop} [Decidable c] (yes : a.Indexed lowerRune)
    (no : b.Indexed lowerRune) : (if c then a else b).Indexed lowerRune := by
  split <;> assumption

namespace Indexed

variable {s : Server} (indexed : s.Indexed lowerRune)
include indexed

/-- A client before `Normal` is in no entry. -/
theorem unindexed {x : ClientId} (early : (s.heap x).phase.rank < Phase.normal.rank)
    (key : String) : s.clients.byNick.get key ≠ some x :=
  fun found => absurd (indexed.registered key x found) (Nat.not_le.mpr early)

/-- A step that keeps the index and the entry of every indexed client. -/
theorem of_keeps {s' : Server} (allocated : s.allocated ≤ s'.allocated)
    (clients : s'.clients = s.clients)
    (keeps : ∀ key x, s.clients.byNick.get key = some x → (s.heap x).KeepsEntry (s'.heap x)) :
    s'.Indexed lowerRune := by
  refine ⟨?_, fun key x found => ?_, fun key x found => ?_⟩
  · rw [clients]
    exact indexed.reachable.retarget fun key x found =>
      ⟨(keeps key x found).nick, (keeps key x found).userHost⟩
  · rw [clients] at found
    exact (indexed.allocated key x found).trans_le allocated
  · rw [clients] at found
    exact (keeps key x found).registered (indexed.registered key x found)

theorem same {s' : Server} (heap : s'.heap = s.heap) (allocated : s'.allocated = s.allocated)
    (clients : s'.clients = s.clients) : s'.Indexed lowerRune :=
  indexed.of_keeps allocated.ge clients fun _ x _ => heap ▸ .refl (s.heap x)

theorem reply (client : ClientId) (r : Reply) : (s.reply client r).Indexed lowerRune :=
  indexed.same rfl rfl rfl

/-- A write of one record, which keeps its entry if it is indexed. -/
theorem update {s' : Server} {x : ClientId} {c : Client}
    (heap : s'.heap = Function.update s.heap x c) (allocated : s.allocated ≤ s'.allocated)
    (clients : s'.clients = s.clients)
    (kept : ∀ key, s.clients.byNick.get key = some x → (s.heap x).KeepsEntry c) :
    s'.Indexed lowerRune := by
  refine indexed.of_keeps allocated clients fun key y found => ?_
  rw [heap]
  by_cases same : y = x
  · subst same
    rw [Function.update_same]
    exact kept key found
  · rw [Function.update_noteq same]
    exact .refl _

/-- A write of a client no entry holds. -/
theorem modify_unindexed {x : ClientId} (unindexed : ∀ key, s.clients.byNick.get key ≠ some x)
    (f : Client → Client) : (s.modify x f).Indexed lowerRune :=
  indexed.update rfl le_rfl rfl fun key found => absurd found (unindexed key)

theorem remove (x : ClientId) :
    ({ s with clients := (s.clients.remove lowerRune s.heap x).2 } : Server).Indexed lowerRune :=
  ⟨.remove x indexed.reachable,
    fun key y found => indexed.allocated key y (ClientLookupSet.remove_get_some found),
    fun key y found => indexed.registered key y (ClientLookupSet.remove_get_some found)⟩

theorem add {x : ClientId} (allocated : x.addr < s.allocated)
    (registered : Phase.normal.rank ≤ (s.heap x).phase.rank) :
    ({ s with clients := (s.clients.add lowerRune s.heap x).2 } : Server).Indexed lowerRune := by
  refine ⟨.add x indexed.reachable, fun key y found => ?_, fun key y found => ?_⟩
  all_goals rcases ClientLookupSet.add_get_some found with found | rfl
  · exact indexed.allocated key y found
  · exact allocated
  · exact indexed.registered key y found
  · exact registered

/-- `Quit`: the client leaves the index, whatever `Remove` returns. -/
theorem quit (methods : ChannelMethods) (x : ClientId) (message : String) :
    (s.quit lowerRune methods x message).Indexed lowerRune :=
  (indexed.remove x).update (quit_heap lowerRune methods s x message)
    (quit_allocated lowerRune methods s x message).ge (quit_clients lowerRune methods s x message)
    fun key found => absurd found (indexed.reachable.invariant.remove_unindexed key)

/-- `Register` writes the phase first and then calls `Add`, which reads only the nickname
and the user host. -/
theorem register {x : ClientId} (allocated : x.addr < s.allocated) :
    (s.register lowerRune x).Indexed lowerRune := by
  have normal : (s.modify x fun c => { c with phase := .normal }).Indexed lowerRune :=
    indexed.update rfl le_rfl rfl fun _ _ => ⟨rfl, rfl, fun _ => le_rfl⟩
  refine (normal.add allocated (by simp)).same rfl rfl ?_
  exact congrArg Prod.snd (ClientLookupSet.add_congr (by simp)
    (by simp [Client.userHost, Client.Nick, Client.hasNick])).symm

theorem tryRegister (world : World) {x : ClientId} (allocated : x.addr < s.allocated) :
    (s.tryRegister lowerRune world x).Indexed lowerRune := by
  unfold Server.tryRegister
  exact .ite ((indexed.register allocated).same rfl rfl rfl) indexed

/-- `ChangeNickname` of a registered client: `Remove`, the write of the nickname to a
record no entry holds any more, and `Add`. -/
theorem changeNickname {x : ClientId} (allocated : x.addr < s.allocated)
    (registered : Phase.normal.rank ≤ (s.heap x).phase.rank) (nick : String) :
    (s.changeNickname lowerRune x nick).Indexed lowerRune := by
  have renamed : Indexed lowerRune
      { s with
        clients := (s.clients.remove lowerRune s.heap x).2
        heap := Function.update s.heap x { s.heap x with nick := nick } } :=
    (indexed.remove x).update rfl le_rfl rfl
      fun key found => absurd found (indexed.reachable.invariant.remove_unindexed key)
  exact (renamed.add allocated (by simpa using registered)).same (changeNickname_heap ..)
    (changeNickname_allocated ..) (changeNickname_clients ..)

/-- A new connection gets an address no entry holds. -/
theorem newClient (hostname : String) (now : Nat) :
    (s.newClient hostname now).Indexed lowerRune :=
  indexed.update rfl (Nat.le_succ _) rfl
    fun key found => absurd (indexed.allocated key _ found) (Nat.lt_irrefl _)

end Indexed

theorem new_indexed (config : Config) (rows : List ChannelRecord) :
    (Server.new lowerRune config rows).Indexed lowerRune := by
  have clients : (Server.new lowerRune config rows).clients = newClientLookupSet :=
    List.foldlRecOn (motive := fun s : Server => s.clients = newClientLookupSet) rows _ _ rfl
      fun s same row _ => by
        dsimp only
        split <;> exact same
  refine ⟨clients ▸ .new _, fun key x found => ?_, fun key x found => ?_⟩ <;>
    simp [clients, newClientLookupSet] at found

/-! ## The handlers -/

/-- What a handler of a registered client's command needs and keeps: the index, and its own
client created by the loop and past registration. -/
structure Ready (lowerRune : Char → Char) (s : Server) (actor : ClientId) : Prop where
  indexed : s.Indexed lowerRune
  allocated : actor.addr < s.allocated
  registered : Phase.normal.rank ≤ (s.heap actor).phase.rank

variable {methods : ChannelMethods} {actor : ClientId}

theorem Write.ready {s s' : Server} (write : s.Write lowerRune methods actor s')
    (ready : s.Ready lowerRune actor) : s'.Ready lowerRune actor := by
  have tame := write.tame
  refine ⟨?_, tame.allocated ▸ ready.allocated,
    ready.registered.trans (tame.client actor).rank_le⟩
  cases write with
  | same heap allocated clients => exact ready.indexed.same heap allocated clients
  | modify client quiet => exact ready.indexed.update rfl le_rfl rfl fun _ _ => quiet.keepsEntry
  | quit client message => exact ready.indexed.quit methods client message
  | changeNickname nick => exact ready.indexed.changeNickname ready.allocated ready.registered nick

theorem Writes.ready {s s' : Server} (writes : s.Writes lowerRune methods actor s')
    (ready : s.Ready lowerRune actor) : s'.Ready lowerRune actor := by
  induction writes with
  | refl => exact ready
  | tail _ write ready => exact write.ready ready

end Server

section Handlers

variable {lowerRune : Char → Char} (world : World) {s : Server} (indexed : s.Indexed lowerRune)
  {client : ClientId} (unindexed : ∀ key, s.clients.byNick.get key ≠ some client)
  (allocated : client.addr < s.allocated)
include indexed

theorem OperCommand.handleServer_indexed (hash : List UInt8) :
    (OperCommand.handleServer s client (some hash) none).Indexed lowerRune := by
  have opered : (s.modify client fun c =>
      { c with flags := Function.update c.flags .operator true }).Indexed lowerRune :=
    indexed.update rfl le_rfl rfl fun _ _ => ⟨rfl, rfl, id⟩
  rw [OperCommand.handleServer_granted]
  exact (opered.reply ..).reply ..

include unindexed allocated

theorem NickCommand.handleRegServer_indexed (nickname : String) :
    (NickCommand.handleRegServer lowerRune world s client nickname).Indexed lowerRune := by
  unfold NickCommand.handleRegServer
  exact .ite (indexed.reply ..) (.ite (indexed.reply ..) (.ite (indexed.reply ..)
    ((indexed.modify_unindexed unindexed _).tryRegister world allocated)))

theorem UserCommand.handleRegServer2_indexed (username realname : String) :
    (UserCommand.handleRegServer2 lowerRune world s client username realname).Indexed
      lowerRune :=
  (indexed.modify_unindexed unindexed _).tryRegister world allocated

omit indexed unindexed allocated in
theorem RFC2812UserCommand.handleRegServer_indexed (indexed : s.Indexed lowerRune)
    (unindexed : ∀ key, s.clients.byNick.get key ≠ some client)
    (allocated : client.addr < s.allocated) (username realname : String) (mode : Nat) :
    (RFC2812UserCommand.handleRegServer lowerRune world s client username realname mode).Indexed
      lowerRune := by
  unfold RFC2812UserCommand.handleRegServer
  simp only [Server.foldl_modify]
  split
  · exact UserCommand.handleRegServer2_indexed world
      ((indexed.modify_unindexed unindexed _).reply ..) unindexed allocated ..
  · exact UserCommand.handleRegServer2_indexed world indexed unindexed allocated ..

end Handlers

namespace Command

variable (lowerRune : Char → Char) (methods : ChannelMethods) (world : World)

theorem handleAuthServer_indexed {cmd : Command} {s s' : Server}
    (handled : cmd.handleAuthServer lowerRune methods s = some s')
    (indexed : s.Indexed lowerRune) (early : (s.heap cmd.client).phase.rank < Phase.normal.rank) :
    s'.Indexed lowerRune := by
  have unindexed := indexed.unindexed early
  cases cmd <;> cases handled
  case proxy => exact indexed.modify_unindexed unindexed _
  case cap => exact indexed
  case pass client err =>
    unfold PassCommand.handleAuthServer
    split
    · exact (indexed.reply ..).quit ..
    · exact indexed.modify_unindexed unindexed _
  case quit => exact indexed.quit ..

theorem handleRegServer_indexed {cmd : Command} {s s' : Server}
    (handled : cmd.handleRegServer lowerRune methods world s = some s')
    (indexed : s.Indexed lowerRune) (early : (s.heap cmd.client).phase.rank < Phase.normal.rank)
    (allocated : cmd.client.addr < s.allocated) : s'.Indexed lowerRune := by
  have unindexed := indexed.unindexed early
  cases cmd <;> cases handled
  case proxy => exact indexed.modify_unindexed unindexed _
  case cap => exact indexed
  case nick => exact NickCommand.handleRegServer_indexed world indexed unindexed allocated ..
  case userRFC1459 =>
    exact UserCommand.handleRegServer2_indexed world indexed unindexed allocated ..
  case userRFC2812 =>
    exact RFC2812UserCommand.handleRegServer_indexed world indexed unindexed allocated ..
  case quit => exact indexed.quit ..

end Command

/-! ## The loop -/

/-- A command comes from a connection the loop has accepted. -/
def Event.Accepted (s : Server) : Event → Prop
  | .command cmd => cmd.client.addr < s.allocated
  | _ => True

instance (s : Server) : (event : Event) → Decidable (event.Accepted s)
  | .command cmd => inferInstanceAs (Decidable (cmd.client.addr < s.allocated))
  | .signal | .newConn _ | .idle _ | .timeout _ => isTrue trivial

namespace Server

variable (lowerRune : Char → Char) (methods : ChannelMethods) (world : World)

theorem processCommand_indexed (s : Server) (cmd : Command) (indexed : s.Indexed lowerRune)
    (allocated : cmd.client.addr < s.allocated) :
    (s.processCommand lowerRune methods world cmd).Indexed lowerRune := by
  unfold processCommand
  cases phase : (s.heap cmd.client).phase <;> simp only [phase]
  case authorization =>
    split
    next => exact indexed.quit ..
    next handled =>
      exact Command.handleAuthServer_indexed lowerRune methods handled indexed
        (by simp [phase, Phase.rank])
  case registration =>
    split
    next => exact indexed.quit ..
    next handled =>
      exact Command.handleRegServer_indexed lowerRune methods world handled indexed
        (by simp [phase, Phase.rank]) allocated
  all_goals
    split
    next => exact indexed.reply ..
    next handled =>
      have ready := (Command.touchClient_writes lowerRune methods world.now s cmd).ready
        ⟨indexed, allocated, by simp [phase, Phase.rank]⟩
      rcases Command.handleServer_cases lowerRune methods world handled with
        writes | ⟨client, hash, rfl, rfl⟩
      · exact (writes.ready ready).indexed
      · exact OperCommand.handleServer_indexed ready.indexed ..

theorem handleEvent_indexed (s : Server) (event : Event) (indexed : s.Indexed lowerRune)
    (accepted : event.Accepted s) :
    (s.handleEvent lowerRune methods world event).Indexed lowerRune := by
  cases event with
  | signal =>
    exact indexed.same (by simp [handleEvent, shutdown]) (by simp [handleEvent, shutdown])
      (by simp [handleEvent, shutdown])
  | newConn hostname => exact indexed.newClient hostname world.now
  | command cmd => exact processCommand_indexed lowerRune methods world s cmd indexed accepted
  | idle client => exact indexed.reply ..
  | timeout client => exact indexed.quit ..

/-- The states of the loop: `NewServer`, then events one after another, each command coming
from a connection the loop has accepted. -/
inductive Reachable (lowerRune : Char → Char) (methods : ChannelMethods) : Server → Prop
  | new (config : Config) (rows : List ChannelRecord) :
      Reachable lowerRune methods (Server.new lowerRune config rows)
  | step {s : Server} (world : World) (event : Event) (reachable : Reachable lowerRune methods s)
      (accepted : event.Accepted s) :
      Reachable lowerRune methods (s.handleEvent lowerRune methods world event)

/-- The nickname index in every state the loop reaches from `NewServer`. -/
theorem Reachable.indexed {s : Server} (reachable : s.Reachable lowerRune methods) :
    s.Indexed lowerRune := by
  induction reachable with
  | new config rows => exact new_indexed config rows
  | step world event _ accepted indexed =>
    exact handleEvent_indexed lowerRune methods world _ event indexed accepted

/-- Every command of a run comes from a connection accepted by the time it arrives. -/
def RunAccepted (s : Server) : List (World × Event) → Prop
  | [] => True
  | (world, event) :: rest =>
    event.Accepted s ∧ (s.handleEvent lowerRune methods world event).RunAccepted rest

/-- `Server.Run` from a reachable state ends in a reachable state. -/
theorem Reachable.run {s : Server} (reachable : s.Reachable lowerRune methods)
    (events : List (World × Event)) (accepted : s.RunAccepted lowerRune methods events) :
    (s.run lowerRune methods events).Reachable lowerRune methods := by
  induction events generalizing s with
  | nil => exact reachable
  | cons first rest ih =>
    obtain ⟨world, event⟩ := first
    obtain ⟨now, later⟩ := accepted
    cases event with
    | signal => exact .step world .signal reachable now
    | _ => exact ih (.step world _ reachable now) later

end Server

/-! ## What the handlers read off the index -/

/-- `NICK` from a client the index holds, to a valid nickname other than its own: when
another client holds the nickname up to case, the index is left alone; otherwise the client's
entry moves to the new nickname and every other entry stays. -/
theorem NickCommand.handleServer_index {lowerRune : Char → Char} {s : Server}
    (inv : ClientLookupSet.Invariant lowerRune s.heap s.clients) {key₀ : String}
    {client : ClientId} (held : s.clients.byNick.get key₀ = some client) {nickname : String}
    (valid : isNickname nickname = true) (changed : nickname ≠ (s.heap client).nick) :
    ((∃ other, s.clients.get lowerRune nickname = some other ∧ other ≠ client) →
      (NickCommand.handleServer lowerRune s client nickname).clients = s.clients) ∧
    ((∀ other, s.clients.get lowerRune nickname = some other → other = client) →
      ∀ key other,
        (NickCommand.handleServer lowerRune s client nickname).clients.byNick.get key = some other ↔
          other = client ∧ key = toLower lowerRune nickname ∨
            other ≠ client ∧ s.clients.byNick.get key = some other) := by
  have named : nickname ≠ "" := by
    rintro rfl
    exact absurd valid (by decide)
  unfold NickCommand.handleServer
  rw [if_neg named, if_neg (by simp [valid]), if_neg changed]
  refine ⟨fun ⟨other, found, different⟩ => by simp [found, different], fun free key other => ?_⟩
  have moved : (s.changeNickname lowerRune client nickname).clients.byNick.get key = some other ↔
      other = client ∧ key = toLower lowerRune nickname ∨
        other ≠ client ∧ s.clients.byNick.get key = some other := by
    rw [Server.changeNickname_clients]
    exact inv.move held (by simpa [Client.hasNick] using named) free key other
  split
  next target found => rwa [if_neg (not_not.mpr (free target found))]
  next => exact moved

/-- A `PRIVMSG` to a nickname, under the index invariant: the handler only queues replies;
the message is queued for exactly the indexed client whose nickname equals the target up to
case, and the sender gets `ERR_NOSUCHNICK` exactly when there is none. -/
theorem PrivMsgCommand.handleServer_delivers {lowerRune : Char → Char} (methods : ChannelMethods)
    {s : Server} (inv : ClientLookupSet.Invariant lowerRune s.heap s.clients) (client : ClientId)
    {target : String} (direct : isChannel target = false) (message : String) :
    ∃ queued, PrivMsgCommand.handleServer lowerRune methods s client target message =
        s.send queued ∧
      (∀ r, (r, .privMsg (.client client) r message) ∈ queued ↔
        (∃ key, s.clients.byNick.get key = some r) ∧
          toLower lowerRune (s.heap r).nick = toLower lowerRune target) ∧
      ((client, .errNoSuchNick target) ∈ queued ↔ s.clients.get lowerRune target = none) := by
  unfold PrivMsgCommand.handleServer
  rw [if_neg (by simp [direct])]
  simp only [← inv.get_eq_some_iff]
  cases found : s.clients.get lowerRune target with
  | none => exact ⟨[(client, .errNoSuchNick target)], rfl, by simp, by simp⟩
  | some recipient =>
    refine ⟨(recipient, .privMsg (.client client) recipient message) ::
      if (s.heap recipient).flags .away then [(client, .rplAway recipient)] else [], ?_,
      fun r => ?_, ?_⟩
    · by_cases away : (s.heap recipient).flags .away <;>
        simp [Server.reply, Server.send, away]
    · split <;> simp [eq_comm]
    · split <;> simp

/-- `KILL` from an operator, under the index invariant, of a nickname an indexed client holds
up to case: that client is terminated and leaves the index, and no other record changes. -/
theorem KillCommand.handleServer_kills {lowerRune : Char → Char} (methods : ChannelMethods)
    {s : Server} (inv : ClientLookupSet.Invariant lowerRune s.heap s.clients) {client : ClientId}
    (operator : (s.heap client).flags .operator = true) {nickname : String} (comment : String)
    {target : ClientId} (holder : (∃ key, s.clients.byNick.get key = some target) ∧
      toLower lowerRune (s.heap target).nick = toLower lowerRune nickname) :
    ((KillCommand.handleServer lowerRune methods s client nickname comment).heap target).phase =
        .terminated ∧
      (∀ key, (KillCommand.handleServer lowerRune methods s client nickname comment).clients.byNick.get
        key ≠ some target) ∧
      ∀ y, y ≠ target →
        (KillCommand.handleServer lowerRune methods s client nickname comment).heap y = s.heap y := by
  have found := (inv.get_eq_some_iff nickname target).mpr holder
  unfold KillCommand.handleServer
  rw [if_neg (by simp [operator]), found]
  refine ⟨by simp, fun key => ?_, fun y other => by simp [Function.update_noteq other]⟩
  rw [Server.quit_clients]
  exact inv.remove_unindexed key

end Ergo.Irc
