import ErgoIrc.Server.Members

/-! Clients that have not registered are isolated. Before `Register`, the handlers of a
client's commands write only that client's record, add only that client to the nickname
index, and queue lines only for that client. `Quit` of such a client, which is in no channel
and in no index entry, only terminates it. So in every state of a live run, nothing a
connection sends before it registers reaches or changes another client, a channel or
another client's index entry (`Server.Confined`). -/
namespace Ergo.Irc

namespace Server

/-- A write confined to one client: the other client records, the channel table and the
index entries of the other clients are as they were, and every line queued goes to that
client. -/
structure Confined (client : ClientId) (s s' : Server) : Prop where
  heap : ∀ x, x ≠ client → s'.heap x = s.heap x
  channels : s'.channels = s.channels
  entries : ∀ key x, x ≠ client →
    (s'.clients.byNick.get key = some x ↔ s.clients.byNick.get key = some x)
  outbox : ∃ out, s'.outbox = s.outbox ++ out ∧ ∀ line ∈ out, line.1 = client

variable {lowerRune : Char → Char} {client : ClientId}

namespace Confined

theorem refl (s : Server) : s.Confined client s :=
  ⟨fun _ _ => rfl, rfl, fun _ _ _ => .rfl, [], (List.append_nil _).symm, fun _ member => absurd member (List.not_mem_nil _)⟩

theorem trans {s₁ s₂ s₃ : Server} (first : s₁.Confined client s₂)
    (second : s₂.Confined client s₃) : s₁.Confined client s₃ := by
  obtain ⟨out₁, outbox₁, to₁⟩ := first.outbox
  obtain ⟨out₂, outbox₂, to₂⟩ := second.outbox
  refine ⟨fun x other => (second.heap x other).trans (first.heap x other),
    second.channels.trans first.channels,
    fun key x other => (second.entries key x other).trans (first.entries key x other),
    out₁ ++ out₂, by rw [outbox₂, outbox₁, List.append_assoc], fun line member => ?_⟩
  rcases List.mem_append.mp member with member | member
  · exact to₁ line member
  · exact to₂ line member

theorem send (s : Server) {out : Outbox} (addressed : ∀ line ∈ out, line.1 = client) :
    s.Confined client (s.send out) :=
  ⟨fun _ _ => rfl, rfl, fun _ _ _ => .rfl, out, rfl, addressed⟩

theorem reply (s : Server) (r : Reply) : s.Confined client (s.reply client r) :=
  send s fun line member => by rw [List.mem_singleton.mp member]

theorem modify (s : Server) (f : Client → Client) : s.Confined client (s.modify client f) :=
  ⟨fun x other => by rw [modify_heap, Function.update_noteq other], rfl, fun _ _ _ => .rfl, [],
    (List.append_nil _).symm, fun _ member => absurd member (List.not_mem_nil _)⟩

theorem ite {s a b : Server} {c : Prop} [Decidable c] (yes : s.Confined client a)
    (no : s.Confined client b) : s.Confined client (if c then a else b) := by
  split <;> assumption

theorem foldl {α : Type} {f : Server → α → Server} {xs : List α}
    (step : ∀ (s : Server), ∀ a ∈ xs, s.Confined client (f s a)) (s : Server) :
    s.Confined client (xs.foldl f s) :=
  List.foldlRecOn (motive := s.Confined client) xs f s (refl s)
    fun s' confined a mem => confined.trans (step s' a mem)

/-- `Register` adds no entry but the client's own. -/
theorem register (s : Server) : s.Confined client (s.register lowerRune client) := by
  refine ⟨fun x other => by rw [register_heap, Function.update_noteq other], rfl,
    fun key x other => ?_, [], (List.append_nil _).symm, fun _ member => absurd member (List.not_mem_nil _)⟩
  show (s.clients.add lowerRune s.heap client).2.byNick.get key = some x ↔ _
  cases result : (s.clients.add lowerRune s.heap client).1 with
  | some error => rw [ClientLookupSet.add_error result]
  | none =>
    obtain ⟨-, free, added⟩ := ClientLookupSet.add_ok result
    rw [added, GoMap.get_set]
    split
    · next same =>
      rw [ClientLookupSet.get, ← same] at free
      rw [free, Option.some_inj]
      exact ⟨fun found => absurd found.symm other, Option.noConfusion⟩
    · exact .rfl

theorem tryRegister (world : World) (s : Server) :
    s.Confined client (s.tryRegister lowerRune world client) := by
  unfold Server.tryRegister Server.motd
  refine .ite ((((((register s).trans (reply ..)).trans (reply ..)).trans (reply ..)).trans
    (reply ..)).trans (send _ fun line member => ?_)) (refl s)
  obtain ⟨r, -, rfl⟩ := List.mem_map.mp member
  rfl

/-- `Quit` of a client that is in no channel and in no index entry only terminates it. -/
theorem quit (methods : ChannelMethods) (s : Server) (message : String)
    (alone : s.channelsOf client = []) (unindexed : ∀ key, s.clients.byNick.get key ≠ some client) :
    s.Confined client (s.quit lowerRune methods client message) := by
  have kept : (s.clients.remove lowerRune s.heap client).2 = s.clients := by
    unfold ClientLookupSet.remove
    split_ifs with named mismatch
    · rfl
    · rfl
    · exact absurd (not_not.mp mismatch) (unindexed _)
  unfold Server.quit
  simp only [friends, alone, List.foldl_nil, List.erase_nil, kept]
  exact modify _ _

end Confined

end Server

namespace Command

variable {lowerRune : Char → Char} {methods : ChannelMethods} {world : World} {cmd : Command}
  {s s' : Server}

/-- A handler of the authorization phase, for a client in no channel and in no entry. -/
theorem handleAuthServer_confined (handled : cmd.handleAuthServer lowerRune methods s = some s')
    (alone : s.channelsOf cmd.client = [])
    (unindexed : ∀ key, s.clients.byNick.get key ≠ some cmd.client) :
    s.Confined cmd.client s' := by
  rcases handleAuthServer_inv _ _ handled with ⟨hostname, rfl⟩ | rfl | ⟨err, rfl⟩ | ⟨message, rfl⟩
  · exact .modify ..
  · exact .refl _
  · cases err <;> simp only [PassCommand.handleAuthServer]
    · exact .modify ..
    · exact (Server.Confined.reply ..).trans (.quit _ _ _ alone unindexed)
  · exact .quit _ _ _ alone unindexed

/-- A handler of the registration phase, for a client in no channel and in no entry. -/
theorem handleRegServer_confined
    (handled : cmd.handleRegServer lowerRune methods world s = some s')
    (alone : s.channelsOf cmd.client = [])
    (unindexed : ∀ key, s.clients.byNick.get key ≠ some cmd.client) :
    s.Confined cmd.client s' := by
  rcases handleRegServer_inv _ _ _ handled with ⟨hostname, rfl⟩ | rfl | ⟨nickname, rfl⟩ |
    ⟨username, realname, rfl⟩ | ⟨username, realname, mode, rfl⟩ | ⟨message, rfl⟩
  · exact .modify ..
  · exact .refl _
  · unfold NickCommand.handleRegServer
    exact .ite (.reply ..) (.ite (.reply ..) (.ite (.reply ..) ((Server.Confined.modify ..).trans
      (.tryRegister ..))))
  · exact (Server.Confined.modify ..).trans (.tryRegister ..)
  · exact .trans (.ite ((Server.Confined.foldl (fun s _ _ => .modify ..) s).trans (.reply ..))
      (.refl s)) ((Server.Confined.modify ..).trans (.tryRegister ..))
  · exact .quit _ _ _ alone unindexed

end Command

theorem Event.Live.accepted {s : Server} {event : Event} (alive : event.Live s) : event.Accepted s := by
  cases event
  case command => exact alive.1
  all_goals trivial

namespace Server

variable {lowerRune : Char → Char} (methods : ChannelMethods) (world : World)

/-- A command of a client before `Normal`, in no channel and in no entry. -/
theorem processCommand_confined (s : Server) (cmd : Command)
    (early : (s.heap cmd.client).phase.rank < Phase.normal.rank)
    (alone : s.channelsOf cmd.client = [])
    (unindexed : ∀ key, s.clients.byNick.get key ≠ some cmd.client) :
    s.Confined cmd.client (s.processCommand lowerRune methods world cmd) := by
  unfold processCommand
  cases phase : (s.heap cmd.client).phase <;> simp only [phase, Phase.rank] at early ⊢
  case authorization =>
    split
    next => exact .quit _ _ _ alone unindexed
    next handled => exact Command.handleAuthServer_confined handled alone unindexed
  case registration =>
    split
    next => exact .quit _ _ _ alone unindexed
    next handled => exact Command.handleRegServer_confined handled alone unindexed
  all_goals omega

variable {methods} in
/-- A client before `Normal` is in no channel of a live table. -/
theorem ChannelsLive.channelsOf_early {s : Server} (live : s.ChannelsLive lowerRune) {x : ClientId}
    (early : (s.heap x).phase.rank < Phase.normal.rank) : s.channelsOf x = [] := by
  refine List.filter_eq_nil_iff.mpr fun channel listed member => ?_
  obtain ⟨⟨key, channel'⟩, stored, rfl⟩ := List.mem_map.mp listed
  have normal := (live.seats key _ ((GoMap.get_eq_some_iff ..).mpr stored) x member).2
  rw [normal] at early
  exact Nat.lt_irrefl _ early

variable (lowerRune)

theorem RunLive.accepted {s : Server} {events : List (World × Event)}
    (alive : s.RunLive lowerRune methods events) : s.RunAccepted lowerRune methods events := by
  induction events generalizing s with
  | nil => trivial
  | cons first rest ih => exact ⟨alive.1.accepted, ih alive.2⟩

/-- In every state of a run from `NewServer` in which no command of a terminated client is
handled, a command of a client that has not registered is confined to that client: no other
client record, no channel and no index entry of another client changes, and every line it
queues goes to that client. -/
theorem run_confines_unregistered (config : Config) (rows : List ChannelRecord)
    (events : List (World × Event))
    (alive : (Server.new lowerRune config rows).RunLive lowerRune (specChannels lowerRune) events)
    (cmd : Command)
    (early : (((Server.new lowerRune config rows).run lowerRune (specChannels lowerRune) events
      ).heap cmd.client).phase.rank < Phase.normal.rank) :
    ((Server.new lowerRune config rows).run lowerRune (specChannels lowerRune) events).Confined
      cmd.client (((Server.new lowerRune config rows).run lowerRune (specChannels lowerRune) events
        ).processCommand lowerRune (specChannels lowerRune) world cmd) := by
  have live := run_channelsLive lowerRune _ events (new_channelsLive lowerRune config rows) alive
  have indexed := Reachable.indexed lowerRune _ (Reachable.run lowerRune _ (.new config rows) events
    (RunLive.accepted lowerRune _ alive))
  exact processCommand_confined _ world _ cmd early (live.channelsOf_early early)
    (indexed.unindexed early)

/-- `alice` and `bob` register and `alice` takes operator rights; then `carol` connects and
sends `USER`. -/
def carolArrives : List (World × Event) :=
  [(quietWorld, .newConn "example.net"), (quietWorld, .newConn "example.org"),
    (quietWorld, .command (.nick ⟨0⟩ "alice")),
    (quietWorld, .command (.userRFC1459 ⟨0⟩ "alice" "Alice")),
    (quietWorld, .command (.nick ⟨1⟩ "bob")), (quietWorld, .command (.userRFC1459 ⟨1⟩ "bob" "Bob")),
    (quietWorld, .command (.oper ⟨0⟩ (some [1]) none)), (quietWorld, .newConn "example.com"),
    (quietWorld, .command (.userRFC1459 ⟨2⟩ "carol" "Carol"))]

/-- `carol`'s `NICK ALICE` is refused, and only `carol` hears of it. -/
theorem carolArrives_confined :
    (Server.new Char.toLower ⟨"irc.example.net", "", ""⟩ []).RunLive Char.toLower
        (specChannels Char.toLower) carolArrives ∧
      (((Server.new Char.toLower ⟨"irc.example.net", "", ""⟩ []).run Char.toLower
        (specChannels Char.toLower) carolArrives).heap ⟨2⟩).phase.rank < Phase.normal.rank ∧
      ((Server.new Char.toLower ⟨"irc.example.net", "", ""⟩ []).run Char.toLower
        (specChannels Char.toLower) carolArrives).Confined ⟨2⟩
        (((Server.new Char.toLower ⟨"irc.example.net", "", ""⟩ []).run Char.toLower
          (specChannels Char.toLower) carolArrives).processCommand Char.toLower
          (specChannels Char.toLower) quietWorld (.nick ⟨2⟩ "ALICE")) :=
  have alive : (Server.new Char.toLower ⟨"irc.example.net", "", ""⟩ []).RunLive Char.toLower
      (specChannels Char.toLower) carolArrives :=
    ⟨trivial, trivial, by decide, by decide, by decide, by decide, by decide, trivial, by decide,
      trivial⟩
  ⟨alive, by decide, run_confines_unregistered Char.toLower quietWorld _ _ _ alive
    (.nick ⟨2⟩ "ALICE") (by decide)⟩

end Server

end Ergo.Irc
