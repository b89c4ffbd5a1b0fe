import ErgoIrc.Server.Index
import ErgoIrc.Server.Lifecycle

/-! `NAMES`. The handler tests the size of the server's channel table where the spec asks
for a test of the argument list: on a server without channels it sends nothing, whatever
the client asked for, and on a server with channels it walks the argument list, so a
`NAMES` without arguments sends nothing either. Where both tests pass it does what the spec
asks. -/
namespace Ergo.Irc

/-- The `NAMES` handler as the spec asks for it: without arguments, `Names` for each channel
the client is a member of; otherwise the listed names in order, `Names` for a channel that
exists and `ERR_NOSUCHCHANNEL` for one that does not. -/
def NamesCommand.specHandleServer (lowerRune : Char → Char) (methods : ChannelMethods)
    (s : Server) (client : ClientId) (channels : List String) : Server :=
  if channels = [] then
    (s.channelsOf client).foldl (fun s channel => s.send (methods.names s channel client)) s
  else
    channels.foldl (fun s name =>
      match s.getChannel lowerRune name with
      | none => s.reply client (.errNoSuchChannel name)
      | some channel => s.send (methods.names s channel client)) s

/-- What `NAMES` does, said once: nothing on a server without channels or without
arguments, and what the spec asks otherwise. -/
theorem NamesCommand.handleServer_eq (lowerRune : Char → Char) (methods : ChannelMethods)
    (s : Server) (client : ClientId) (channels : List String) :
    NamesCommand.handleServer lowerRune methods s client channels =
      if s.channels.len = 0 ∨ channels = [] then s
      else NamesCommand.specHandleServer lowerRune methods s client channels := by
  unfold NamesCommand.handleServer NamesCommand.specHandleServer
  by_cases empty : s.channels.len = 0
  · have none : s.channels.entries = [] := List.length_eq_zero.mp empty
    simp [empty, none]
  · by_cases listed : channels = []
    · simp [empty, listed]
    · rw [if_neg (not_or.mpr ⟨empty, listed⟩), if_neg listed]
      exact if_neg empty

/-- `alice` connects to a server without a password and without channels, and registers. -/
def aliceRegistered : Server :=
  (Server.new Char.toLower ⟨"irc.example.net", "", ""⟩ []).run Char.toLower
    (specChannels Char.toLower)
    [(quietWorld, .newConn "example.net"), (quietWorld, .command (.nick ⟨0⟩ "alice")),
      (quietWorld, .command (.userRFC1459 ⟨0⟩ "alice" "Alice"))]

/-- Then `alice` joins `#x`. -/
def aliceJoined : Server :=
  aliceRegistered.handleEvent Char.toLower (specChannels Char.toLower) quietWorld
    (.command (.join ⟨0⟩ false [("#x", "")]))

theorem aliceRegistered_reachable :
    aliceRegistered.Reachable Char.toLower (specChannels Char.toLower) :=
  Server.Reachable.run Char.toLower _ (.new _ _) _ ⟨trivial, by decide, by decide, trivial⟩

theorem aliceJoined_reachable : aliceJoined.Reachable Char.toLower (specChannels Char.toLower) :=
  .step _ _ aliceRegistered_reachable (by decide)

/-- Two requests on a reachable server that `NAMES` leaves unanswered and the spec answers:
with no channel on the server, `NAMES #x` gets no `ERR_NOSUCHCHANNEL`; once `alice` has joined
`#x`, a `NAMES` from that client without arguments gets no names. -/
theorem names_sends_nothing :
    aliceRegistered.Reachable Char.toLower (specChannels Char.toLower) ∧
      aliceRegistered.channels.len = 0 ∧
      NamesCommand.handleServer Char.toLower (specChannels Char.toLower) aliceRegistered ⟨0⟩
        ["#x"] = aliceRegistered ∧
      (NamesCommand.specHandleServer Char.toLower (specChannels Char.toLower) aliceRegistered
        ⟨0⟩ ["#x"]).outbox = aliceRegistered.outbox ++ [(⟨0⟩, .errNoSuchChannel "#x")] ∧
    aliceJoined.Reachable Char.toLower (specChannels Char.toLower) ∧
      (aliceJoined.channelsOf ⟨0⟩).map Channel.name = ["#x"] ∧
      NamesCommand.handleServer Char.toLower (specChannels Char.toLower) aliceJoined ⟨0⟩ [] =
        aliceJoined ∧
      (NamesCommand.specHandleServer Char.toLower (specChannels Char.toLower) aliceJoined ⟨0⟩
        []).outbox = aliceJoined.outbox ++
          [(⟨0⟩, .channel "353" ["#x", "alice"]), (⟨0⟩, .channel "366" ["#x"])] := by
  have empty : aliceRegistered.channels.len = 0 := by decide
  refine ⟨aliceRegistered_reachable, empty, ?_, rfl, aliceJoined_reachable, by decide, ?_, rfl⟩
  · rw [NamesCommand.handleServer_eq, if_pos (.inl empty)]
  · rw [NamesCommand.handleServer_eq, if_pos (.inr rfl)]

end Ergo.Irc
