import ErgoIrc.Server.Lifecycle

/-! Visibility in `WHO`. The test in `whoChannel` reads the requester's `Invisible` flag and
the requester's own membership of its friend set, never the member's: when the requester
is visible, every member of the channel is reported, invisible strangers included. -/
namespace Ergo.Irc

/-- What `whoChannel` queues: one `RPL_WHOREPLY` per member when the requester is not
invisible or is among the friends passed in, and nothing otherwise. -/
theorem whoChannel_outbox (s : Server) (client : ClientId) (channel : Channel)
    (friends : List ClientId) :
    (whoChannel s client channel friends).heap = s.heap ∧
    (whoChannel s client channel friends).outbox = s.outbox ++
      if !(s.heap client).flags .invisible || friends.contains client then
        channel.members.entries.map fun member =>
          (client, .rplWhoReply (some channel.name) member.1)
      else [] := by
  unfold whoChannel
  induction channel.members.entries generalizing s with
  | nil => simp
  | cons member rest ih =>
    by_cases visible : (!(s.heap client).flags .invisible || friends.contains client) = true
    · obtain ⟨heap, outbox⟩ := ih (s.reply client (.rplWhoReply (some channel.name) member.1))
      simp only [Server.reply_heap, visible, if_true] at heap outbox
      simp only [List.foldl_cons, visible, if_true, heap, outbox, List.map_cons, true_and]
      simp [Server.reply]
    · simpa only [List.foldl_cons, visible, if_false] using ih s

/-- What `WHO` queues for a channel name: the members of the channel if the visibility test
of `whoChannel` passes, then `RPL_ENDOFWHO`. -/
theorem WhoCommand.handleServer_channel (lowerRune : Char → Char) (s : Server) (client : ClientId)
    {mask : String} (named : mask ≠ "") (channelName : isChannel mask = true) :
    (WhoCommand.handleServer lowerRune s client mask).outbox = s.outbox ++
      ((s.getChannel lowerRune mask).map fun channel =>
        if !(s.heap client).flags .invisible || (s.friends client).contains client then
          channel.members.entries.map fun member =>
            (client, .rplWhoReply (some channel.name) member.1)
        else []).getD [] ++ [(client, .rplEndOfWho mask)] := by
  unfold WhoCommand.handleServer
  dsimp only
  rw [if_neg named, if_pos channelName]
  cases s.getChannel lowerRune mask with
  | none => simp [Server.reply]
  | some channel => simp [Server.reply, (whoChannel_outbox s client channel _).2]

/-- `bob` registers, makes himself invisible and joins `#x`; then `alice` registers. -/
def whoState : Server :=
  (Server.new Char.toLower ⟨"irc.example.net", "", ""⟩ []).run Char.toLower
    (specChannels Char.toLower)
    [(quietWorld, .newConn "example.net"), (quietWorld, .command (.nick ⟨0⟩ "bob")),
      (quietWorld, .command (.userRFC1459 ⟨0⟩ "bob" "Bob")),
      (quietWorld, .command (.mode ⟨0⟩ "bob" [⟨.invisible, .add⟩])),
      (quietWorld, .command (.join ⟨0⟩ false [("#x", "")])),
      (quietWorld, .newConn "example.org"), (quietWorld, .command (.nick ⟨1⟩ "alice")),
      (quietWorld, .command (.userRFC1459 ⟨1⟩ "alice" "Alice"))]

/-- `alice`'s `WHO #x` reports `bob`, who is invisible, is not `alice`, and shares no
channel with `alice`. -/
theorem who_reports_invisible_stranger :
    (whoState.heap ⟨0⟩).flags .invisible = true ∧ whoState.friends ⟨1⟩ = [] ∧
      (WhoCommand.handleServer Char.toLower whoState ⟨1⟩ "#x").outbox = whoState.outbox ++
        [(⟨1⟩, .rplWhoReply (some "#x") ⟨0⟩), (⟨1⟩, .rplEndOfWho "#x")] := by
  refine ⟨by decide, by decide, ?_⟩
  have found : (whoState.getChannel Char.toLower "#x").map (fun channel =>
      (channel.name, channel.members.entries.map Prod.fst)) = some ("#x", [⟨0⟩]) := by decide
  have visible : (!(whoState.heap ⟨1⟩).flags .invisible ||
      (whoState.friends ⟨1⟩).contains ⟨1⟩) = true := by decide
  rw [WhoCommand.handleServer_channel _ _ _ (by decide) (by decide)]
  cases stored : whoState.getChannel Char.toLower "#x" with
  | none => simp [stored] at found
  | some channel =>
    simp only [stored, Option.map_some', Option.some.injEq, Prod.mk.injEq] at found
    obtain ⟨name, members⟩ := found
    have listed : channel.members.entries.map (fun member =>
        ((⟨1⟩ : ClientId), Reply.rplWhoReply (some channel.name) member.1)) =
        [(⟨1⟩, .rplWhoReply (some "#x") ⟨0⟩)] := by
      have composed := congrArg (List.map fun member =>
        ((⟨1⟩ : ClientId), Reply.rplWhoReply (some channel.name) member)) members
      rw [List.map_map, name] at composed
      rw [name]
      exact composed
    simp only [Option.map_some', visible, if_true, Option.getD_some, listed, List.append_assoc,
      List.singleton_append]

end Ergo.Irc
