import ErgoIrc.Server.State

/-! Modelled from the spec: the operations of `Channel` (`channel.go`), which are not part of
the source here, after section 4.3 of the spec. Each returns what the loop sees of it: the
channel table after it and the lines it queues. The persistent flag of registered channels
and invite lists are not modelled, so a channel stays in the table when its last member
leaves, and an invitation is only a reply. -/
namespace Ergo.Irc

/-- Modelled from the spec: the channel flags the operations test, with the letters of
RFC 2811. -/
def ChannelMode.noOutside : ChannelMode := 'n'
def ChannelMode.moderated : ChannelMode := 'm'
def ChannelMode.opTopic : ChannelMode := 't'

namespace Channel

/-- The member's own channel mode, `false` for a client that is not a member. -/
def memberHas (channel : Channel) (client : ClientId) (mode : ChannelMode) : Bool :=
  match channel.members.get client with
  | some modes => modes mode
  | none => false

def isMember (channel : Channel) (client : ClientId) : Bool := (channel.members.get client).isSome

/-- A line to every member. -/
def broadcast (channel : Channel) (line : Reply) : Outbox :=
  channel.members.entries.map fun member => (member.1, line)

/-- `RPL_NAMREPLY` and `RPL_ENDOFNAMES` to one client. -/
def namesReply (s : Server) (channel : Channel) (client : ClientId) : Outbox :=
  [(client, .channel "353" (channel.name :: channel.members.entries.map fun m => (s.heap m.1).Nick)),
    (client, .channel "366" [channel.name])]

/-- A message to every member but the sender, under `NoOutside` and `Moderated`. -/
def fanOut (s : Server) (channel : Channel) (client : ClientId) (command text : String) : Outbox :=
  if channel.flags .noOutside && !channel.isMember client ||
      channel.flags .moderated && !(channel.memberHas client .voice || channel.memberHas client .channelOperator) then
    [(client, .channel "404" [channel.name])]
  else
    (channel.members.entries.filter (·.1 ≠ client)).map fun member =>
      (member.1, .channel command [(s.heap client).Nick, channel.name, text])

end Channel

/-- Modelled from the spec: `Channel`'s methods, storing a channel back under its lowercased
name. -/
def specChannels (lowerRune : Char → Char) : ChannelMethods where
  join s channel client key :=
    if channel.key ≠ "" ∧ key ≠ channel.key then (s.channels, [(client, .channel "475" [channel.name])])
    else if channel.userLimit ≠ 0 ∧ channel.userLimit.toNat ≤ channel.members.len then
      (s.channels, [(client, .channel "471" [channel.name])])
    else
      let modes : ChannelMode → Bool := fun mode => channel.members.len = 0 ∧ mode = .channelOperator
      let joined := { channel with members := channel.members.set client modes }
      (s.channels.set (toLower lowerRune channel.name) joined,
        joined.broadcast (.channel "JOIN" [(s.heap client).Nick, channel.name]) ++
          joined.namesReply s client)
  part s channel client message :=
    if !channel.isMember client then (s.channels, [(client, .channel "442" [channel.name])])
    else
      (s.channels.set (toLower lowerRune channel.name)
          { channel with members := channel.members.delete client },
        channel.broadcast (.channel "PART" [(s.heap client).Nick, channel.name, message]))
  setTopic s channel client topic :=
    if channel.flags .opTopic && !channel.memberHas client .channelOperator then
      (s.channels, [(client, .channel "482" [channel.name])])
    else
      (s.channels.set (toLower lowerRune channel.name) { channel with topic := topic },
        channel.broadcast (.channel "TOPIC" [(s.heap client).Nick, channel.name, topic]))
  getTopic _ channel client :=
    if channel.topic = "" then [(client, .channel "331" [channel.name])]
    else [(client, .channel "332" [channel.name, channel.topic])]
  privMsg s channel client text := channel.fanOut s client "PRIVMSG" text
  notice s channel client text := channel.fanOut s client "NOTICE" text
  kick s channel client target comment :=
    if !channel.memberHas client .channelOperator then
      (s.channels, [(client, .channel "482" [channel.name])])
    else if !channel.isMember target then (s.channels, [(client, .channel "441" [channel.name])])
    else
      (s.channels.set (toLower lowerRune channel.name)
          { channel with members := channel.members.delete target },
        channel.broadcast (.channel "KICK" [(s.heap client).Nick, channel.name, (s.heap target).Nick, comment]))
  invite s channel target inviter :=
    if !channel.isMember inviter then (s.channels, [(inviter, .channel "442" [channel.name])])
    else
      (s.channels, [(inviter, .rplInviting target channel.name),
        (target, .inviteMsg inviter target channel.name)])
  mode s channel client changes :=
    if !channel.memberHas client .channelOperator then
      (s.channels, [(client, .channel "482" [channel.name])])
    else
      let flags := changes.foldl (fun flags change =>
        Function.update flags change.mode (change.op = .add)) channel.flags
      (s.channels.set (toLower lowerRune channel.name) { channel with flags := flags },
        channel.broadcast (.channel "MODE" [(s.heap client).Nick, channel.name]))
  names s channel client := channel.namesReply s client
  quit s channel client :=
    (s.channels.set (toLower lowerRune channel.name)
      { channel with members := channel.members.delete client }, [])

end Ergo.Irc
