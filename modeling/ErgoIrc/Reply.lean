import ErgoIrc.UserModes

/-! The replies the server queues on a client's socket. `reply.go`, which formats them, is
not part of the source here: a reply is recorded by the helper that builds it and the
arguments it is given, not by its text. -/
namespace Ergo.Irc

/-- The `Identifier` a message comes from: the server itself or a client. -/
inductive Source where
  | server
  | client (id : ClientId)
  deriving DecidableEq, Repr

inductive Reply where
  | rplWelcome
  | rplYourHost
  | rplCreated
  | rplMyInfo
  | errNoMOTD
  | rplMOTDStart
  | rplMOTD (line : List UInt8)
  | rplMOTDEnd
  | errUnknownCommand (code : String)
  | errPasswdMismatch
  | errNoNicknameGiven
  | errNickNameInUse (nick : String)
  | errErroneusNickname (nick : String)
  | errAlreadyRegistered
  | errNoSuchChannel (channel : String)
  | errNoSuchNick (nick : String)
  | errUsersDontMatch
  | errNoSuchServer (target : String)
  | errNoPrivileges
  | errWasNoSuchNick (nick : String)
  | rplUModeIs (client : ClientId)
  | rplPong (client : ClientId)
  | privMsg (source : Source) (target : ClientId) (message : String)
  | notice (source : Source) (target : ClientId) (message : String)
  | rplAway (target : ClientId)
  | mode (client target : ClientId) (changes : List ModeChange)
  | rplWhois (client : ClientId)
  | rplWhoReply (channel : Option String) (member : ClientId)
  | rplEndOfWho (mask : String)
  | rplYoureOper
  | rplNowAway
  | rplUnAway
  | rplIsOn (nicks : List String)
  | rplList (channel : String)
  | rplListEnd
  | rplVersion
  | rplTime
  | rplInviting (target : ClientId) (channel : String)
  | inviteMsg (inviter target : ClientId) (channel : String)
  | rplEndOfWhoWas (nick : String)
  /-- Modelled from the spec: the `PING` an idle client is sent. -/
  | ping
  /-- Modelled from the spec: the `QUIT` a client's friends are sent. -/
  | quit (client : ClientId) (message : String)
  /-- Modelled from the spec: the `NICK` broadcast of a nickname change. -/
  | nick (client : ClientId) (nickname : String)
  /-- A line built by `channel.go`, which is not part of the source here. -/
  | channel (command : String) (params : List String)

/-- Replies in the order the loop queued them, each with the client it goes to. -/
abbrev Outbox := List (ClientId × Reply)

end Ergo.Irc
