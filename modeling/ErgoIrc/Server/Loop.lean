import Mathlib.Algebra.Group.Int
import ErgoIrc.Server.Handlers

/-! The event loop: `processCommand`, which routes a command by the client's phase to
the handlers of that phase, and `Server.Run`, which takes one event at a time from its
`select`. The loop is the only writer of the server state, so a run is a sequence of
events, each handled to completion before the next. `NewServer` fills the channel table
from the rows of the persistent store (`loadChannels`). -/
namespace Ergo.Irc

namespace Command

variable (lowerRune : Char → Char) (methods : ChannelMethods) (world : World)

/-- `cmd.(AuthServerCommand)` and its `HandleAuthServer`; `none` when the command type
has no such method. -/
def handleAuthServer (s : Server) : Command → Option Server
  | proxy client hostname => some (ProxyCommand.handleAuthServer s client hostname)
  | cap _ => some s
  | pass client err => some (PassCommand.handleAuthServer lowerRune methods s client err)
  | quit client message => some (s.quit lowerRune methods client message)
  | _ => none

/-- `cmd.(RegServerCommand)` and its `HandleRegServer`. -/
def handleRegServer (s : Server) : Command → Option Server
  | proxy client hostname => some (ProxyCommand.handleAuthServer s client hostname)
  | cap _ => some s
  | nick client nickname => some (NickCommand.handleRegServer lowerRune world s client nickname)
  | userRFC1459 client username realname =>
    some (UserCommand.handleRegServer2 lowerRune world s client username realname)
  | userRFC2812 client username realname bits =>
    some (RFC2812UserCommand.handleRegServer lowerRune world s client username realname bits)
  | quit client message => some (s.quit lowerRune methods client message)
  | _ => none

/-- `cmd.(ServerCommand)` and its `HandleServer`. -/
def handleServer (s : Server) : Command → Option Server
  | proxy .. | cap .. => none
  | pass client _ => some (s.reply client .errAlreadyRegistered)
  | nick client nickname => some (NickCommand.handleServer lowerRune s client nickname)
  | userRFC1459 client .. | userRFC2812 client .. => some (s.reply client .errAlreadyRegistered)
  | quit client message => some (s.quit lowerRune methods client message)
  | ping client => some (s.reply client (.rplPong client))
  | pong _ => some s
  | join client zero channels =>
    some (JoinCommand.handleServer lowerRune methods s client zero channels)
  | part client channels message =>
    some (PartCommand.handleServer lowerRune methods s client channels message)
  | topic client channel setTopic text =>
    some (TopicCommand.handleServer lowerRune methods s client channel setTopic text)
  | privMsg client target message =>
    some (PrivMsgCommand.handleServer lowerRune methods s client target message)
  | mode client nickname changes =>
    some (ModeCommand.handleServer lowerRune s client nickname changes)
  | whois client masks => some (WhoisCommand.handleServer lowerRune s client masks)
  | channelMode client channel changes =>
    some (ChannelModeCommand.handleServer lowerRune methods s client channel changes)
  | who client mask => some (WhoCommand.handleServer lowerRune s client mask)
  | oper client hash err => some (OperCommand.handleServer s client hash err)
  | away client gone text => some (AwayCommand.handleServer s client gone text)
  | isOn client nicks => some (IsOnCommand.handleServer lowerRune s client nicks)
  | motd client => some (s.motd world client)
  | notice client target message =>
    some (NoticeCommand.handleServer lowerRune methods s client target message)
  | kick client kicks comment =>
    some (KickCommand.handleServer lowerRune methods s client kicks comment)
  | list client channels target => some (ListCommand.handleServer lowerRune s client channels target)
  | names client channels => some (NamesCommand.handleServer lowerRune methods s client channels)
  | debug client subCommand => some (DebugCommand.handleServer world s client subCommand)
  | version client target => some (VersionCommand.handleServer s client target)
  | invite client nickname channel =>
    some (InviteCommand.handleServer lowerRune methods s client nickname channel)
  | time client target => some (TimeCommand.handleServer s client target)
  | kill client nickname comment =>
    some (KillCommand.handleServer lowerRune methods s client nickname comment)
  | whoWas client nicknames => some (WhoWasCommand.handleServer s client nicknames)

/-- The type switch before `HandleServer`: `PING` and `PONG` touch the client, `QUIT`
does nothing, and any other command makes the client active and touches it. -/
def touchClient (now : Nat) (s : Server) : Command → Server
  | ping client | pong client => s.touch client now
  | quit .. => s
  | cmd => (s.active cmd.client now).touch cmd.client now

end Command

namespace Server

variable (lowerRune : Char → Char) (methods : ChannelMethods) (world : World)

/-- `Server.processCommand`: the client's phase picks the handler set. A command the
phase does not accept quits the client in the first two phases and is answered with
`ERR_UNKNOWNCOMMAND` in the last. -/
def processCommand (s : Server) (cmd : Command) : Server :=
  let client := cmd.client
  match (s.heap client).phase with
  | .authorization =>
    match cmd.handleAuthServer lowerRune methods s with
    | none => s.quit lowerRune methods client "unexpected command"
    | some s => s
  | .registration =>
    match cmd.handleRegServer lowerRune methods world s with
    | none => s.quit lowerRune methods client "unexpected command"
    | some s => s
  | _ =>
    match cmd.handleServer lowerRune methods world (cmd.touchClient world.now s) with
    | none => s.reply client (.errUnknownCommand cmd.code)
    | some s => s

/-- `Server.Shutdown`: a notice to every client in the nickname index. -/
def shutdown (s : Server) : Server :=
  (s.clients.byNick.entries.map Prod.snd).foldl
    (fun s client => s.reply client (.notice .server client "shutting down")) s

/-- Modelled from the spec: `NewClient`, a client at the next address in the server's
`InitPhase`. -/
def newClient (s : Server) (hostname : String) (now : Nat) : Server :=
  { s with
    heap := Function.update s.heap ⟨s.allocated⟩ (Client.new hostname s.initPhase now)
    allocated := s.allocated + 1 }

end Server

/-- What the `select` of `Server.Run` receives. -/
inductive Event where
  | signal
  | newConn (hostname : String)
  | command (cmd : Command)
  | idle (client : ClientId)
  | timeout (client : ClientId)

namespace Server

variable (lowerRune : Char → Char) (methods : ChannelMethods) (world : World)

/-- One pass of the loop of `Server.Run`. -/
def handleEvent (s : Server) : Event → Server
  | .signal => s.shutdown
  | .newConn hostname => s.newClient hostname world.now
  | .command cmd => s.processCommand lowerRune methods world cmd
  | .idle client => s.idle client
  | .timeout client => s.quit lowerRune methods client "connection timeout"

/-- `Server.Run`: events are handled in order until a signal, which shuts the server
down and ends the loop. -/
def run (s : Server) : List (World × Event) → Server
  | [] => s
  | (world, event) :: rest =>
    match event with
    | .signal => s.shutdown
    | _ => (s.handleEvent lowerRune methods world event).run rest

end Server

/-- The fields of the configuration `NewServer` reads. -/
structure Config where
  name : String
  motd : String
  password : String

/-- A row of the persistent `channel` table. -/
structure ChannelRecord where
  name : String
  flags : String
  key : String
  topic : String
  userLimit : Int

/-- A row whose `user_limit` scans into a `uint64`: SQLite keeps an integer of 2^63 or more
as a real, and `Scan` reads a real into a `uint64` through its text, which is in exponent
form and fails. -/
def ChannelRecord.Scans (row : ChannelRecord) : Prop :=
  (0 : Int) ≤ row.userLimit ∧ row.userLimit < (2 ^ 63 : Int)

instance (row : ChannelRecord) : Decidable row.Scans := inferInstanceAs (Decidable (_ ∧ _))

/-- The channel `loadChannels` makes of a row that scans. -/
def ChannelRecord.channel (row : ChannelRecord) : Channel where
  name := row.name
  flags := row.flags.data.foldl (fun flags flag => Function.update flags flag true) fun _ => false
  key := row.key
  topic := row.topic
  userLimit := row.userLimit.toNat.toUInt64
  members := .empty

namespace Server

variable (lowerRune : Char → Char)

/-- `loadChannels`: a channel for every row. Scanning `user_limit` into a `uint64` fails
for a negative value and for one SQLite keeps as a real; such a row is logged and skipped. -/
def loadChannels (s : Server) (rows : List ChannelRecord) : Server :=
  rows.foldl (fun s row =>
    if (0 : Int) ≤ row.userLimit ∧ row.userLimit < (2 ^ 63 : Int) then
      let (channel, s) := s.newChannel lowerRune row.name
      let channel := { channel with
        flags := row.flags.data.foldl (fun flags flag => Function.update flags flag true) channel.flags
        key := row.key
        topic := row.topic
        userLimit := row.userLimit.toNat.toUInt64 }
      { s with channels := s.channels.set (toLower lowerRune row.name) channel }
    else s) s

/-- `NewServer`, given the rows of the channel store. A configured password makes new
clients start in the authorization phase. -/
def new (config : Config) (rows : List ChannelRecord) : Server :=
  let s : Server := {
    channels := .empty
    clients := newClientLookupSet
    name := config.name
    motdFile := config.motd
    password := if config.password ≠ "" then some config.password.toUTF8.toList else none
    heap := fun _ => Client.new "" .registration 0
    allocated := 0
    outbox := [] }
  s.loadChannels lowerRune rows

/-! ## Loading the channel store -/

theorem loadChannels_single (s : Server) (row : ChannelRecord) (key : String) :
    (s.loadChannels lowerRune [row]).channels.get key =
      if row.Scans ∧ toLower lowerRune row.name = key then some row.channel
      else s.channels.get key := by
  unfold loadChannels
  by_cases scans : row.Scans
  · have fits : (0 : Int) ≤ row.userLimit ∧ row.userLimit < (2 ^ 63 : Int) := scans
    rw [List.foldl_cons, List.foldl_nil, if_pos fits]
    by_cases named : toLower lowerRune row.name = key
    · rw [if_pos ⟨scans, named⟩]
      simp [newChannel, named, ChannelRecord.channel]
    · rw [if_neg fun kept => named kept.2]
      simp [newChannel, Ne.symm named]
  · have fits : ¬((0 : Int) ≤ row.userLimit ∧ row.userLimit < (2 ^ 63 : Int)) := scans
    rw [List.foldl_cons, List.foldl_nil, if_neg fits, if_neg fun kept => scans kept.1]

/-- After `loadChannels`, the channel under a key is the one made of the last row whose
lowercased name is the key and whose `user_limit` scans: a row that does not scan is
skipped, and of two rows whose names differ only in case the later one wins. -/
theorem loadChannels_get (s : Server) (rows : List ChannelRecord) (key : String) :
    (s.loadChannels lowerRune rows).channels.get key =
      match (rows.filter fun row => row.Scans ∧ toLower lowerRune row.name = key).getLast? with
      | some row => some row.channel
      | none => s.channels.get key := by
  induction rows generalizing s with
  | nil => rfl
  | cons row rest ih =>
    have first : s.loadChannels lowerRune (row :: rest) =
        (s.loadChannels lowerRune [row]).loadChannels lowerRune rest := rfl
    rw [first, ih, loadChannels_single, List.filter_cons]
    by_cases kept : row.Scans ∧ toLower lowerRune row.name = key
    · simp only [kept, decide_True, if_true, and_self, List.getLast?_cons]
      cases (rest.filter fun row => row.Scans ∧ toLower lowerRune row.name = key).getLast? <;> rfl
    · simp only [kept, decide_False, if_false, Bool.false_eq_true]

/-- `NewServer`: the channel under a name is the one made of the last row of the store whose
lowercased name is the name's and whose `user_limit` scans, and there is none when no row
is. -/
theorem new_getChannel (config : Config) (rows : List ChannelRecord) (name : String) :
    (Server.new lowerRune config rows).getChannel lowerRune name =
      (rows.filter fun row => row.Scans ∧ toLower lowerRune row.name = toLower lowerRune name
        ).getLast?.map ChannelRecord.channel := by
  unfold Server.new getChannel
  rw [loadChannels_get]
  cases (rows.filter _).getLast? <;> rfl

example :
    let rows : List ChannelRecord :=
      [⟨"#A", "", "", "first", 0⟩, ⟨"#a", "", "", "second", 0⟩, ⟨"#b", "", "", "lost", -1⟩,
        ⟨"#c", "", "", "real", 2 ^ 63⟩]
    ((Server.new Char.toLower ⟨"irc.example.net", "", ""⟩ rows).getChannel Char.toLower
        "#a").map (·.topic) = some "second" ∧
      ((Server.new Char.toLower ⟨"irc.example.net", "", ""⟩ rows).getChannel Char.toLower
        "#b").isNone ∧
      ((Server.new Char.toLower ⟨"irc.example.net", "", ""⟩ rows).getChannel Char.toLower
        "#c").isNone := by
  decide

end Server

end Ergo.Irc
