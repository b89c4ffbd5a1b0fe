import ErgoIrc.Server.Command

/-! The command handlers of `server.go`, in the source's order: those of the
authorization phase, those of the registration phase, and those of registered clients.
Each takes the server and the command's fields and returns the server after it; what a
handler sends is queued on the server's outbox. -/
namespace Ergo.Irc

namespace Server

variable (lowerRune : Char → Char) (methods : ChannelMethods) (world : World)

/-- `Server.MOTD`, sent to one client. -/
def motd (s : Server) (client : ClientId) : Server :=
  s.send ((motdReplies s.motdFile (world.readFile s.motdFile)).map (client, ·))

/-- `Server.tryRegister`. -/
def tryRegister (s : Server) (client : ClientId) : Server :=
  if (s.heap client).hasNick && (s.heap client).hasUsername then
    let s := s.register lowerRune client
    let s := s.reply client .rplWelcome
    let s := s.reply client .rplYourHost
    let s := s.reply client .rplCreated
    let s := s.reply client .rplMyInfo
    s.motd world client
  else s

/-- `tryRegister` of a client with both names registers it, then queues the welcome burst
and the MOTD. -/
theorem tryRegister_of_named (s : Server) (client : ClientId)
    (named : ((s.heap client).hasNick && (s.heap client).hasUsername) = true) :
    s.tryRegister lowerRune world client =
      (s.register lowerRune client).send ([(client, .rplWelcome), (client, .rplYourHost),
        (client, .rplCreated), (client, .rplMyInfo)] ++
        (motdReplies s.motdFile (world.readFile s.motdFile)).map (client, ·)) := by
  simp only [tryRegister, if_pos named, motd, reply, send, List.append_assoc, List.cons_append,
    List.singleton_append, List.nil_append]
  rfl

/-- `server.Reply(client, text)`: a `PRIVMSG` from the server. -/
def privMsg (s : Server) (client : ClientId) (text : String) : Server :=
  s.reply client (.privMsg .server client text)

end Server

/-! ## Authorization -/

def ProxyCommand.handleAuthServer (s : Server) (client : ClientId) (hostname : String) :
    Server :=
  s.modify client fun c => { c with hostname := hostname }

def PassCommand.handleAuthServer (lowerRune : Char → Char) (methods : ChannelMethods)
    (s : Server) (client : ClientId) (err : Option String) : Server :=
  match err with
  | some _ => (s.reply client .errPasswdMismatch).quit lowerRune methods client "bad password"
  | none => s.modify client fun c => { c with phase := .registration }

/-! ## Registration -/

def NickCommand.handleRegServer (lowerRune : Char → Char) (world : World) (s : Server)
    (client : ClientId) (nickname : String) : Server :=
  if nickname = "" then s.reply client .errNoNicknameGiven
  else if (s.clients.get lowerRune nickname).isSome then
    s.reply client (.errNickNameInUse nickname)
  else if !isNickname nickname then s.reply client (.errErroneusNickname nickname)
  else (s.setNickname client nickname).tryRegister lowerRune world client

def UserCommand.handleRegServer2 (lowerRune : Char → Char) (world : World) (s : Server)
    (client : ClientId) (username realname : String) : Server :=
  (s.modify client fun c => { c with username := username, realname := realname }).tryRegister
    lowerRune world client

def RFC2812UserCommand.handleRegServer (lowerRune : Char → Char) (world : World) (s : Server)
    (client : ClientId) (username realname : String) (mode : Nat) : Server :=
  let flags := userModeFlags mode
  let s := if flags.length > 0 then
      let s := flags.foldl (fun s flag =>
        s.modify client fun c => { c with flags := Function.update c.flags flag true }) s
      s.reply client (.rplUModeIs client)
    else s
  UserCommand.handleRegServer2 lowerRune world s client username realname

/-! ## Registered clients -/

def NickCommand.handleServer (lowerRune : Char → Char) (s : Server) (client : ClientId)
    (nickname : String) : Server :=
  if nickname = "" then s.reply client .errNoNicknameGiven
  else if !isNickname nickname then s.reply client (.errErroneusNickname nickname)
  else if nickname = (s.heap client).nick then s
  else
    match s.clients.get lowerRune nickname with
    | some target =>
      if target ≠ client then s.reply client (.errNickNameInUse nickname)
      else s.changeNickname lowerRune client nickname
    | none => s.changeNickname lowerRune client nickname

def JoinCommand.handleServer (lowerRune : Char → Char) (methods : ChannelMethods) (s : Server)
    (client : ClientId) (zero : Bool) (channels : List (String × String)) : Server :=
  if zero then
    (s.channelsOf client).foldl (fun s channel =>
      let (table, out) := methods.part s channel client (s.heap client).Nick
      { s with channels := table }.send out) s
  else
    channels.foldl (fun s (name, key) =>
      if !isChannel name then s.reply client (.errNoSuchChannel name)
      else
        let (channel, s) := match s.getChannel lowerRune name with
          | some channel => (channel, s)
          | none => s.newChannel lowerRune name
        let (table, out) := methods.join s channel client key
        { s with channels := table }.send out) s

def PartCommand.handleServer (lowerRune : Char → Char) (methods : ChannelMethods) (s : Server)
    (client : ClientId) (channels : List String) (message : String) : Server :=
  channels.foldl (fun s name =>
    match s.getChannel lowerRune name with
    | none => s.reply client (.errNoSuchChannel name)
    | some channel =>
      let (table, out) := methods.part s channel client message
      { s with channels := table }.send out) s

def TopicCommand.handleServer (lowerRune : Char → Char) (methods : ChannelMethods) (s : Server)
    (client : ClientId) (name : String) (setTopic : Bool) (topic : String) : Server :=
  match s.getChannel lowerRune name with
  | none => s.reply client (.errNoSuchChannel name)
  | some channel =>
    if setTopic then
      let (table, out) := methods.setTopic s channel client topic
      { s with channels := table }.send out
    else s.send (methods.getTopic s channel client)

def PrivMsgCommand.handleServer (lowerRune : Char → Char) (methods : ChannelMethods)
    (s : Server) (client : ClientId) (target message : String) : Server :=
  if isChannel target then
    match s.getChannel lowerRune target with
    | none => s.reply client (.errNoSuchChannel target)
    | some channel => s.send (methods.privMsg s channel client message)
  else
    match s.clients.get lowerRune target with
    | none => s.reply client (.errNoSuchNick target)
    | some recipient =>
      let s := s.reply recipient (.privMsg (.client client) recipient message)
      if (s.heap recipient).flags .away then s.reply client (.rplAway recipient) else s

/-- `ModeCommand.HandleServer`: a user MODE on the client found under `nickname`. -/
def ModeCommand.handleServer (lowerRune : Char → Char) (s : Server) (client : ClientId)
    (nickname : String) (changes : List ModeChange) : Server :=
  match s.clients.get lowerRune nickname with
  | none => s.reply client (.errNoSuchNick nickname)
  | some target =>
    if client ≠ target && !(s.heap client).flags .operator then
      s.reply client .errUsersDontMatch
    else
      let (flags, applied) := applyModeChanges (s.heap target).flags changes
      let s := s.modify target fun c => { c with flags := flags }
      if applied.length > 0 then s.reply client (.mode client target applied) else s

/-- `Client.WhoisChannelsNames`. -/
def Server.whoisChannelsNames (s : Server) (client : ClientId) : List String :=
  (s.channelsOf client).map fun channel =>
    match channel.members.get client with
    | some modes =>
      if modes .channelOperator then "@" ++ channel.name
      else if modes .voice then "+" ++ channel.name
      else channel.name
    | none => channel.name

def WhoisCommand.handleServer (lowerRune : Char → Char) (s : Server) (client : ClientId)
    (masks : List String) : Server :=
  masks.foldl (fun s mask =>
    match s.clients.findAll lowerRune mask with
    | [] => s.reply client (.errNoSuchNick mask)
    | clients => clients.foldl (fun s found => s.reply client (.rplWhois found)) s) s

def ChannelModeCommand.handleServer (lowerRune : Char → Char) (methods : ChannelMethods)
    (s : Server) (client : ClientId) (name : String) (changes : List ChannelModeChange) :
    Server :=
  match s.getChannel lowerRune name with
  | none => s.reply client (.errNoSuchChannel name)
  | some channel =>
    let (table, out) := methods.mode s channel client changes
    { s with channels := table }.send out

/-- `whoChannel`: a `RPL_WHOREPLY` for each member of the channel, under the visibility
test the source writes. -/
def whoChannel (s : Server) (client : ClientId) (channel : Channel) (friends : List ClientId) :
    Server :=
  channel.members.entries.foldl (fun s member =>
    if !(s.heap client).flags .invisible || friends.contains client then
      s.reply client (.rplWhoReply (some channel.name) member.1)
    else s) s

def WhoCommand.handleServer (lowerRune : Char → Char) (s : Server) (client : ClientId)
    (mask : String) : Server :=
  let friends := s.friends client
  let s :=
    if mask = "" then
      (s.channels.entries.map Prod.snd).foldl (fun s channel => whoChannel s client channel friends) s
    else if isChannel mask then
      match s.getChannel lowerRune mask with
      | some channel => whoChannel s client channel friends
      | none => s
    else
      (s.clients.findAll lowerRune mask).foldl
        (fun s found => s.reply client (.rplWhoReply none found)) s
  s.reply client (.rplEndOfWho mask)

def OperCommand.handleServer (s : Server) (client : ClientId) (hash : Option (List UInt8))
    (err : Option String) : Server :=
  if hash.isNone || err.isSome then s.reply client .errPasswdMismatch
  else
    let s := s.modify client fun c => { c with flags := Function.update c.flags .operator true }
    (s.reply client .rplYoureOper).reply client (.rplUModeIs client)

def AwayCommand.handleServer (s : Server) (client : ClientId) (away : Bool) (text : String) :
    Server :=
  let s := s.modify client fun c =>
    { c with flags := Function.update c.flags .away away, awayMessage := text }
  if (s.heap client).flags .away then s.reply client .rplNowAway else s.reply client .rplUnAway

def IsOnCommand.handleServer (lowerRune : Char → Char) (s : Server) (client : ClientId)
    (nicks : List String) : Server :=
  let ison := nicks.filterMap fun nick => (s.clients.get lowerRune nick).map fun c => (s.heap c).Nick
  s.reply client (.rplIsOn ison)

def NoticeCommand.handleServer (lowerRune : Char → Char) (methods : ChannelMethods)
    (s : Server) (client : ClientId) (target message : String) : Server :=
  if isChannel target then
    match s.getChannel lowerRune target with
    | none => s.reply client (.errNoSuchChannel target)
    | some channel => s.send (methods.notice s channel client message)
  else
    match s.clients.get lowerRune target with
    | none => s.reply client (.errNoSuchNick target)
    | some recipient => s.reply recipient (.notice (.client client) recipient message)

def KickCommand.handleServer (lowerRune : Char → Char) (methods : ChannelMethods) (s : Server)
    (client : ClientId) (kicks : List (String × String)) (comment : String) : Server :=
  kicks.foldl (fun s (name, nickname) =>
    match s.getChannel lowerRune name with
    | none => s.reply client (.errNoSuchChannel name)
    | some channel =>
      match s.clients.get lowerRune nickname with
      | none => s.reply client (.errNoSuchNick nickname)
      | some target =>
        let (table, out) := methods.kick s channel client target comment
        { s with channels := table }.send out) s

def ListCommand.handleServer (lowerRune : Char → Char) (s : Server) (client : ClientId)
    (channels : List String) (target : String) : Server :=
  if target ≠ "" then s.reply client (.errNoSuchServer target)
  else
    let hidden (channel : Channel) : Bool :=
      !(s.heap client).flags .operator && channel.flags .privateMode
    let s :=
      if channels.length = 0 then
        (s.channels.entries.map Prod.snd).foldl (fun s channel =>
          if hidden channel then s else s.reply client (.rplList channel.name)) s
      else
        channels.foldl (fun s name =>
          match s.getChannel lowerRune name with
          | some channel =>
            if hidden channel then s.reply client (.errNoSuchChannel name)
            else s.reply client (.rplList channel.name)
          | none => s.reply client (.errNoSuchChannel name)) s
    s.reply client .rplListEnd

def NamesCommand.handleServer (lowerRune : Char → Char) (methods : ChannelMethods)
    (s : Server) (client : ClientId) (channels : List String) : Server :=
  if s.channels.len = 0 then
    (s.channels.entries.map Prod.snd).foldl
      (fun s channel => s.send (methods.names s channel client)) s
  else
    channels.foldl (fun s name =>
      match s.getChannel lowerRune name with
      | none => s.reply client (.errNoSuchChannel name)
      | some channel => s.send (methods.names s channel client)) s

/-- The statistics `GCSTATS` reports: those of a `debug.GCStats` value that is never
filled in, so the zero time and zero durations. -/
def gcStatsLines : List String :=
  ["last GC:     Mon, 01 Jan 0001 00:00:00 UTC", "num GC:      0", "pause total: 0s",
    "pause quantiles min%: 0s", "pause quantiles 25%:  0s", "pause quantiles 50%:  0s",
    "pause quantiles 75%:  0s", "pause quantiles max%: 0s"]

def DebugCommand.handleServer (world : World) (s : Server) (client : ClientId)
    (subCommand : String) : Server :=
  if !(s.heap client).flags .operator then s
  else if subCommand = "GC" then s.privMsg client "OK"
  else if subCommand = "GCSTATS" then gcStatsLines.foldl (fun s line => s.privMsg client line) s
  else if subCommand = "NUMGOROUTINE" then
    s.privMsg client ("num goroutines: " ++ toString world.numGoroutine)
  else if subCommand = "PROFILEHEAP" then
    if world.heapProfileCreated then s.privMsg client "written to ergonomadic-heap.prof" else s
  else s

def VersionCommand.handleServer (s : Server) (client : ClientId) (target : String) : Server :=
  if target ≠ "" && target ≠ s.name then s.reply client (.errNoSuchServer target)
  else s.reply client .rplVersion

def InviteCommand.handleServer (lowerRune : Char → Char) (methods : ChannelMethods)
    (s : Server) (client : ClientId) (nickname name : String) : Server :=
  match s.clients.get lowerRune nickname with
  | none => s.reply client (.errNoSuchNick nickname)
  | some target =>
    match s.getChannel lowerRune name with
    | none => (s.reply client (.rplInviting target name)).reply target (.inviteMsg client target name)
    | some channel =>
      let (table, out) := methods.invite s channel target client
      { s with channels := table }.send out

def TimeCommand.handleServer (s : Server) (client : ClientId) (target : String) : Server :=
  if target ≠ "" && target ≠ s.name then s.reply client (.errNoSuchServer target)
  else s.reply client .rplTime

def KillCommand.handleServer (lowerRune : Char → Char) (methods : ChannelMethods) (s : Server)
    (client : ClientId) (nickname comment : String) : Server :=
  if !(s.heap client).flags .operator then s.reply client .errNoPrivileges
  else
    match s.clients.get lowerRune nickname with
    | none => s.reply client (.errNoSuchNick nickname)
    | some target =>
      s.quit lowerRune methods target ("KILLed by " ++ (s.heap client).Nick ++ ": " ++ comment)

def WhoWasCommand.handleServer (s : Server) (client : ClientId) (nicknames : List String) :
    Server :=
  nicknames.foldl (fun s nickname =>
    (s.reply client (.errWasNoSuchNick nickname)).reply client (.rplEndOfWhoWas nickname)) s

end Ergo.Irc
