import ErgoIrc.FindAll
import ErgoIrc.Motd

/-! The state of the server's event loop: the `Server` record of `server.go`, the client
objects it points to, and the replies it has queued. Two collaborators are not part of
the source here and are parameters of the model: the rune case map behind
`strings.ToLower` (`lowerRune`), and the methods of `Channel` (`ChannelMethods`). The
operations of `Client` that the handlers call are taken from the spec. -/
namespace Ergo.Irc

abbrev ChannelMode := Char

/-- Modelled from the spec: the channel mode constants `server.go` reads, with the
letters of RFC 2811. -/
def ChannelMode.channelOperator : ChannelMode := 'o'
def ChannelMode.voice : ChannelMode := 'v'
def ChannelMode.privateMode : ChannelMode := 'p'

/-- A channel, with the fields the server reads and `loadChannels` writes; each member has
its own channel modes (`ChannelOperator`, `Voice`). -/
structure Channel where
  name : String
  flags : ChannelMode → Bool
  key : String
  topic : String
  userLimit : UInt64
  members : GoMap ClientId (ChannelMode → Bool)

structure ChannelModeChange where
  mode : ChannelMode
  op : ModeOp
  arg : String

/-- `channels` is the `ChannelNameMap`, under lowercased names. Besides the fields of the
source's record, `heap` holds the client objects the loop has created, by address, the next
of them at `⟨allocated⟩`, and `outbox` the replies queued on their sockets, oldest first. -/
structure Server where
  channels : GoMap String Channel
  clients : ClientLookupSet
  name : String
  motdFile : String
  password : Option (List UInt8)
  heap : ClientId → Client
  allocated : Nat
  outbox : Outbox

/-- What the loop reads from outside while it handles one event: `time.Now()`, a file's
bytes (`none` when `os.Open` fails), `runtime.NumGoroutine()`, and whether
`os.Create("ergonomadic.heap.prof")` succeeds. -/
structure World where
  now : Nat
  readFile : String → Option (List UInt8)
  numGoroutine : Nat
  heapProfileCreated : Bool

/-- The methods of `Channel` (channel.go) the loop calls. Each gets the server and
returns the channel table after it and the replies it queues, so none of them writes a
client's own fields. `quit` is the channel side of `Client.Quit`. -/
structure ChannelMethods where
  join : Server → Channel → ClientId → String → GoMap String Channel × Outbox
  part : Server → Channel → ClientId → String → GoMap String Channel × Outbox
  setTopic : Server → Channel → ClientId → String → GoMap String Channel × Outbox
  getTopic : Server → Channel → ClientId → Outbox
  privMsg : Server → Channel → ClientId → String → Outbox
  notice : Server → Channel → ClientId → String → Outbox
  kick : Server → Channel → ClientId → ClientId → String → GoMap String Channel × Outbox
  invite : Server → Channel → ClientId → ClientId → GoMap String Channel × Outbox
  mode : Server → Channel → ClientId → List ChannelModeChange → GoMap String Channel × Outbox
  names : Server → Channel → ClientId → Outbox
  quit : Server → Channel → ClientId → GoMap String Channel × Outbox

namespace Server

variable (lowerRune : Char → Char)

/-- `ChannelNameMap.Get`. -/
def getChannel (s : Server) (name : String) : Option Channel :=
  s.channels.get (toLower lowerRune name)

/-- Modelled from the spec: `NewChannel`, an empty channel stored under its name. -/
def newChannel (s : Server) (name : String) : Channel × Server :=
  let channel : Channel := ⟨name, fun _ => false, "", "", 0, .empty⟩
  (channel, { s with channels := s.channels.set (toLower lowerRune name) channel })

def initPhase (s : Server) : Phase :=
  if s.password.isNone then .registration else .authorization

def reply (s : Server) (client : ClientId) (reply : Reply) : Server :=
  { s with outbox := s.outbox ++ [(client, reply)] }

def send (s : Server) (out : Outbox) : Server := { s with outbox := s.outbox ++ out }

def modify (s : Server) (client : ClientId) (f : Client → Client) : Server :=
  { s with heap := Function.update s.heap client (f (s.heap client)) }

/-- The channels a client is a member of: `client.channels`. -/
def channelsOf (s : Server) (client : ClientId) : List Channel :=
  (s.channels.entries.map Prod.snd).filter fun channel => (channel.members.get client).isSome

/-- Modelled from the spec: `Client.Friends`, the clients sharing a channel with the client. -/
def friends (s : Server) (client : ClientId) : List ClientId :=
  (s.channelsOf client).foldl
    (fun friends channel => channel.members.entries.foldl (fun friends m => friends.insert m.1) friends)
    []

@[simp] theorem reply_heap (s : Server) (client : ClientId) (r : Reply) :
    (s.reply client r).heap = s.heap := rfl
@[simp] theorem reply_channels (s : Server) (client : ClientId) (r : Reply) :
    (s.reply client r).channels = s.channels := rfl
@[simp] theorem reply_clients (s : Server) (client : ClientId) (r : Reply) :
    (s.reply client r).clients = s.clients := rfl
@[simp] theorem reply_allocated (s : Server) (client : ClientId) (r : Reply) :
    (s.reply client r).allocated = s.allocated := rfl
@[simp] theorem send_heap (s : Server) (out : Outbox) : (s.send out).heap = s.heap := rfl
@[simp] theorem send_allocated (s : Server) (out : Outbox) :
    (s.send out).allocated = s.allocated := rfl
@[simp] theorem modify_heap (s : Server) (client : ClientId) (f : Client → Client) :
    (s.modify client f).heap = Function.update s.heap client (f (s.heap client)) := rfl
@[simp] theorem modify_clients (s : Server) (client : ClientId) (f : Client → Client) :
    (s.modify client f).clients = s.clients := rfl
@[simp] theorem modify_allocated (s : Server) (client : ClientId) (f : Client → Client) :
    (s.modify client f).allocated = s.allocated := rfl

theorem modify_modify (s : Server) (client : ClientId) (f g : Client → Client) :
    (s.modify client f).modify client g = s.modify client (g ∘ f) := by
  simp [modify]

theorem foldl_modify {α : Type} (s : Server) (client : ClientId) (g : α → Client → Client)
    (xs : List α) :
    xs.foldl (fun s a => s.modify client (g a)) s =
      s.modify client fun c => xs.foldl (fun c a => g a c) c := by
  induction xs generalizing s with
  | nil => simp [modify]
  | cons a rest ih =>
    rw [List.foldl_cons, ih, modify_modify]
    rfl

@[simp] theorem heap_foldl_reply (s : Server) (targets : List ClientId) (r : ClientId → Reply) :
    (targets.foldl (fun s target => s.reply target (r target)) s).heap = s.heap := by
  induction targets generalizing s <;> simp [*]

@[simp] theorem clients_foldl_reply (s : Server) (targets : List ClientId)
    (r : ClientId → Reply) :
    (targets.foldl (fun s target => s.reply target (r target)) s).clients = s.clients := by
  induction targets generalizing s <;> simp [*]

@[simp] theorem allocated_foldl_reply (s : Server) (targets : List ClientId)
    (r : ClientId → Reply) :
    (targets.foldl (fun s target => s.reply target (r target)) s).allocated = s.allocated := by
  induction targets generalizing s <;> simp [*]

/-! ## The operations of `Client` the handlers call -/

/-- Modelled from the spec: `Client.Touch`, the client was heard from. -/
def touch (s : Server) (client : ClientId) (now : Nat) : Server :=
  s.modify client fun c => { c with lastTouched := now }

/-- Modelled from the spec: `Client.Active`, the client did something. -/
def active (s : Server) (client : ClientId) (now : Nat) : Server :=
  s.modify client fun c => { c with lastActive := now }

/-- Modelled from the spec: `Client.Idle`, a `PING` to the client. -/
def idle (s : Server) (client : ClientId) : Server := s.reply client .ping

/-- Modelled from the spec: `Client.SetNickname`. -/
def setNickname (s : Server) (client : ClientId) (nick : String) : Server :=
  s.modify client fun c => { c with nick := nick }

variable (methods : ChannelMethods)

/-- Modelled from the spec: `Client.Quit`. The client leaves every channel it is in and
the nickname index, its friends are told, and its phase becomes `terminated`. -/
def quit (s : Server) (client : ClientId) (message : String) : Server :=
  let friends := (s.friends client).erase client
  let s := (s.channelsOf client).foldl (fun s channel =>
    let (channels, out) := methods.quit s channel client
    { s with channels := channels }.send out) s
  let s := { s with clients := (s.clients.remove lowerRune s.heap client).2 }
  let s := s.modify client fun c => { c with phase := .terminated }
  friends.foldl (fun s friend => s.reply friend (.quit client message)) s

/-- Modelled from the spec: `Client.Register`. The client enters the nickname index and
its phase becomes `normal`. -/
def register (s : Server) (client : ClientId) : Server :=
  let s := { s with clients := (s.clients.add lowerRune s.heap client).2 }
  s.modify client fun c => { c with phase := .normal }

/-- Modelled from the spec: `Client.ChangeNickname`. The index entry moves to the new
nickname and the client and its friends are sent the `NICK`. -/
def changeNickname (s : Server) (client : ClientId) (nick : String) : Server :=
  let audience := (s.friends client).insert client
  let s := { s with clients := (s.clients.remove lowerRune s.heap client).2 }
  let s := s.setNickname client nick
  let s := { s with clients := (s.clients.add lowerRune s.heap client).2 }
  audience.foldl (fun s friend => s.reply friend (.nick client nick)) s

theorem foldl_channelQuit (s : Server) (channels : List Channel) (client : ClientId) :
    (channels.foldl (fun s channel =>
      let (table, out) := methods.quit s channel client
      { s with channels := table }.send out) s).heap = s.heap ∧
    (channels.foldl (fun s channel =>
      let (table, out) := methods.quit s channel client
      { s with channels := table }.send out) s).allocated = s.allocated ∧
    (channels.foldl (fun s channel =>
      let (table, out) := methods.quit s channel client
      { s with channels := table }.send out) s).clients = s.clients := by
  induction channels generalizing s with
  | nil => exact ⟨rfl, rfl, rfl⟩
  | cons channel rest ih => exact ih _

@[simp] theorem quit_heap (s : Server) (client : ClientId) (message : String) :
    (s.quit lowerRune methods client message).heap =
      Function.update s.heap client { s.heap client with phase := .terminated } := by
  simp [quit, (foldl_channelQuit methods s _ client).1]

@[simp] theorem quit_allocated (s : Server) (client : ClientId) (message : String) :
    (s.quit lowerRune methods client message).allocated = s.allocated := by
  simp [quit, (foldl_channelQuit methods s _ client).2.1]

theorem quit_clients (s : Server) (client : ClientId) (message : String) :
    (s.quit lowerRune methods client message).clients =
      (s.clients.remove lowerRune s.heap client).2 := by
  simp [quit, (foldl_channelQuit methods s _ client).1,
    (foldl_channelQuit methods s _ client).2.2]

@[simp] theorem register_heap (s : Server) (client : ClientId) :
    (s.register lowerRune client).heap =
      Function.update s.heap client { s.heap client with phase := .normal } := rfl

@[simp] theorem changeNickname_heap (s : Server) (client : ClientId) (nick : String) :
    (s.changeNickname lowerRune client nick).heap =
      Function.update s.heap client { s.heap client with nick := nick } := by
  simp [changeNickname, setNickname]

theorem changeNickname_clients (s : Server) (client : ClientId) (nick : String) :
    (s.changeNickname lowerRune client nick).clients =
      ((s.clients.remove lowerRune s.heap client).2.add lowerRune
        (Function.update s.heap client { s.heap client with nick := nick }) client).2 := by
  simp [changeNickname, setNickname]

@[simp] theorem changeNickname_allocated (s : Server) (client : ClientId) (nick : String) :
    (s.changeNickname lowerRune client nick).allocated = s.allocated := by
  simp [changeNickname, setNickname]

end Server

end Ergo.Irc
