import Mathlib.Data.List.Basic

/-! The client record as `server.go` reads and writes it. The record itself and its
accessors live in `client.go`, which is not part of the source here; what `server.go`
needs of them is taken from the spec (§3 Client, §4.4, glossary). A client is referred
to by its address, since the server compares clients as pointers. -/
namespace Ergo.Irc

/-- A `*Client`: the address of a client object. -/
structure ClientId where
  addr : Nat
  deriving DecidableEq, Repr

abbrev UserMode := Char

/-- Modelled from the spec: the user mode constants (a file absent from src/), with the
letters RFC 2812 gives them. -/
def UserMode.invisible : UserMode := 'i'
def UserMode.operator : UserMode := 'o'
def UserMode.localOperator : UserMode := 'O'
def UserMode.serverNotice : UserMode := 's'
def UserMode.wallOps : UserMode := 'w'
def UserMode.away : UserMode := 'a'

/-- Position of a connection in the protocol. `terminated` is the spec's phase after
`Quit`; the source's `switch client.phase` has no case for it. -/
inductive Phase where
  | authorization
  | registration
  | normal
  | terminated
  deriving DecidableEq, Repr

/-- Modelled from the spec: the fields of `Client` (client.go) that the server uses.
`flags` is the `map[UserMode]bool`, a missing key reading as `false`; `lastActive` and
`lastTouched` are the times of `Active` and `Touch`. The channel set is not stored here: it
is read off the channels' member maps. -/
structure Client where
  nick : String
  username : String
  realname : String
  hostname : String
  flags : UserMode → Bool
  awayMessage : String
  phase : Phase
  lastActive : Nat
  lastTouched : Nat

namespace Client

/-- Modelled from the spec: the client `NewClient` creates on accept, with no nickname or
user yet and the phase the server's `InitPhase` gives. -/
def new (hostname : String) (phase : Phase) (now : Nat) : Client where
  nick := ""
  username := ""
  realname := ""
  hostname := hostname
  flags := fun _ => false
  awayMessage := ""
  phase := phase
  lastActive := now
  lastTouched := now

/-- Modelled from the spec: `Client.HasNick`, a nickname has been set. -/
def hasNick (client : Client) : Bool := client.nick ≠ ""

/-- Modelled from the spec: `Client.HasUsername`. -/
def hasUsername (client : Client) : Bool := client.username ≠ ""

/-- Modelled from the spec: `Client.Nick()`, the nickname or `*` before one is set. -/
def Nick (client : Client) : String := if client.hasNick then client.nick else "*"

/-- Modelled from the spec: `Client.UserHost()`, the glossary's `nick!user@host`. -/
def userHost (client : Client) : String :=
  client.Nick ++ "!" ++ client.username ++ "@" ++ client.hostname

theorem Nick_of_hasNick {client : Client} (named : client.hasNick) : client.Nick = client.nick := by
  simp [Nick, named]

end Client

end Ergo.Irc
