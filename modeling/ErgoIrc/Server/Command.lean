import ErgoIrc.Server.State

/-! The typed commands the loop dispatches. Parsing lines into commands is the spec's
out-of-scope collaborator: a command here is the value the parser hands over, one
constructor per command type of the source with the fields the handlers read, and the
client it came from. The name and nickname grammars of the spec (§6) are modelled here
too, since `server.go` calls them. -/
namespace Ergo.Irc

/-- `PASS` carries the parser's verdict on the password (`none` for `nil`), the RFC 2812
`USER` its `<mode>` bitmask, `JOIN` and `KICK` their `map[string]string` arguments in
iteration order, and `PART` and `KICK` the values of `Message()` and `Comment()`. -/
inductive Command where
  | proxy (client : ClientId) (hostname : String)
  | cap (client : ClientId)
  | pass (client : ClientId) (err : Option String)
  | nick (client : ClientId) (nickname : String)
  | userRFC1459 (client : ClientId) (username realname : String)
  | userRFC2812 (client : ClientId) (username realname : String) (mode : Nat)
  | quit (client : ClientId) (message : String)
  | ping (client : ClientId)
  | pong (client : ClientId)
  | join (client : ClientId) (zero : Bool) (channels : List (String × String))
  | part (client : ClientId) (channels : List String) (message : String)
  | topic (client : ClientId) (channel : String) (setTopic : Bool) (topic : String)
  | privMsg (client : ClientId) (target message : String)
  | mode (client : ClientId) (nickname : String) (changes : List ModeChange)
  | whois (client : ClientId) (masks : List String)
  | channelMode (client : ClientId) (channel : String) (changes : List ChannelModeChange)
  | who (client : ClientId) (mask : String)
  | oper (client : ClientId) (hash : Option (List UInt8)) (err : Option String)
  | away (client : ClientId) (away : Bool) (text : String)
  | isOn (client : ClientId) (nicks : List String)
  | motd (client : ClientId)
  | notice (client : ClientId) (target message : String)
  | kick (client : ClientId) (kicks : List (String × String)) (comment : String)
  | list (client : ClientId) (channels : List String) (target : String)
  | names (client : ClientId) (channels : List String)
  | debug (client : ClientId) (subCommand : String)
  | version (client : ClientId) (target : String)
  | invite (client : ClientId) (nickname channel : String)
  | time (client : ClientId) (target : String)
  | kill (client : ClientId) (nickname comment : String)
  | whoWas (client : ClientId) (nicknames : List String)

namespace Command

def client : Command → ClientId
  | proxy c _ | cap c | pass c _ | nick c _ | userRFC1459 c _ _ | userRFC2812 c _ _ _
  | quit c _ | ping c | pong c | join c _ _ | part c _ _ | topic c _ _ _ | privMsg c _ _
  | mode c _ _ | whois c _ | channelMode c _ _ | who c _ | oper c _ _ | away c _ _
  | isOn c _ | motd c | notice c _ _ | kick c _ _ | list c _ _ | names c _ | debug c _
  | version c _ | invite c _ _ | time c _ | kill c _ _ | whoWas c _ => c

/-- `cmd.Code()`: the command's verb. -/
def code : Command → String
  | proxy .. => "PROXY" | cap .. => "CAP" | pass .. => "PASS" | nick .. => "NICK"
  | userRFC1459 .. | userRFC2812 .. => "USER" | quit .. => "QUIT" | ping .. => "PING"
  | pong .. => "PONG" | join .. => "JOIN" | part .. => "PART" | topic .. => "TOPIC"
  | privMsg .. => "PRIVMSG" | mode .. | channelMode .. => "MODE" | whois .. => "WHOIS"
  | who .. => "WHO" | oper .. => "OPER" | away .. => "AWAY" | isOn .. => "ISON"
  | motd .. => "MOTD" | notice .. => "NOTICE" | kick .. => "KICK" | list .. => "LIST"
  | names .. => "NAMES" | debug .. => "DEBUG" | version .. => "VERSION"
  | invite .. => "INVITE" | time .. => "TIME" | kill .. => "KILL" | whoWas .. => "WHOWAS"

end Command

/-- Modelled from the spec: `RFC2812UserCommand.Flags`, the modes of the RFC 2812 `<mode>`
bitmask: bit 2 sets `WallOps` and bit 3 sets `Invisible`. -/
def userModeFlags (mode : Nat) : List UserMode :=
  (if mode.testBit 2 then [.wallOps] else []) ++ (if mode.testBit 3 then [.invisible] else [])

/-- The punctuation a nickname may use besides letters, by code point: the brackets, the
backslash, the backquote, `_`, `^` and the braces with `|`. -/
def nickSpecials : List Char := [91, 93, 92, 96, 95, 94, 123, 124, 125].map Char.ofNat

/-- Modelled from the spec: `IsNickname`. A letter or special first, then letters,
specials, digits and `-`, at most 32 characters (the spec's default limit). -/
def isNickname (nick : String) : Bool :=
  match nick.data with
  | [] => false
  | first :: rest =>
    nick.length ≤ 32 && (first.isAlpha || first ∈ nickSpecials) &&
      rest.all fun c => c.isAlpha || c ∈ nickSpecials || c.isDigit || c = '-'

/-- Modelled from the spec: `IsChannel`. `#` or `&` first, at most 50 characters, and no
space, comma or control character. -/
def isChannel (name : String) : Bool :=
  match name.data with
  | [] => false
  | first :: _ =>
    (first = '#' || first = '&') && name.length ≤ 50 &&
      name.data.all fun c => c ≠ ' ' && c ≠ ',' && 32 ≤ c.toNat && c.toNat ≠ 127

end Ergo.Irc
