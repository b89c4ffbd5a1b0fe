import ErgoIrc.GoMap
import ErgoIrc.Like
import ErgoIrc.Client
import ErgoIrc.ClientDB
import ErgoIrc.LookupSet
import ErgoIrc.Sqlite
import ErgoIrc.FindAll
import ErgoIrc.UserModes
import ErgoIrc.Reply
import ErgoIrc.Motd
import ErgoIrc.Server.State
import ErgoIrc.Server.Command
import ErgoIrc.Server.Handlers
import ErgoIrc.Server.Loop
import ErgoIrc.Server.Channels
import ErgoIrc.Server.Steps
import ErgoIrc.Server.Moves
import ErgoIrc.Server.Lifecycle
import ErgoIrc.Server.Identity
import ErgoIrc.Server.Privileges
import ErgoIrc.Server.ModeReply
import ErgoIrc.Server.Who
import ErgoIrc.Server.Index
import ErgoIrc.Server.Names
import ErgoIrc.Server.Queries
import ErgoIrc.Server.Entries
import ErgoIrc.Server.Members
import ErgoIrc.Server.Isolation
import ErgoIrc.Server.Presence
import ErgoIrc.Server.Masks
