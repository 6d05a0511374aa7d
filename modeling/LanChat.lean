import LanChat.Base.Fallible
import LanChat.Base.Framing
import LanChat.Base.Json
import LanChat.Base.Table
import LanChat.Base.PrettyJson
import LanChat.Base.Transition
import LanChat.Base.Segment
import LanChat.Crypto.Frame
import LanChat.Crypto.Stream
import LanChat.Protocol
import LanChat.Security
import LanChat.Serialize
import LanChat.Sizes
import LanChat.Storage.Schema
import LanChat.Storage.Bodies
import LanChat.Storage.Store
import LanChat.Storage.Specs
import LanChat.Storage.Operations
import LanChat.Storage.Log
import LanChat.Storage.Sequences
import LanChat.Storage.Memberships
import LanChat.Storage.Rooms
import LanChat.Storage.Credentials
import LanChat.Storage.Ledger
import LanChat.Storage.Tokens
import LanChat.Storage.Approvals
import LanChat.Storage.Migration
import LanChat.Storage.Administrators
import LanChat.Storage.Caps
import LanChat.Storage.Refusals
import LanChat.Storage.RoomLists
import LanChat.Storage.RoomViews
import LanChat.Server.Reviews
import LanChat.Server.History
import LanChat.Server.State
import LanChat.Server.Handlers
import LanChat.Server.Gateway
import LanChat.Server.Steps
import LanChat.Server.Runs
import LanChat.Server.Groups
import LanChat.Server.Revocation
import LanChat.Server.Privileges
import LanChat.Server.Seats
import LanChat.Server.Delivery
import LanChat.Client.ChatApp
import LanChat.Server.Sockets
import LanChat.Server.LogOrder
import LanChat.Server.ShownOnce
import LanChat.Server.RoomAccess
import LanChat.Clean
import LanChat.NormalForm
import LanChat.Client.Sanitize
import LanChat.Client.Direct
import LanChat.Client.ReplyGate
import LanChat.Client.DirectPair
import LanChat.Client.Conversation
import LanChat.Client.OneLink
import LanChat.Client.LinkReads
import LanChat.Client.Crossing
import LanChat.Client.Keys
import LanChat.Client.KeyEffects
import LanChat.Client.ChatSession
import LanChat.Client.Draft
import LanChat.Client.Lobby
import LanChat.Client.CredentialStore
import LanChat.Client.SharedFile
import LanChat.Client.SavedTokens
import LanChat.Client.Reopened
import LanChat.Client.Fingerprint
import LanChat.Client.Screen
import LanChat.Client.Views
import LanChat.Client.Paging
import LanChat.Client.MemberPages
import LanChat.Client.Continuity
import LanChat.Client.Undecodable
import LanChat.SessionLoops
import LanChat.Server.Rotation
import LanChat.Server.PageSizes
import LanChat.Server.BoundedPages
import LanChat.Server.RateLimit
import LanChat.Server.Registry
import LanChat.Server.Presence
import LanChat.Storage.Isolation
import LanChat.Storage.HiddenRoom
import LanChat.Server.Broadcasts
import LanChat.Base.Unwinding
import LanChat.Server.Unnoticed
