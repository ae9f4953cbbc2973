import RemotePlayback.Backend.Directory
import RemotePlayback.Cluster.Json
import RemotePlayback.Main
import RemotePlayback.Paging.Single
import RemotePlayback.Paging.Walk
import RemotePlayback.Proofs.Backend.Delivery
import RemotePlayback.Proofs.Backend.Directory
import RemotePlayback.Proofs.Cluster.RoundTrip
import RemotePlayback.Proofs.Cluster.UnknownFields
import RemotePlayback.Proofs.Collection
import RemotePlayback.Proofs.Control.Outcome
import RemotePlayback.Proofs.Dealer.Collections
import RemotePlayback.Proofs.Dealer.Frame
import RemotePlayback.Proofs.Dealer.Topic
import RemotePlayback.Proofs.Item
import RemotePlayback.Proofs.Paging.Limits
import RemotePlayback.Proofs.Paging.Numbering
import RemotePlayback.Proofs.Paging.PlainCursor
import RemotePlayback.Proofs.Paging.Requests
import RemotePlayback.Proofs.Playback.Position
import RemotePlayback.Proofs.Playback.Queue
import RemotePlayback.Proofs.Playback.Takeover
import RemotePlayback.Proofs.Session.Endpoints
import RemotePlayback.Proofs.Session.Farewell
import RemotePlayback.Proofs.Session.Freshness
import RemotePlayback.Proofs.Session.Greeting
import RemotePlayback.Proofs.Session.Instructions
import RemotePlayback.Proofs.Session.Junk
import RemotePlayback.Proofs.Session.LateAnswer
import RemotePlayback.Proofs.Session.Notices
import RemotePlayback.Proofs.Session.Pings
import RemotePlayback.Proofs.Session.Routing
import RemotePlayback.Proofs.Session.Succession
import RemotePlayback.Proofs.Session.Timeline
import RemotePlayback.Proofs.Settings.File
import RemotePlayback.Session.Socket
import RemotePlayback.Settings.Session
import RemotePlayback.Text.Url
