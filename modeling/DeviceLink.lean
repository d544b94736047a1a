import DeviceLink.Coded
import DeviceLink.Token
import DeviceLink.Presence
import DeviceLink.Text.Utf8
import DeviceLink.Text.Invisible
import DeviceLink.Text.Quoted
import DeviceLink.Error
import DeviceLink.Log
import DeviceLink.Number.Double
import DeviceLink.Number.Scaled
import DeviceLink.Number.Shortest
import DeviceLink.Time.Instant
import DeviceLink.Json.Value
import DeviceLink.Json.Writer
import DeviceLink.Json.Reader
import DeviceLink.Json.Fields
import DeviceLink.Toml.Document
import DeviceLink.Toml.Scalar
import DeviceLink.Toml.Reader
import DeviceLink.Buffer.Basic
import DeviceLink.Buffer.Pool
import DeviceLink.Mqtt.Topic
import DeviceLink.Mqtt.Code
import DeviceLink.Mqtt.Config
import DeviceLink.Mqtt.Connection
import DeviceLink.Mqtt.Client
import DeviceLink.Link.Routes
import DeviceLink.Link.Tracker
import DeviceLink.Link.Packet
import DeviceLink.Link.Size
import DeviceLink.Link.Loop
import DeviceLink.Link.Connection
import DeviceLink.Jobs.Code
import DeviceLink.Jobs.Message
import DeviceLink.Jobs.Payload
import DeviceLink.Jobs.Job
import DeviceLink.Jobs.Queue
import DeviceLink.Tunnel.Session
import DeviceLink.Tunnel.Notice
import DeviceLink.Agent.Identity
import DeviceLink.Agent.Files
import DeviceLink.Agent.Trace
import DeviceLink.Agent.Settings
import DeviceLink.Agent.Session
import DeviceLink.Agent.Credentials
import DeviceLink.Agent.Handler
import DeviceLink.Agent.Run
import DeviceLink.Simulated.Fault
import DeviceLink.Simulated.Connection
import DeviceLink.Simulated.Jobs
import DeviceLink.Simulated.Tunnel
import DeviceLink.Simulated.Library
import DeviceLink.Simulated.Disk
import DeviceLink.Simulated.Broker
import DeviceLink.Simulated.Site
import DeviceLink.Form.Basic
import DeviceLink.Form.Mqtt
import DeviceLink.Form.Jobs
import DeviceLink.Bench.Callback
import DeviceLink.Bench.State
import DeviceLink.Bench.Build
import DeviceLink.Bench.Drive
import DeviceLink.Bench.Operate
import DeviceLink.Bench.Step
import DeviceLink.Bench.Script
import DeviceLink.Bench.LinkStep
import DeviceLink.Bench.LinkScript
import DeviceLink.Bench.Transcript
import DeviceLink.Main
import DeviceLink.Proofs.Text.Utf8
import DeviceLink.Proofs.Json.Number
import DeviceLink.Proofs.Json.RoundTrip
import DeviceLink.Proofs.Buffer.Ownership
import DeviceLink.Proofs.Mqtt.Topic
import DeviceLink.Proofs.Mqtt.Drafts
import DeviceLink.Proofs.Mqtt.ClientConfigs
import DeviceLink.Proofs.Link.Tracker
import DeviceLink.Proofs.Link.Run
import DeviceLink.Proofs.Link.Conservation
import DeviceLink.Proofs.Link.Outbox
import DeviceLink.Proofs.Link.Matching
import DeviceLink.Proofs.Link.Reconnect
import DeviceLink.Proofs.Link.Routes
import DeviceLink.Proofs.Link.Operations
import DeviceLink.Proofs.Link.RouteTable
import DeviceLink.Proofs.Link.Opening
import DeviceLink.Proofs.Link.Ids
import DeviceLink.Proofs.Link.Grants
import DeviceLink.Proofs.Link.Refusals
import DeviceLink.Proofs.Jobs.Document
import DeviceLink.Proofs.Jobs.Payloads
import DeviceLink.Proofs.Agent.Delivery
import DeviceLink.Proofs.Agent.Lifecycle
import DeviceLink.Proofs.Agent.Refusal
import DeviceLink.Proofs.Agent.Authentication
import DeviceLink.Proofs.Bench.Holders
import DeviceLink.Proofs.Simulated.Subscriptions
import DeviceLink.Proofs.Simulated.Natives
import DeviceLink.Proofs.Bench.Calls
import DeviceLink.Proofs.Bench.Building
import DeviceLink.Proofs.Bench.Ledger
import DeviceLink.Proofs.Bench.Construction
import DeviceLink.Proofs.Bench.Wiring
import DeviceLink.Proofs.Bench.Firing
import DeviceLink.Proofs.Bench.Audience
import DeviceLink.Proofs.Bench.Panics
import DeviceLink.Proofs.Bench.Requests
import DeviceLink.Proofs.Bench.Exchanges
import DeviceLink.Proofs.Bench.Facade
import DeviceLink.Proofs.Bench.Deeds
import DeviceLink.Proofs.Bench.Effects
import DeviceLink.Proofs.Bench.Apart
import DeviceLink.Proofs.Bench.Tunnels
import DeviceLink.Proofs.Bench.Parts
import DeviceLink.Proofs.Bench.Isolation
