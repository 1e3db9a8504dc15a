/- A door controller: card reader, lock, panel, permissions, gateway and notifications. -/
import DoorControl.Access.Cache
import DoorControl.Access.Decision
import DoorControl.Access.Service
import DoorControl.Access.Source
import DoorControl.Access.Table
import DoorControl.Access.Upkeep
import DoorControl.Card.Frame
import DoorControl.Card.Id
import DoorControl.Clock
import DoorControl.Config.Environment
import DoorControl.Config.Error
import DoorControl.Config.File
import DoorControl.Config.Literal
import DoorControl.Config.Schema
import DoorControl.Config.Secrets
import DoorControl.Config.Sections
import DoorControl.Config.Services
import DoorControl.Config.Tree
import DoorControl.Config.Validation
import DoorControl.Device.Display
import DoorControl.Device.Error
import DoorControl.Device.InMemory
import DoorControl.Door.Mode
import DoorControl.Door.Settings
import DoorControl.Door.Station
import DoorControl.Door.Turn
import DoorControl.Files.Basic
import DoorControl.Files.Disk
import DoorControl.Gateway.Action
import DoorControl.Gateway.Client
import DoorControl.Gateway.Link
import DoorControl.Http.Escape
import DoorControl.Http.Host
import DoorControl.Http.Host.Folding
import DoorControl.Http.Host.Ipv4
import DoorControl.Http.Host.Ipv6
import DoorControl.Http.Message
import DoorControl.Http.Path
import DoorControl.Http.Sending
import DoorControl.Http.StandIn
import DoorControl.Http.Url
import DoorControl.Json.Document
import DoorControl.Json.Reader
import DoorControl.Json.Record
import DoorControl.Json.Value
import DoorControl.Lock.Reply
import DoorControl.Lock.Session
import DoorControl.Lock.State
import DoorControl.Main
import DoorControl.Outbox.Delivery
import DoorControl.Outbox.Destination
import DoorControl.Outbox.Item
import DoorControl.Outbox.Outbound
import DoorControl.Outbox.Queue
import DoorControl.Outbox.Stamp
import DoorControl.Panel.Keys
import DoorControl.Panel.Reply
import DoorControl.Panel.Scanner
import DoorControl.Program.Arguments
import DoorControl.Program.Defaults
import DoorControl.Program.DryRun
import DoorControl.Program.Offline
import DoorControl.Program.Report
import DoorControl.Program.Work
import DoorControl.Protocol.Error
import DoorControl.Reader.Command
import DoorControl.Reader.Session
import DoorControl.Serial.Bench
import DoorControl.Serial.LineBuffer
import DoorControl.Serial.Link
import DoorControl.Serial.Poller
import DoorControl.Serial.Port
import DoorControl.Serial.Script
import DoorControl.Text.Base64
import DoorControl.Text.Blank
import DoorControl.Text.Double
import DoorControl.Text.Numeral
import DoorControl.Text.Punycode
import DoorControl.Text.Quoted
import DoorControl.Text.Shapeless
import DoorControl.Text.Split
import DoorControl.Text.Utf8
import DoorControl.Yaml.Block
import DoorControl.Yaml.Document
import DoorControl.Yaml.Layout
import DoorControl.Yaml.Node
import DoorControl.Yaml.Place
import DoorControl.Yaml.Plain
import DoorControl.Yaml.Quoted
import DoorControl.Yaml.Token
import DoorControl.Proofs.Access.Entries
import DoorControl.Proofs.Access.Verdict
import DoorControl.Proofs.Json.Generic
import DoorControl.Proofs.Access.Listing
import DoorControl.Proofs.Access.Shared
import DoorControl.Proofs.Access.Schedule
import DoorControl.Proofs.Access.Justification
import DoorControl.Proofs.Access.Revocation
import DoorControl.Proofs.Door.Passage
import DoorControl.Proofs.Door.Deeds
import DoorControl.Proofs.Door.Run
import DoorControl.Proofs.Door.Authority
import DoorControl.Proofs.Door.Deadline
import DoorControl.Proofs.Door.Bolt
import DoorControl.Proofs.Door.Admission
import DoorControl.Proofs.Serial.Lines
import DoorControl.Proofs.Serial.Remote
import DoorControl.Proofs.Serial.Exchange
import DoorControl.Proofs.Lock.Attribution
import DoorControl.Proofs.Serial.Sending
import DoorControl.Proofs.Card.Frames
import DoorControl.Proofs.Text.Words
import DoorControl.Proofs.Text.Literal
import DoorControl.Proofs.Text.Decoding
import DoorControl.Proofs.Text.Hexadecimal
import DoorControl.Proofs.Card.Encoding
import DoorControl.Proofs.Card.Naming
import DoorControl.Proofs.Serial.Collecting
import DoorControl.Proofs.Serial.Assembly
import DoorControl.Proofs.Serial.FirstReply
import DoorControl.Proofs.Reader.Reports
import DoorControl.Proofs.Reader.Newest
import DoorControl.Proofs.Lock.Threads
import DoorControl.Proofs.Lock.Snapshot
import DoorControl.Proofs.Lock.Dialogue
import DoorControl.Proofs.Serial.Recording
import DoorControl.Proofs.Lock.Protocol
import DoorControl.Proofs.Lock.Replies
import DoorControl.Proofs.Lock.Provenance
import DoorControl.Proofs.Door.Signs
import DoorControl.Proofs.Door.News
import DoorControl.Proofs.Outbox.Offering
import DoorControl.Proofs.Door.Offers
import DoorControl.Proofs.Door.Heralding
import DoorControl.Proofs.Door.Announcements
import DoorControl.Proofs.Door.Overrun
import DoorControl.Proofs.Config.Limits
import DoorControl.Proofs.Gateway.Rounds
import DoorControl.Proofs.Gateway.Handover
import DoorControl.Proofs.Gateway.Loss
import DoorControl.Proofs.Outbox.Traffic
import DoorControl.Proofs.Outbox.Conservation
import DoorControl.Proofs.Outbox.Fitting
import DoorControl.Proofs.Latest
import DoorControl.Proofs.Outbox.StatusLine
import DoorControl.Proofs.Outbox.Retrying
import DoorControl.Proofs.Outbox.Consuming
import DoorControl.Proofs.Door.Transitions
import DoorControl.Proofs.Door.Leaving
import DoorControl.Proofs.Door.Abreast
import DoorControl.Proofs.Door.Refusal
import DoorControl.Proofs.Door.Aloof
import DoorControl.Proofs.Door.Swipes
import DoorControl.Proofs.Door.Signals
import DoorControl.Proofs.Door.Shown
import DoorControl.Proofs.Door.Feedback
import DoorControl.Proofs.Door.Warning
import DoorControl.Proofs.Card.Texts
import DoorControl.Proofs.Panel.Scanning
import DoorControl.Proofs.Door.Repose
import DoorControl.Proofs.Door.Publication
import DoorControl.Proofs.Serial.Journal
import DoorControl.Proofs.Serial.Outages
import DoorControl.Proofs.Reader.Writing
