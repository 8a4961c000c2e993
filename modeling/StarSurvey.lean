import StarSurvey.Calendar.Date
import StarSurvey.Calendar.Instant
import StarSurvey.Calendar.Reader
import StarSurvey.Calendar.Timestamp
import StarSurvey.Collection
import StarSurvey.CommandLine.Arguments
import StarSurvey.CommandLine.Flag
import StarSurvey.CommandLine.Usage
import StarSurvey.Console
import StarSurvey.Decimal.Binary64
import StarSurvey.Decimal.Fixed
import StarSurvey.Decimal.Layout
import StarSurvey.Decimal.Nearest
import StarSurvey.Decimal.Shortest
import StarSurvey.Environment
import StarSurvey.Fetch
import StarSurvey.FileTree.Basic
import StarSurvey.FileTree.Replace
import StarSurvey.Json.Document
import StarSurvey.Json.Fault
import StarSurvey.Json.Numeral
import StarSurvey.Json.Reader
import StarSurvey.Json.Shape
import StarSurvey.Json.Skip
import StarSurvey.Json.Text
import StarSurvey.Json.Value
import StarSurvey.Main
import StarSurvey.Misfit
import StarSurvey.Network.Domain
import StarSurvey.Network.Ip
import StarSurvey.Network.Reply
import StarSurvey.Network.Response
import StarSurvey.Network.SocketAddress
import StarSurvey.Network.Url
import StarSurvey.Payload
import StarSurvey.Peer.Description
import StarSurvey.Peer.Server
import StarSurvey.Program
import StarSurvey.Record
import StarSurvey.Rehearsal
import StarSurvey.Settings
import StarSurvey.Snapshot
import StarSurvey.SnapshotFile
import StarSurvey.StarClass
import StarSurvey.Stats
import StarSurvey.Survey
import StarSurvey.Text.Blank
import StarSurvey.Text.Digits
import StarSurvey.Text.Invisible
import StarSurvey.Text.Quoted
import StarSurvey.Text.Split
import StarSurvey.Text.Utf8
import StarSurvey.Toml.Reader
import StarSurvey.Toml.Table
import StarSurvey.Toml.Value
import StarSurvey.Yaml.Core
import StarSurvey.Yaml.Cursor
import StarSurvey.Yaml.Fault
import StarSurvey.Yaml.Node
import StarSurvey.Yaml.Scalar
import StarSurvey.Yaml.Shape
import StarSurvey.Yaml.Token
import StarSurvey.Proofs.Collection
import StarSurvey.Proofs.Collector
import StarSurvey.FanOut
import StarSurvey.Proofs.FanOut
import StarSurvey.Proofs.FileTree
import StarSurvey.Proofs.Program
import StarSurvey.Proofs.Resolution
import StarSurvey.Proofs.Json.Reader
import StarSurvey.Proofs.Text
import StarSurvey.Proofs.Toml.Keys
import StarSurvey.Proofs.Settings
import StarSurvey.Proofs.Decimal.Shortest
import StarSurvey.Proofs.Json.Numeral
import StarSurvey.Proofs.Json.Spelling
import StarSurvey.Proofs.Calendar.Date
import StarSurvey.Proofs.Json.Text
import StarSurvey.Proofs.Json.Spacing
import StarSurvey.Proofs.Calendar.Timestamp
import StarSurvey.Proofs.Json.Shape
import StarSurvey.Proofs.Json.Refusal
import StarSurvey.Proofs.Json.Grammar
import StarSurvey.Proofs.Json.Ensures
import StarSurvey.Proofs.Record
import StarSurvey.Proofs.Peer
import StarSurvey.Proofs.Snapshot
import StarSurvey.FileTree.Writers
import StarSurvey.Proofs.Stats
import StarSurvey.Proofs.Survey
import StarSurvey.Proofs.Writers
import StarSurvey.Proofs.SnapshotFile
import StarSurvey.Proofs.Double.Nearest
import StarSurvey.Proofs.Json.Reread
import StarSurvey.Proofs.Coordinates
import StarSurvey.Collector
import StarSurvey.Proofs.Observation
import StarSurvey.Proofs.Json.Pieces
import StarSurvey.Proofs.Json.Passing
import StarSurvey.Proofs.Json.Sense
import StarSurvey.Proofs.Json.Layout
import StarSurvey.Proofs.Decoding
import StarSurvey.Proofs.SnapshotTimestamp
import StarSurvey.Proofs.Calendar.LocalTime
import StarSurvey.Proofs.LastSeen
import StarSurvey.Proofs.Requests
import StarSurvey.Proofs.Distances
import StarSurvey.Proofs.Double.Equality
import StarSurvey.Proofs.Histogram
import StarSurvey.Proofs.Lines
import StarSurvey.Proofs.Summary
import StarSurvey.Proofs.Json.Messages
import StarSurvey.Proofs.UrlText
import StarSurvey.Proofs.CommandLine.Spelling
import StarSurvey.Proofs.Console.Room
import StarSurvey.Proofs.Fetch
import StarSurvey.Proofs.SettingsText
import StarSurvey.Proofs.CommandLine.Occurrences
import StarSurvey.Proofs.CommandLine.Addresses
import StarSurvey.Proofs.Json.Members
import StarSurvey.Proofs.Json.Writing
import StarSurvey.Proofs.Payload
