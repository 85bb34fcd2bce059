import ProgramGuide.Address.Domain
import ProgramGuide.Address.Endpoint
import ProgramGuide.Address.Host
import ProgramGuide.Address.Mapping
import ProgramGuide.Address.Punycode
import ProgramGuide.Address.Url
import ProgramGuide.Artwork.Candidate
import ProgramGuide.Artwork.Index
import ProgramGuide.Artwork.Selection
import ProgramGuide.Calendar.Date
import ProgramGuide.Calendar.Instant
import ProgramGuide.Calendar.Span
import ProgramGuide.Calendar.Timestamp
import ProgramGuide.Calendar.Zone
import ProgramGuide.CommandLine.Arguments
import ProgramGuide.CommandLine.FileTree
import ProgramGuide.CommandLine.Invocation
import ProgramGuide.CommandLine.Run
import ProgramGuide.Digest.Sha1
import ProgramGuide.Json.Decoding
import ProgramGuide.Json.Number
import ProgramGuide.Json.Reader
import ProgramGuide.Json.Value
import ProgramGuide.Json.Writer
import ProgramGuide.Lineup.Channel
import ProgramGuide.Lineup.Descriptor
import ProgramGuide.Main
import ProgramGuide.Number.Binary64
import ProgramGuide.Number.Shortest
import ProgramGuide.Program.Audio
import ProgramGuide.Program.Details
import ProgramGuide.Program.Identity
import ProgramGuide.Program.Merge
import ProgramGuide.Program.Rating
import ProgramGuide.Program.Record
import ProgramGuide.Schedule.Airing
import ProgramGuide.Schedule.Window
import ProgramGuide.Service.Credentials
import ProgramGuide.Service.Failure
import ProgramGuide.Service.Fetch
import ProgramGuide.Service.Message
import ProgramGuide.Service.Provider
import ProgramGuide.Service.Script
import ProgramGuide.Service.Status
import ProgramGuide.Service.Task
import ProgramGuide.Service.TokenStore
import ProgramGuide.Service.Tokens
import ProgramGuide.Service.Transport
import ProgramGuide.Settings.Basic
import ProgramGuide.Settings.Check
import ProgramGuide.Settings.Decoding
import ProgramGuide.Text.Blank
import ProgramGuide.Text.Bytes
import ProgramGuide.Text.Case
import ProgramGuide.Text.CombiningClass
import ProgramGuide.Text.Composition
import ProgramGuide.Text.Direction
import ProgramGuide.Text.Joining
import ProgramGuide.Text.Mark
import ProgramGuide.Text.Normalized
import ProgramGuide.Text.Numeral
import ProgramGuide.Text.Percent
import ProgramGuide.Text.Quoted
import ProgramGuide.Text.Ranges
import ProgramGuide.Text.Search
import ProgramGuide.Text.Unassigned
import ProgramGuide.Text.Unprintable
import ProgramGuide.Toml.Line
import ProgramGuide.Toml.Quote
import ProgramGuide.Toml.Reader
import ProgramGuide.Toml.Scalar
import ProgramGuide.Toml.Table
import ProgramGuide.Toml.Token
import ProgramGuide.Proofs.Service.Call
import ProgramGuide.Proofs.Service.Contract
import ProgramGuide.Proofs.Service.System
import ProgramGuide.Proofs.Service.Cooldown
import ProgramGuide.Proofs.Service.Lull
import ProgramGuide.Proofs.Service.Paths
import ProgramGuide.Proofs.Service.Stage
import ProgramGuide.Proofs.Artwork.Index
import ProgramGuide.Proofs.Program.Merge
import ProgramGuide.Proofs.Program.Join
import ProgramGuide.Proofs.Text.Bytes
import ProgramGuide.Proofs.Text.Numeral
import ProgramGuide.Proofs.Service.Round
import ProgramGuide.Proofs.Service.Listing
import ProgramGuide.Proofs.Service.Course
import ProgramGuide.Proofs.Service.Cancellation
import ProgramGuide.Proofs.Service.Isolation
import ProgramGuide.Proofs.Service.Issued
import ProgramGuide.Proofs.Service.Wire
import ProgramGuide.Proofs.Service.Password
import ProgramGuide.Proofs.Service.Acquisition
import ProgramGuide.Proofs.Service.Happening
import ProgramGuide.Proofs.Service.Point
import ProgramGuide.Proofs.Service.Place
import ProgramGuide.Proofs.Service.Pool
import ProgramGuide.Proofs.Service.Refresh
import ProgramGuide.Proofs.Service.Crowd
import ProgramGuide.Proofs.Service.Retry
import ProgramGuide.Proofs.Service.Resend
import ProgramGuide.Proofs.Service.Stampede
import ProgramGuide.Proofs.Schedule.Identity
import ProgramGuide.Proofs.Calendar.Instant
import ProgramGuide.Proofs.Program.Show
import ProgramGuide.Proofs.Artwork.Selection
import ProgramGuide.Proofs.Program.Consistency
import ProgramGuide.Proofs.Calendar.Date
import ProgramGuide.Proofs.Schedule.Window
import ProgramGuide.Proofs.Service.Attachment
import ProgramGuide.Proofs.Service.Precondition
import ProgramGuide.Proofs.Json.Writer
import ProgramGuide.Proofs.Service.Station
import ProgramGuide.Proofs.Service.Window
import ProgramGuide.Proofs.Lineup.Channel
import ProgramGuide.Proofs.Json.Settled
import ProgramGuide.Proofs.Json.Shape
import ProgramGuide.Proofs.Json.Decoding
import ProgramGuide.Proofs.Service.Payload
import ProgramGuide.Proofs.Artwork.Element
import ProgramGuide.Proofs.Service.Tolerance
import ProgramGuide.Proofs.Service.Body
import ProgramGuide.Proofs.Service.Dispatch
import ProgramGuide.Proofs.Number.Binary64
import ProgramGuide.Proofs.Artwork.Optimum
import ProgramGuide.Proofs.Lineup.Display
import ProgramGuide.Proofs.Json.Record
import ProgramGuide.Proofs.Calendar.Timestamp
import ProgramGuide.Proofs.Schedule.Ticks
import ProgramGuide.Proofs.Json.Number
import ProgramGuide.Proofs.Text.Search
import ProgramGuide.Proofs.Artwork.Dimension
import ProgramGuide.Proofs.Address.Endpoint
import ProgramGuide.Proofs.Text.Removal
import ProgramGuide.Proofs.Program.Rating
import ProgramGuide.Proofs.Schedule.Stop
import ProgramGuide.Proofs.Program.AirDate
import ProgramGuide.Proofs.Text.Percent
import ProgramGuide.Proofs.Service.Path
import ProgramGuide.Proofs.Calendar.Span
import ProgramGuide.Proofs.Toml.Quote
import ProgramGuide.Proofs.Toml.Document
import ProgramGuide.Proofs.Settings.Saved
import ProgramGuide.Proofs.Service.Edge
