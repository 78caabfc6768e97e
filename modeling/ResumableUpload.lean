import ResumableUpload.Base64
import ResumableUpload.Blob
import ResumableUpload.ByteQuantity
import ResumableUpload.ByteQuantity.Grammar
import ResumableUpload.Bytes
import ResumableUpload.Channel.Basic
import ResumableUpload.Channel.Buffer
import ResumableUpload.Channel.Open
import ResumableUpload.Channel.Operation
import ResumableUpload.Channel.Rounds
import ResumableUpload.ChunkSize
import ResumableUpload.Client.Basic
import ResumableUpload.Client.Isolation
import ResumableUpload.Client.Veil
import ResumableUpload.Config
import ResumableUpload.Config.Layers
import ResumableUpload.Event
import ResumableUpload.Failure.Basic
import ResumableUpload.Failure.Chain
import ResumableUpload.Failure.External
import ResumableUpload.Failure.Kind
import ResumableUpload.Failure.Storage
import ResumableUpload.Field
import ResumableUpload.Json.Document
import ResumableUpload.Json.Insertion
import ResumableUpload.Json.Token
import ResumableUpload.Json.Writer
import ResumableUpload.Number.Binary64
import ResumableUpload.Number.Numeral
import ResumableUpload.Number.Power
import ResumableUpload.Number.Shortest
import ResumableUpload.Problem
import ResumableUpload.Retry
import ResumableUpload.Retry.Tape
import ResumableUpload.Service.Attempts
import ResumableUpload.Service.Basic
import ResumableUpload.Service.Endpoint
import ResumableUpload.Service.Handles
import ResumableUpload.Service.History
import ResumableUpload.Service.Options
import ResumableUpload.Service.Outlook
import ResumableUpload.Session.Counterpart
import ResumableUpload.Session.Ending
import ResumableUpload.Session.Observation
import ResumableUpload.Session.Opening
import ResumableUpload.Session.Origin
import ResumableUpload.Session.Persistence
import ResumableUpload.Session.Stage
import ResumableUpload.Session.Surfacing
import ResumableUpload.SessionOptions
import ResumableUpload.SignedUrl
import ResumableUpload.Snapshot.Basic
import ResumableUpload.Snapshot.Json
import ResumableUpload.Snapshot.Payload
import ResumableUpload.Text.Ascii
import ResumableUpload.Text.Blank
import ResumableUpload.Text.DecimalDigit
import ResumableUpload.Text.Escaping
import ResumableUpload.Text.Hexadecimal
import ResumableUpload.Text.Percent
import ResumableUpload.Text.Point
import ResumableUpload.Text.Position
import ResumableUpload.Text.Printable
import ResumableUpload.Text.Quoted
import ResumableUpload.Text.Ranges
import ResumableUpload.Text.Utf8
import ResumableUpload.Url.Grammar
import ResumableUpload.Url.Host
import ResumableUpload.Url.Split
import ResumableUpload.Validation
import ResumableUpload.Value
import ResumableUpload.Proofs.Base64
import ResumableUpload.Proofs.ByteQuantity
import ResumableUpload.Proofs.Channel.Chunking
import ResumableUpload.Proofs.Channel.Emission
import ResumableUpload.Proofs.Channel.Flow
import ResumableUpload.Proofs.Channel.Interruption
import ResumableUpload.Proofs.Channel.Operations
import ResumableUpload.Proofs.Channel.Requests
import ResumableUpload.Proofs.Channel.Soundness
import ResumableUpload.Proofs.Channel.Steady
import ResumableUpload.Proofs.Channel.Veil
import ResumableUpload.Proofs.ChunkSize
import ResumableUpload.Proofs.Client.Handles
import ResumableUpload.Proofs.Client.Isolation
import ResumableUpload.Proofs.Client.Veil
import ResumableUpload.Proofs.Config
import ResumableUpload.Proofs.Failure.Chain
import ResumableUpload.Proofs.Fields
import ResumableUpload.Proofs.Json.Document
import ResumableUpload.Proofs.Json.Insertion
import ResumableUpload.Proofs.Json.Reader
import ResumableUpload.Proofs.Json.Writer
import ResumableUpload.Proofs.Number.Numeral
import ResumableUpload.Proofs.Retry.Flag
import ResumableUpload.Proofs.Retry.Tape
import ResumableUpload.Proofs.Service.Attempts
import ResumableUpload.Proofs.Service.Failures
import ResumableUpload.Proofs.Service.Handles
import ResumableUpload.Proofs.Service.History
import ResumableUpload.Proofs.Service.Obliging
import ResumableUpload.Proofs.Service.Outlook
import ResumableUpload.Proofs.Service.Sending
import ResumableUpload.Proofs.Session.Capture
import ResumableUpload.Proofs.Session.Connecting
import ResumableUpload.Proofs.Session.Counterpart
import ResumableUpload.Proofs.Session.Ending
import ResumableUpload.Proofs.Session.HandOver
import ResumableUpload.Proofs.Session.Intact
import ResumableUpload.Proofs.Session.LifeCycle
import ResumableUpload.Proofs.Session.Observation
import ResumableUpload.Proofs.Session.Opening
import ResumableUpload.Proofs.Session.Origin
import ResumableUpload.Proofs.Session.Persistence
import ResumableUpload.Proofs.Session.Reachable
import ResumableUpload.Proofs.Session.Representation
import ResumableUpload.Proofs.Session.Restoration
import ResumableUpload.Proofs.Session.Rounds
import ResumableUpload.Proofs.Session.Stream
import ResumableUpload.Proofs.Session.Surfacing
import ResumableUpload.Proofs.Session.Twins
import ResumableUpload.Proofs.Session.Writing
import ResumableUpload.Proofs.SignedUrl
import ResumableUpload.Proofs.SignedUrl.Address
import ResumableUpload.Proofs.SignedUrl.Guard
import ResumableUpload.Proofs.Snapshot.Basic
import ResumableUpload.Proofs.Snapshot.Json
import ResumableUpload.Proofs.Snapshot.Payload
import ResumableUpload.Proofs.Snapshot.Veil
import ResumableUpload.Proofs.Text.DecimalDigit
import ResumableUpload.Proofs.Text.Percent
import ResumableUpload.Proofs.Text.Utf8
import ResumableUpload.Proofs.Url.Points
import ResumableUpload.Proofs.Url.Split
