import QueryClient.Binary.Basic
import QueryClient.Binary.Format
import QueryClient.Binary.Layout
import QueryClient.Binary.Reader
import QueryClient.Binary.Shortest
import QueryClient.Calendar.Date
import QueryClient.Calendar.Duration
import QueryClient.Calendar.Time
import QueryClient.Column
import QueryClient.Config.Basic
import QueryClient.Config.Profile
import QueryClient.Connection.Basic
import QueryClient.Connection.Catalog
import QueryClient.Connection.Closing
import QueryClient.Connection.Execution
import QueryClient.Connection.Prepared
import QueryClient.Credentials
import QueryClient.Cursor.Basic
import QueryClient.Datatype
import QueryClient.Decimal
import QueryClient.Error
import QueryClient.Getter
import QueryClient.Getter.Target
import QueryClient.Http.Message
import QueryClient.Http.Transport
import QueryClient.Json.Basic
import QueryClient.Json.Printer
import QueryClient.Json.Reader
import QueryClient.Json.Record
import QueryClient.Json.Tree
import QueryClient.Members
import QueryClient.Param
import QueryClient.ProductVersion
import QueryClient.Response.Basic
import QueryClient.Response.Reader
import QueryClient.Row
import QueryClient.Scenario.Exchange
import QueryClient.Scenario.Run
import QueryClient.Scenario.Server
import QueryClient.Scenario.Service
import QueryClient.Scenario.Step
import QueryClient.Scenario.World
import QueryClient.Service.Basic
import QueryClient.Session.Client
import QueryClient.Session.Operation
import QueryClient.Statement.Basic
import QueryClient.Stream.Elements
import QueryClient.Stream.Input
import QueryClient.Stream.Scan
import QueryClient.Tagged.Decode
import QueryClient.Tagged.Encode
import QueryClient.Tagged.Header
import QueryClient.Text.Ascii
import QueryClient.Text.Base64
import QueryClient.Text.Blank
import QueryClient.Text.Hex
import QueryClient.Text.Numeral
import QueryClient.Text.Utf8
import QueryClient.Toml.Basic
import QueryClient.Toml.Number
import QueryClient.Toml.Quoted
import QueryClient.Toml.Reader
import QueryClient.Toml.Scan
import QueryClient.Unicode.CombiningClass
import QueryClient.Unicode.Decomposition
import QueryClient.Unicode.Direction
import QueryClient.Unicode.Hangul
import QueryClient.Unicode.Joining
import QueryClient.Unicode.Mark
import QueryClient.Unicode.Normalization
import QueryClient.Unicode.Table
import QueryClient.Url.Basic
import QueryClient.Url.Domain
import QueryClient.Url.Domain.Label
import QueryClient.Url.Domain.Mapping
import QueryClient.Url.Domain.Punycode
import QueryClient.Url.Host
import QueryClient.Url.Percent
import QueryClient.Uuid
import QueryClient.Value.Basic
import QueryClient.Value.Text
import QueryClient.Proofs.Connection.Failure
import QueryClient.Proofs.Connection.Fetches
import QueryClient.Proofs.Connection.Frame
import QueryClient.Proofs.Connection.InFlight
import QueryClient.Proofs.Connection.Interrupted
import QueryClient.Proofs.Connection.Registry
import QueryClient.Proofs.Connection.Rotation
import QueryClient.Proofs.Connection.Settings
import QueryClient.Proofs.Connection.Shared
import QueryClient.Proofs.Connection.Table
import QueryClient.Proofs.Connection.Teardown
import QueryClient.Proofs.Connection.Token
import QueryClient.Proofs.Cursor.Delivery
import QueryClient.Proofs.Decimal.Exactness
import QueryClient.Proofs.Duration
import QueryClient.Proofs.Json.RoundTrip
import QueryClient.Proofs.Row
import QueryClient.Proofs.Stream.Elements
import QueryClient.Proofs.Tagged.RoundTrip
import QueryClient.Proofs.Stream.Span
import QueryClient.Proofs.Stream.Soundness
import QueryClient.Proofs.Stream.Progress
import QueryClient.Proofs.Stream.Failure
import QueryClient.Proofs.Stream.Resumption
import QueryClient.Proofs.Stream.Splitting
import QueryClient.Proofs.Tagged.Unsendable
import QueryClient.Proofs.Tagged.Acceptance
import QueryClient.Proofs.Tagged.WallClock
import QueryClient.Proofs.Connection.Rows
import QueryClient.Proofs.Cursor.Nulls
import QueryClient.Proofs.Connection.RowLimit
import QueryClient.Proofs.Connection.Catalog
import QueryClient.Proofs.Http.Verdict
import QueryClient.Proofs.Getter.Agreement
import QueryClient.Proofs.Tagged.Marked
import QueryClient.Proofs.Config.Precedence
import QueryClient.Proofs.Config.Secret
import QueryClient.Proofs.Http.ResultAddress
import QueryClient.Proofs.Calendar.Conversion
