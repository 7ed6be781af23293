import CodeFlow.Cli.Arguments
import CodeFlow.Cli.Config
import CodeFlow.Cli.Program
import CodeFlow.Cli.Run
import CodeFlow.Cookie
import CodeFlow.Decimal.Layout
import CodeFlow.Decimal.Numeral
import CodeFlow.Decimal.Shortest
import CodeFlow.Digest.Sha256
import CodeFlow.Flow.Attempt
import CodeFlow.Flow.Body
import CodeFlow.Flow.Client
import CodeFlow.Flow.Config
import CodeFlow.Flow.Consent
import CodeFlow.Flow.Dialogue
import CodeFlow.Flow.Error
import CodeFlow.Flow.Exchange
import CodeFlow.Flow.Logins
import CodeFlow.Flow.Stage
import CodeFlow.Flow.State
import CodeFlow.Flow.Token
import CodeFlow.Http.Message
import CodeFlow.Json.Basic
import CodeFlow.Json.Decode
import CodeFlow.Json.Document
import CodeFlow.Json.Fault
import CodeFlow.Json.Lexer
import CodeFlow.Json.Reader
import CodeFlow.Json.Shape
import CodeFlow.Json.Writer
import CodeFlow.Pkce
import CodeFlow.Rsa.Envelope
import CodeFlow.Rsa.Key
import CodeFlow.Rsa.Oaep
import CodeFlow.Settings.Decode
import CodeFlow.Settings.Dotenv
import CodeFlow.Settings.Environment
import CodeFlow.Settings.File
import CodeFlow.Settings.Ini
import CodeFlow.Settings.Json5
import CodeFlow.Settings.Layers
import CodeFlow.Settings.Ron
import CodeFlow.Settings.Table
import CodeFlow.Settings.Toml.Document
import CodeFlow.Settings.Toml.Scalar
import CodeFlow.Settings.Yaml
import CodeFlow.Text.Base64
import CodeFlow.Text.Blank
import CodeFlow.Text.Digit
import CodeFlow.Text.Printable
import CodeFlow.Text.Quoted
import CodeFlow.Text.Scan
import CodeFlow.Text.Split
import CodeFlow.Text.Utf8
import CodeFlow.Time.Calendar
import CodeFlow.Time.Instant
import CodeFlow.Time.Rfc3339
import CodeFlow.Url.Basic
import CodeFlow.Url.Domain
import CodeFlow.Url.Host
import CodeFlow.Url.Parser
import CodeFlow.Url.Percent
import CodeFlow.Url.Punycode
import CodeFlow.Url.Query
import CodeFlow.Main
import CodeFlow.Proofs.Flow.Conversation
import CodeFlow.Proofs.Flow.Trip
import CodeFlow.Proofs.Flow.Course
import CodeFlow.Proofs.Flow.Order
import CodeFlow.Proofs.Flow.Ending
import CodeFlow.Proofs.Rsa.Powers
import CodeFlow.Proofs.Json.Strings
import CodeFlow.Proofs.Url.Spelling
import CodeFlow.Proofs.Url.Query
import CodeFlow.Proofs.Url.Reencoding
import CodeFlow.Proofs.Flow.Bodies
import CodeFlow.Proofs.Flow.Provenance
import CodeFlow.Proofs.Flow.Possession
import CodeFlow.Proofs.Flow.Transitions
import CodeFlow.Proofs.Flow.Visits
import CodeFlow.Proofs.Flow.Carried
import CodeFlow.Proofs.Url.Reading
import CodeFlow.Proofs.Url.Place
import CodeFlow.Proofs.Url.Target
import CodeFlow.Proofs.Flow.Parameters
import CodeFlow.Proofs.Flow.Handover
import CodeFlow.Proofs.Flow.Targets
import CodeFlow.Proofs.Flow.Language
import CodeFlow.Proofs.Text.Pieces
import CodeFlow.Proofs.Cookie
import CodeFlow.Proofs.Flow.Secrecy
import CodeFlow.Proofs.Text.Base64
import CodeFlow.Proofs.Pkce
import CodeFlow.Proofs.Flow.Interleaving
import CodeFlow.Proofs.Flow.Freshness
import CodeFlow.Proofs.Flow.Agreement
import CodeFlow.Proofs.Flow.Apart
import CodeFlow.Proofs.Rsa.Bytes
import CodeFlow.Proofs.Rsa.Padding
import CodeFlow.Proofs.Rsa.Decryption
import CodeFlow.Proofs.Rsa.Envelope
import CodeFlow.Proofs.Flow.Sealing
import CodeFlow.Proofs.Flow.Stopping
import CodeFlow.Proofs.Flow.Registration
import CodeFlow.Proofs.Flow.Rejections
import CodeFlow.Proofs.Cli.Commands
import CodeFlow.Proofs.Cli.Bootstrap
import CodeFlow.Proofs.Cli.ExitStatus
import CodeFlow.Proofs.Time.Calendar
import CodeFlow.Proofs.Time.Rfc3339
import CodeFlow.Proofs.Json.Numbers
import CodeFlow.Proofs.Json.Spelling
import CodeFlow.Proofs.Json.RoundTrip
import CodeFlow.Proofs.Flow.Documents
import CodeFlow.Proofs.Flow.Losses
import CodeFlow.Proofs.Url.Host
import CodeFlow.Proofs.Url.Segments
import CodeFlow.Proofs.Url.Appending
import CodeFlow.Proofs.Flow.Endpoint
import CodeFlow.Proofs.Text.Scanning
import CodeFlow.Proofs.Settings.Names
import CodeFlow.Proofs.Settings.Leaves
import CodeFlow.Proofs.Cli.Layering
import CodeFlow.Proofs.Cli.Texts
import CodeFlow.Proofs.Flow.Replaying
import CodeFlow.Proofs.Flow.Redeeming
import CodeFlow.Proofs.Cli.Checks
import CodeFlow.Proofs.Flow.Redirecting
import CodeFlow.Proofs.Flow.Granting
import CodeFlow.Proofs.Flow.Succession
import CodeFlow.Proofs.Flow.Consenting
import CodeFlow.Proofs.Flow.Verdicts
import CodeFlow.Proofs.Time.Movement
import CodeFlow.Proofs.Flow.Expiry
import CodeFlow.Proofs.Flow.Sendable
import CodeFlow.Proofs.Flow.Explanations
import CodeFlow.Proofs.Cookie.Parsing
import CodeFlow.Proofs.Flow.Captured
import CodeFlow.Proofs.Flow.Emptied
