import Gatehouse.Backend
import Gatehouse.Balance.Pool
import Gatehouse.Balance.Ring
import Gatehouse.Balance.Strategy
import Gatehouse.Call.Line
import Gatehouse.Call.Retry
import Gatehouse.Catalog.Basic
import Gatehouse.Catalog.Feed
import Gatehouse.Catalog.Index
import Gatehouse.Chain.Basic
import Gatehouse.Chain.Stage
import Gatehouse.Digest.Md5
import Gatehouse.Exchange
import Gatehouse.Fault
import Gatehouse.Gateway.Basic
import Gatehouse.Gateway.Build
import Gatehouse.Gateway.State
import Gatehouse.Group
import Gatehouse.Http.Address
import Gatehouse.Http.Attributes
import Gatehouse.Http.Body
import Gatehouse.Http.Headers
import Gatehouse.Http.Query
import Gatehouse.Http.Request
import Gatehouse.Http.Response
import Gatehouse.Item.Basic
import Gatehouse.Item.Format
import Gatehouse.Json.Basic
import Gatehouse.Json.Decode
import Gatehouse.Json.Reader
import Gatehouse.Json.Writer
import Gatehouse.Keyed
import Gatehouse.Match.Condition
import Gatehouse.Match.Glob
import Gatehouse.Match.Operator
import Gatehouse.Match.Resolve
import Gatehouse.Moment
import Gatehouse.Number.Binary64
import Gatehouse.Number.Counting
import Gatehouse.Number.Decimal
import Gatehouse.Number.Rounding
import Gatehouse.Outcome
import Gatehouse.Regex.Basic
import Gatehouse.Regex.CharSet
import Gatehouse.Regex.Reader
import Gatehouse.Regex.Search
import Gatehouse.Regex.Template
import Gatehouse.Rpc
import Gatehouse.Settings.Basic
import Gatehouse.Settings.Environment
import Gatehouse.Settings.File
import Gatehouse.Settings.HttpClient
import Gatehouse.Settings.Logging
import Gatehouse.Settings.Provider
import Gatehouse.Settings.Sources
import Gatehouse.Stages.Answer
import Gatehouse.Stages.Balance
import Gatehouse.Stages.Classify
import Gatehouse.Stages.Forward
import Gatehouse.Stages.Reshape
import Gatehouse.Stages.Sign
import Gatehouse.Stages.Target
import Gatehouse.Stages.Throttle
import Gatehouse.Table
import Gatehouse.Text.Basic
import Gatehouse.Text.Decimal
import Gatehouse.Text.Duration
import Gatehouse.Text.Percent
import Gatehouse.Text.Quoted
import Gatehouse.Throttle.Basic
import Gatehouse.Throttle.Bucket
import Gatehouse.Timing
import Gatehouse.Toml.Document
import Gatehouse.Toml.Reader
import Gatehouse.Toml.Scalar
import Gatehouse.Unicode.Case
import Gatehouse.Unicode.Category
import Gatehouse.Unicode.Lower
import Gatehouse.Unicode.Ranges
import Gatehouse.Unicode.Script
import Gatehouse.Unicode.Visible
import Gatehouse.Unicode.Word
import Gatehouse.Yaml.Cursor
import Gatehouse.Yaml.Node
import Gatehouse.Yaml.Scalar
import Gatehouse.Yaml.Token
import Gatehouse.Yaml.Value
import Gatehouse.Proofs.Balance.Availability
import Gatehouse.Proofs.Balance.Choice
import Gatehouse.Proofs.Balance.Forgetting
import Gatehouse.Proofs.Balance.Marks
import Gatehouse.Proofs.Balance.Reporting
import Gatehouse.Proofs.Balance.Rings
import Gatehouse.Proofs.Balance.Rotation
import Gatehouse.Proofs.Balance.Runs
import Gatehouse.Proofs.Balance.Weights
import Gatehouse.Proofs.Call.Retries
import Gatehouse.Proofs.Catalog.Batches
import Gatehouse.Proofs.Catalog.Commuting
import Gatehouse.Proofs.Catalog.Deletions
import Gatehouse.Proofs.Catalog.Determined
import Gatehouse.Proofs.Catalog.Edits
import Gatehouse.Proofs.Catalog.Ledger
import Gatehouse.Proofs.Catalog.Order
import Gatehouse.Proofs.Catalog.Repeats
import Gatehouse.Proofs.Catalog.Services
import Gatehouse.Proofs.Chain.Account
import Gatehouse.Proofs.Chain.Ending
import Gatehouse.Proofs.Chain.Passage
import Gatehouse.Proofs.Gateway.Answers
import Gatehouse.Proofs.Gateway.Arrangement
import Gatehouse.Proofs.Gateway.Attempts
import Gatehouse.Proofs.Gateway.Batches
import Gatehouse.Proofs.Gateway.Changes
import Gatehouse.Proofs.Gateway.Destinations
import Gatehouse.Proofs.Gateway.Dismissals
import Gatehouse.Proofs.Gateway.Findings
import Gatehouse.Proofs.Gateway.Notes
import Gatehouse.Proofs.Gateway.Projection
import Gatehouse.Proofs.Gateway.Reached
import Gatehouse.Proofs.Gateway.Repeats
import Gatehouse.Proofs.Gateway.Reports
import Gatehouse.Proofs.Gateway.Signatures
import Gatehouse.Proofs.Gateway.Strays
import Gatehouse.Proofs.Http.Fields
import Gatehouse.Proofs.Http.Query
import Gatehouse.Proofs.Json.Records
import Gatehouse.Proofs.Match.Globs
import Gatehouse.Proofs.Match.Headers
import Gatehouse.Proofs.Match.Paths
import Gatehouse.Proofs.Match.Resolution
import Gatehouse.Proofs.Match.Segments
import Gatehouse.Proofs.Match.Separators
import Gatehouse.Proofs.Match.Subtrees
import Gatehouse.Proofs.Match.Tokens
import Gatehouse.Proofs.Match.Variables
import Gatehouse.Proofs.Match.Whole
import Gatehouse.Proofs.Regex.Brackets
import Gatehouse.Proofs.Regex.Branches
import Gatehouse.Proofs.Regex.Escapes
import Gatehouse.Proofs.Regex.Groups
import Gatehouse.Proofs.Regex.Language
import Gatehouse.Proofs.Regex.Readings
import Gatehouse.Proofs.Regex.Steps
import Gatehouse.Proofs.Regex.Ways
import Gatehouse.Proofs.Settings.Leaves
import Gatehouse.Proofs.Stages.Calls
import Gatehouse.Proofs.Stages.Turns
import Gatehouse.Proofs.Text.Bytes
import Gatehouse.Proofs.Throttle.Buckets
import Gatehouse.Proofs.Throttle.Exact
import Gatehouse.Proofs.Throttle.Isolation
import Gatehouse.Proofs.Gateway.Registered
import Gatehouse.Proofs.Json.Texts
import Gatehouse.Proofs.Item.Handles
import Gatehouse.Proofs.Text.Ascii
import Gatehouse.Proofs.Settings.Variables
import Gatehouse.Proofs.Call.Delays
import Gatehouse.Proofs.Json.Objects
import Gatehouse.Proofs.Item.Written
import Gatehouse.Proofs.Throttle.Quotas
