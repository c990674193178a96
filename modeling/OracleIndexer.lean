import OracleIndexer.BatchFile
import OracleIndexer.Binary64
import OracleIndexer.Block
import OracleIndexer.Broker.Basic
import OracleIndexer.Broker.Consumption
import OracleIndexer.Broker.Session
import OracleIndexer.Calendar
import OracleIndexer.CommandLine.Arguments
import OracleIndexer.CommandLine.Run
import OracleIndexer.Console
import OracleIndexer.Conversion
import OracleIndexer.Fault
import OracleIndexer.Feed.Batch
import OracleIndexer.Feed.CountRadix
import OracleIndexer.Feed.Envelope
import OracleIndexer.Feed.Id
import OracleIndexer.Feed.SizeTable
import OracleIndexer.Felt.Number
import OracleIndexer.Felt.ShortString
import OracleIndexer.Felt.Words
import OracleIndexer.Indexer.Mapping
import OracleIndexer.Indexer.Registry
import OracleIndexer.Indexer.Role
import OracleIndexer.Indexer.Run
import OracleIndexer.Indexer.Transform
import OracleIndexer.Journal
import OracleIndexer.Journal.Threshold
import OracleIndexer.Json.Access
import OracleIndexer.Json.Basic
import OracleIndexer.Json.Reader
import OracleIndexer.Json.Shown
import OracleIndexer.Json.Writer
import OracleIndexer.Keccak
import OracleIndexer.Main
import OracleIndexer.Payload.Assertion
import OracleIndexer.Payload.Dispatch
import OracleIndexer.Payload.Price
import OracleIndexer.Payload.Randomness
import OracleIndexer.Record.Assertion
import OracleIndexer.Record.FeedUpdate
import OracleIndexer.Record.Output
import OracleIndexer.Record.Price
import OracleIndexer.Record.Randomness
import OracleIndexer.Selector
import OracleIndexer.Settings.Basic
import OracleIndexer.Settings.File
import OracleIndexer.Settings.Validation
import OracleIndexer.Text.Base64
import OracleIndexer.Text.Blank
import OracleIndexer.Text.Cased
import OracleIndexer.Text.Digit
import OracleIndexer.Text.HexWord
import OracleIndexer.Text.Line
import OracleIndexer.Text.LowerCase
import OracleIndexer.Text.Numeral
import OracleIndexer.Text.Printable
import OracleIndexer.Text.Quoted
import OracleIndexer.Text.Surrogate
import OracleIndexer.Timestamp
import OracleIndexer.Word256
import OracleIndexer.Yaml.Cursor
import OracleIndexer.Yaml.Document
import OracleIndexer.Yaml.Instant
import OracleIndexer.Yaml.Kind
import OracleIndexer.Yaml.Lexer
import OracleIndexer.Yaml.Node
import OracleIndexer.Yaml.Number
import OracleIndexer.Yaml.Scalar
import OracleIndexer.Yaml.Tag
import OracleIndexer.Yaml.Token
import OracleIndexer.Yaml.Value
import OracleIndexer.Proofs.Broker.Log
import OracleIndexer.Proofs.Broker.Account
import OracleIndexer.Proofs.Broker.Steps
import OracleIndexer.Proofs.Broker.HandOver
import OracleIndexer.Proofs.Broker.Delivery
import OracleIndexer.Proofs.Text.HexDigits
import OracleIndexer.Proofs.Feed.IdDigits
import OracleIndexer.Proofs.Feed.Wire
import OracleIndexer.Proofs.Feed.Decoding
import OracleIndexer.Proofs.Conversion
import OracleIndexer.Proofs.Felt.Reading
import OracleIndexer.Proofs.Record.Misfit
import OracleIndexer.Proofs.Settings.Addresses
import OracleIndexer.Proofs.Indexer.Skipping
import OracleIndexer.Proofs.Feed.Transport
import OracleIndexer.Proofs.Noted
import OracleIndexer.Proofs.Text.HexWriting
import OracleIndexer.Proofs.Felt.Writing
import OracleIndexer.Proofs.Felt.Bytes
import OracleIndexer.Proofs.Record.Claim
import OracleIndexer.Proofs.Indexer.Accounting
import OracleIndexer.Proofs.Block.Respelling
import OracleIndexer.Proofs.Indexer.Respelling
import OracleIndexer.Proofs.Broker.Isolation
import OracleIndexer.Proofs.Record.Columns
import OracleIndexer.Proofs.Record.EntityKey
import OracleIndexer.Proofs.Word256
import OracleIndexer.Proofs.Feed.Packing
import OracleIndexer.Proofs.Feed.CanonicalId
import OracleIndexer.Proofs.Broker.Blocking
import OracleIndexer.Proofs.Json.Members
import OracleIndexer.Proofs.Block.Reading
import OracleIndexer.Proofs.Indexer.Removal
import OracleIndexer.Proofs.CommandLine.Streaming
import OracleIndexer.Proofs.Json.Scalars
import OracleIndexer.Proofs.Json.Nested
import OracleIndexer.Proofs.BatchFile
import OracleIndexer.Proofs.Json.Spelling
import OracleIndexer.Proofs.Json.Printing
import OracleIndexer.Proofs.Console
import OracleIndexer.Proofs.Indexer.Independence
import OracleIndexer.Proofs.Broker.History
import OracleIndexer.Proofs.Broker.Following
import OracleIndexer.Proofs.Broker.Overrun
import OracleIndexer.Proofs.Text.Numerals
import OracleIndexer.Proofs.Feed.Walk
import OracleIndexer.Proofs.Feed.Truncation
import OracleIndexer.Proofs.Feed.Gating
import OracleIndexer.Proofs.Feed.Counts
import OracleIndexer.Proofs.Broker.Limit
import OracleIndexer.Proofs.Text.Bases
import OracleIndexer.Proofs.Felt.Rereading
import OracleIndexer.Proofs.Payload.AssertionFelts
import OracleIndexer.Proofs.Payload.AssertionLayout
import OracleIndexer.Proofs.Record.Amounts
import OracleIndexer.Proofs.Word256.Arithmetic
import OracleIndexer.Proofs.Feed.Fields
import OracleIndexer.Proofs.Calendar
import OracleIndexer.Proofs.Text.FixedWidth
import OracleIndexer.Proofs.Timestamp
import OracleIndexer.Proofs.Text.Decimal
import OracleIndexer.Proofs.Word256.Texts
import OracleIndexer.Proofs.Text.LowerCase
import OracleIndexer.Proofs.Felt.ShortStrings
import OracleIndexer.Proofs.Settings.Contracts
import OracleIndexer.Proofs.Text.LetterCase
import OracleIndexer.Proofs.Record.Identifier
import OracleIndexer.Proofs.Record.RowIdentity
