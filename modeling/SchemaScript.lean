import SchemaScript.Calendar.Instant
import SchemaScript.Command.Arguments
import SchemaScript.Command.Run
import SchemaScript.Config.Config
import SchemaScript.Config.LogFilter
import SchemaScript.Decimal.Shortest
import SchemaScript.Digest.Md5
import SchemaScript.Event
import SchemaScript.Files.Error
import SchemaScript.Files.Program
import SchemaScript.Files.Tree
import SchemaScript.Json.Error
import SchemaScript.Json.Literal
import SchemaScript.Json.Numeral
import SchemaScript.Json.Reader
import SchemaScript.Json.Record
import SchemaScript.Json.Value
import SchemaScript.Main
import SchemaScript.Naming.Names
import SchemaScript.Naming.Scope
import SchemaScript.Naming.WordSource
import SchemaScript.Schema.ColumnList
import SchemaScript.Schema.Lookup
import SchemaScript.Schema.Project
import SchemaScript.Schema.Resolution
import SchemaScript.Script.Alignment
import SchemaScript.Script.Batch
import SchemaScript.Script.Generate
import SchemaScript.Script.Options
import SchemaScript.Script.Writer
import SchemaScript.Snapshot.FileName
import SchemaScript.Snapshot.Format
import SchemaScript.Snapshot.Snapshot
import SchemaScript.Snapshot.Validation
import SchemaScript.Sql.Comment
import SchemaScript.Sql.DataType
import SchemaScript.Sql.Default
import SchemaScript.Sql.Quoting
import SchemaScript.Store.Store
import SchemaScript.Text.Digits
import SchemaScript.Text.Quoted
import SchemaScript.Text.Split
import SchemaScript.Unicode.Alphanumeric
import SchemaScript.Unicode.Casing
import SchemaScript.Unicode.Casing.Table
import SchemaScript.Unicode.CodePointSet
import SchemaScript.Unicode.DisplayWidth
import SchemaScript.Unicode.DisplayWidth.Table
import SchemaScript.Unicode.Printable
import SchemaScript.Unicode.WhiteSpace
import SchemaScript.Proofs.Script.Layout
import SchemaScript.Proofs.Sql.Scan
import SchemaScript.Proofs.Sql.Comment
import SchemaScript.Proofs.Text.Digits
import SchemaScript.Proofs.Script.Pieces
import SchemaScript.Proofs.Sql.DataType
import SchemaScript.Proofs.Script.Mentions
import SchemaScript.Proofs.Script.Reading
import SchemaScript.Proofs.Script.Prescription
import SchemaScript.Proofs.Sql.Parentheses
import SchemaScript.Proofs.Sql.Default
import SchemaScript.Proofs.Schema.Lookup
import SchemaScript.Proofs.Script.Targets
import SchemaScript.Proofs.Json.Literal
import SchemaScript.Proofs.Json.Numeral
import SchemaScript.Proofs.Json.Codec
import SchemaScript.Proofs.Json.Record
import SchemaScript.Proofs.Files.Path
import SchemaScript.Proofs.Snapshot.RoundTrip
import SchemaScript.Proofs.Files.Directory
import SchemaScript.Proofs.Store.Names
import SchemaScript.Proofs.Store.Contents
import SchemaScript.Proofs.Store.Refinement
import SchemaScript.Proofs.Script.Declarations
import SchemaScript.Proofs.Script.Writer
import SchemaScript.Proofs.Script.Issuing
import SchemaScript.Proofs.Naming.Accounts
import SchemaScript.Proofs.Script.Accounting
import SchemaScript.Proofs.Script.Draws
import SchemaScript.Proofs.Script.Variation
import SchemaScript.Proofs.Script.Resolution
import SchemaScript.Proofs.Files.Entry
import SchemaScript.Proofs.Files.Runs
import SchemaScript.Proofs.Store.Requests
import SchemaScript.Proofs.Files.Locality
import SchemaScript.Proofs.Store.Atomicity
import SchemaScript.Proofs.Store.Concurrency
import SchemaScript.Proofs.Store.Listing
import SchemaScript.Proofs.Schema.Agreement
import SchemaScript.Proofs.Naming.Separation
import SchemaScript.Proofs.Script.Duplicates
import SchemaScript.Proofs.Command.Meaning
import SchemaScript.Proofs.Command.Gathering
import SchemaScript.Proofs.Command.Arguments
import SchemaScript.Proofs.Command.Trace
import SchemaScript.Proofs.Json.Syntax
import SchemaScript.Proofs.Json.Skip
import SchemaScript.Proofs.Snapshot.Shape
import SchemaScript.Proofs.Snapshot.Presentation
import SchemaScript.Proofs.Unicode.AsciiCase
import SchemaScript.Proofs.Naming.FreshNames
import SchemaScript.Proofs.Script.Schemas
import SchemaScript.Proofs.Script.DefaultSchema
import SchemaScript.Proofs.Snapshot.Fields
import SchemaScript.Proofs.Snapshot.Validation
import SchemaScript.Proofs.Sql.Quoting
import SchemaScript.Proofs.Sql.Literal
import SchemaScript.Proofs.Script.Guards
import SchemaScript.Proofs.Script.Statements
import SchemaScript.Proofs.Script.Comments
import SchemaScript.Proofs.Script.Dangling
import SchemaScript.Proofs.Schema.ColumnList
import SchemaScript.Proofs.Schema.KeyOrder
import SchemaScript.Proofs.Script.TableBody
import SchemaScript.Proofs.Script.PrimaryKey
import SchemaScript.Proofs.Sql.Numeral
import SchemaScript.Proofs.Sql.TypeClause
import SchemaScript.Proofs.Snapshot.FileName
import SchemaScript.Proofs.Unicode.DisplayWidth
import SchemaScript.Proofs.Script.Alignment
import SchemaScript.Proofs.Sql.Tokens
