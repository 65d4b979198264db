import QueryDesk.Text.Quoted
import QueryDesk.Text.Utf8
import QueryDesk.Text.LowerCase
import QueryDesk.Sql.Markup
import QueryDesk.Sql.Completeness
import QueryDesk.Sql.Layout
import QueryDesk.Number.Decimal
import QueryDesk.Number.Literal
import QueryDesk.Value
import QueryDesk.Csv.ColumnType
import QueryDesk.Csv.SummaryList
import QueryDesk.Csv.TableName
import QueryDesk.Engine.Scripted
import QueryDesk.Engine.Connection
import QueryDesk.Session
import QueryDesk.Store.Batch
import QueryDesk.Main
import QueryDesk.Proofs.Text.Classes
import QueryDesk.Proofs.Text.Cutting
import QueryDesk.Proofs.Text.Offset
import QueryDesk.Proofs.Text.Encoding
import QueryDesk.Proofs.Tokens.Phrase
import QueryDesk.Proofs.Tokens.Rule
import QueryDesk.Proofs.Tokens.Reader
import QueryDesk.Proofs.Tokens.Tiling
import QueryDesk.Proofs.Tokens.Merging
import QueryDesk.Proofs.Tokens.Glance
import QueryDesk.Proofs.Tokens.Adjacent
import QueryDesk.Proofs.Tokens.Spaced
import QueryDesk.Proofs.Tokens.Semicolons
import QueryDesk.Proofs.Tokens.Completeness
import QueryDesk.Proofs.Cursor.Next
import QueryDesk.Proofs.Cursor.Agreement
import QueryDesk.Proofs.Cursor.Safety
import QueryDesk.Proofs.Markup.Decoding
import QueryDesk.Proofs.Layout.Between
import QueryDesk.Proofs.Layout.ClauseBreaks
import QueryDesk.Proofs.Session.Imports
import QueryDesk.Proofs.Csv.Document
import QueryDesk.Proofs.Csv.Statements
import QueryDesk.Proofs.Shell.Blocks
import QueryDesk.Proofs.Shell.Prompts
import QueryDesk.Proofs.Cursor.Restart
import QueryDesk.Proofs.Tokens.Barrier
import QueryDesk.Proofs.Csv.Columns
import QueryDesk.Proofs.Markup.Page
import QueryDesk.Proofs.Session.Exchange
import QueryDesk.Proofs.Session.Protocol
import QueryDesk.Proofs.Layout.Idempotence
import QueryDesk.Proofs.Tokens.Wordwise
import QueryDesk.Proofs.Engine.Batches
import QueryDesk.Proofs.Engine.Tables
import QueryDesk.Proofs.Session.Loads
import QueryDesk.Proofs.Store.Batches
import QueryDesk.Proofs.Number.Grammar
import QueryDesk.Proofs.Store.Tokens
import QueryDesk.Proofs.Store.Reading
import QueryDesk.Proofs.Store.Loading
import QueryDesk.Proofs.Store.Rows
import QueryDesk.Proofs.Store.Imports
import QueryDesk.Proofs.Store.Listing
import QueryDesk.Proofs.Store.Typing
import QueryDesk.Proofs.Store.Headers
import QueryDesk.Proofs.Store.Affinity
import QueryDesk.Proofs.Session.Batches
import QueryDesk.Proofs.Session.Tables
import QueryDesk.Proofs.Session.Affinity
import QueryDesk.Proofs.Tokens.Enclosed
import QueryDesk.Proofs.Csv.TableName
import QueryDesk.Proofs.Number.Octets
import QueryDesk.Proofs.Csv.RoundTrip
import QueryDesk.Proofs.Csv.LineEndings
import QueryDesk.Proofs.Csv.Inference
import QueryDesk.Proofs.Csv.ReadBack
import QueryDesk.Proofs.Number.Denotation
import QueryDesk.Proofs.Number.Rounding
import QueryDesk.Proofs.Number.Whole
import QueryDesk.Proofs.Csv.WholeColumns
import QueryDesk.Proofs.Cursor.Lookup
import QueryDesk.Proofs.Tokens.Coarsening
import QueryDesk.Proofs.Tokens.Reflow
import QueryDesk.Proofs.Text.Decoding
import QueryDesk.Proofs.Session.Precedence
import QueryDesk.Proofs.Text.LetterCase
import QueryDesk.Proofs.Tokens.LetterCase
import QueryDesk.Proofs.Layout.LetterCase
import QueryDesk.Proofs.Csv.Cleaning
import QueryDesk.Proofs.Shell.ImportArguments
import QueryDesk.Proofs.Session.Overview
import QueryDesk.Proofs.Tokens.PlainRuns
import QueryDesk.Proofs.Number.Nearest
import QueryDesk.Proofs.Number.Shortest
import QueryDesk.Proofs.Number.Printing
import QueryDesk.Proofs.Value.Printing
