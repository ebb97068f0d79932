import Stanza.Block
import Stanza.CommandLine.Arguments
import Stanza.CommandLine.Help
import Stanza.CommandLine.Run
import Stanza.Config.Basic
import Stanza.Config.Files
import Stanza.Dump
import Stanza.Environment
import Stanza.Format
import Stanza.Json
import Stanza.Log.Basic
import Stanza.Log.Filter
import Stanza.Lookahead
import Stanza.Main
import Stanza.Markup
import Stanza.Name
import Stanza.Node.Basic
import Stanza.Node.Parser
import Stanza.Path.Expansion
import Stanza.Pattern.Basic
import Stanza.Pattern.Brackets
import Stanza.Pattern.CharSet
import Stanza.Pattern.Escape
import Stanza.Pattern.Flags
import Stanza.Pattern.Reader
import Stanza.Proofs.Lookahead
import Stanza.Proofs.Node.Site
import Stanza.Proofs.Node.Window
import Stanza.Proofs.Text.Run
import Stanza.Proofs.Text.Slice
import Stanza.Proofs.Token.Alternation
import Stanza.Proofs.Token.Delimited
import Stanza.Proofs.Token.Partition
import Stanza.Proofs.Token.Range
import Stanza.Proofs.Token.Readable
import Stanza.Proofs.Token.Rule
import Stanza.Proofs.Token.Run
import Stanza.Proofs.Token.Seam
import Stanza.Proofs.Token.Spans
import Stanza.Render
import Stanza.Store.Basic
import Stanza.Store.Files
import Stanza.Store.Path
import Stanza.Store.Reading
import Stanza.Terminal.Plain
import Stanza.Terminal.Style
import Stanza.Text.Alphabetic
import Stanza.Text.Alphanumeric
import Stanza.Text.Basic
import Stanza.Text.Blank
import Stanza.Text.Extending
import Stanza.Text.Letter
import Stanza.Text.Lines
import Stanza.Text.Printable
import Stanza.Text.Quoted
import Stanza.Text.Ranges
import Stanza.Text.Uppercase
import Stanza.Text.Utf8
import Stanza.Token.Basic
import Stanza.Token.Lexeme
import Stanza.Token.Lexer
import Stanza.Toml.Digit
import Stanza.Toml.Moment
import Stanza.Toml.Quotes
import Stanza.Toml.Reader
import Stanza.Toml.Scalar
import Stanza.Toml.Tree
import Stanza.Toml.Value
import Stanza.Toml.Writer
import Stanza.Proofs.Node.Visible
import Stanza.Proofs.Token.Closing
import Stanza.Proofs.Node.Faithful
import Stanza.Proofs.Token.Join
import Stanza.Proofs.Config.Document
import Stanza.Proofs.Lookahead.Cursor
import Stanza.Proofs.Markup.Entity
import Stanza.Proofs.Markup.Reader
import Stanza.Proofs.Markup.Block
import Stanza.Proofs.Markup.Faithful
import Stanza.Proofs.Token.Extension
import Stanza.Proofs.Node.Append
import Stanza.Proofs.Text.Newline
import Stanza.Proofs.Token.Newline
import Stanza.Proofs.Node.Lines
import Stanza.Proofs.Store.Growth
import Stanza.Proofs.Config.Runs
import Stanza.Proofs.Node.Waiting
import Stanza.Proofs.Lookahead.Account
import Stanza.Proofs.Text.Quoted
import Stanza.Proofs.Dump
import Stanza.Proofs.Json.Reader
import Stanza.Proofs.Json.Pretty
import Stanza.Proofs.Json.Block
import Stanza.Proofs.Node.Log
import Stanza.Proofs.Path.Spelling
import Stanza.Proofs.Markup.Link
import Stanza.Proofs.Store.Elsewhere
import Stanza.Proofs.CommandLine.Settings
