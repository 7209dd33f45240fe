import Reformat.Edit.Record
import Reformat.Json.Variant
import Reformat.Main
import Reformat.Proofs.Edit.Place
import Reformat.Proofs.Text.Boundary
import Reformat.Proofs.Edit.Splice
import Reformat.Proofs.Markup.Attribute
import Reformat.Proofs.Text.Natural
import Reformat.Proofs.Markup.Element
import Reformat.Proofs.Markup.Root
import Reformat.Proofs.Reply.Grammar
import Reformat.Proofs.Attempt
import Reformat.Proofs.Reply.Edits
import Reformat.Proofs.Markup.Entity
import Reformat.Proofs.Reply.Encoding
import Reformat.Proofs.Json.Object
import Reformat.Proofs.Reply.Header
import Reformat.Proofs.Edit.Commit
import Reformat.Proofs.Reply.Agreement
import Reformat.Proofs.Edit.Run
import Reformat.Proofs.Edit.Watch
import Reformat.Proofs.Edit.Origin
import Reformat.Proofs.Edit.Changed
import Reformat.Proofs.Json.Suffix
import Reformat.Proofs.Markup.Parts
import Reformat.Proofs.Reply.Truncated
import Reformat.Proofs.Session.Trial
import Reformat.Proofs.Session.Format
import Reformat.Proofs.Text.Lines
import Reformat.Proofs.History.Diff
import Reformat.Proofs.History.Selected
import Reformat.Proofs.Request.Merge
import Reformat.Proofs.Session.Request
import Reformat.Proofs.Edit.Operation
import Reformat.Proofs.Edit.Selection
import Reformat.Proofs.Json.Tokens
import Reformat.Proofs.Reply.FullText
import Reformat.Proofs.Config.Normal
import Reformat.Proofs.Files.Written
import Reformat.Proofs.Host.Files
import Reformat.Proofs.Reply.Made
import Reformat.Proofs.Cli.Format
import Reformat.Proofs.Cli.Run
import Reformat.Proofs.Toml.Escape
import Reformat.Proofs.Toml.Quotes
import Reformat.Proofs.Toml.Strings
import Reformat.Proofs.Toml.Values
import Reformat.Proofs.Toml.Lines
import Reformat.Proofs.Config.Saved
import Reformat.Proofs.Reply.Mismatch
import Reformat.Proofs.Edit.Noop
import Reformat.Proofs.Edit.Spared
import Reformat.Proofs.Edit.Marked
import Reformat.Proofs.Request.Joined
import Reformat.Proofs.History.Counted
import Reformat.Proofs.Config.Blank
import Reformat.Proofs.Request.Named
import Reformat.Proofs.Text.Find
import Reformat.Proofs.Locate.Marked
import Reformat.Proofs.Locate.Search
