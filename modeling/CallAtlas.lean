import CallAtlas.Alias
import CallAtlas.Call
import CallAtlas.Command.Handler
import CallAtlas.Command.Handler.Grammar
import CallAtlas.Command.Handler.Literal
import CallAtlas.Command.Handler.Reader
import CallAtlas.Command.Handler.Template
import CallAtlas.Command.Handler.Token
import CallAtlas.Command.Handler.Tree
import CallAtlas.Command.Invocation
import CallAtlas.Command.Markup
import CallAtlas.Command.Options
import CallAtlas.Command.Run
import CallAtlas.Command.Style
import CallAtlas.Decimal
import CallAtlas.Depths
import CallAtlas.Graph.Basic
import CallAtlas.Graph.Budget
import CallAtlas.Graph.Resolver
import CallAtlas.Graph.Search
import CallAtlas.Graph.Text
import CallAtlas.Imports
import CallAtlas.Json.Basic
import CallAtlas.Json.Printer
import CallAtlas.Json.Reader
import CallAtlas.Json.Token
import CallAtlas.Literal
import CallAtlas.Log
import CallAtlas.Main
import CallAtlas.Module.Block
import CallAtlas.Module.Listing
import CallAtlas.Module.Normal
import CallAtlas.Node.Basic
import CallAtlas.Node.Calls
import CallAtlas.Node.Classify
import CallAtlas.Position
import CallAtlas.Proofs.Alias
import CallAtlas.Proofs.Alias.Group
import CallAtlas.Proofs.Graph.Additions
import CallAtlas.Proofs.Graph.Identity
import CallAtlas.Proofs.Json.RoundTrip
import CallAtlas.Proofs.Json.Scalar
import CallAtlas.Proofs.Json.Written
import CallAtlas.Proofs.Module.Descent
import CallAtlas.Proofs.Module.Listed
import CallAtlas.Proofs.Module.Naming
import CallAtlas.Proofs.Module.Visits
import CallAtlas.Proofs.Node.Closed
import CallAtlas.Proofs.Node.Desugar
import CallAtlas.Proofs.Node.Expansion
import CallAtlas.Proofs.Node.Provenance
import CallAtlas.Proofs.Node.Rewriting
import CallAtlas.Proofs.Node.Shape
import CallAtlas.Proofs.Reformat.Block
import CallAtlas.Proofs.Reformat.Calls
import CallAtlas.Proofs.Reformat.Rescan
import CallAtlas.Proofs.Reformat.Tree
import CallAtlas.Proofs.Scan.Account
import CallAtlas.Proofs.Scan.Dumps
import CallAtlas.Proofs.Scan.Effect
import CallAtlas.Proofs.Scan.History
import CallAtlas.Proofs.Scan.Overlap
import CallAtlas.Proofs.Search.Budget
import CallAtlas.Proofs.Search.Distance
import CallAtlas.Proofs.Search.Growth
import CallAtlas.Proofs.Search.Locality
import CallAtlas.Proofs.Search.Order
import CallAtlas.Proofs.Search.Policy
import CallAtlas.Proofs.Search.Reach
import CallAtlas.Proofs.Search.Shadowing
import CallAtlas.Proofs.Search.Starts
import CallAtlas.Proofs.Search.Termination
import CallAtlas.Proofs.Source.Agreement
import CallAtlas.Proofs.Source.Dump
import CallAtlas.Proofs.Source.Index
import CallAtlas.Proofs.Source.Listing
import CallAtlas.Proofs.Source.Lookup
import CallAtlas.Proofs.Source.Staleness
import CallAtlas.Proofs.Table
import CallAtlas.Proofs.Term.Coding
import CallAtlas.Proofs.Term.Parts
import CallAtlas.Proofs.Text.Dotted
import CallAtlas.Proofs.Text.Sorted
import CallAtlas.Ref
import CallAtlas.Scan
import CallAtlas.Session
import CallAtlas.Settings
import CallAtlas.SettingsFile
import CallAtlas.Source.Basic
import CallAtlas.Source.Dumps
import CallAtlas.Source.Fault
import CallAtlas.Source.Files
import CallAtlas.Source.Memory
import CallAtlas.Source.Pattern
import CallAtlas.Store
import CallAtlas.Table
import CallAtlas.Term.Basic
import CallAtlas.Term.Coding
import CallAtlas.Text.Basic
import CallAtlas.Text.Blank
import CallAtlas.Text.Cased
import CallAtlas.Text.Dotted
import CallAtlas.Text.Emoji
import CallAtlas.Text.Hex
import CallAtlas.Text.LetterCase
import CallAtlas.Text.Numeral
import CallAtlas.Text.Pieces
import CallAtlas.Text.Printable
import CallAtlas.Text.Quoted
import CallAtlas.Text.Sha256
import CallAtlas.Text.Sorted
import CallAtlas.Text.Stray
import CallAtlas.Text.Units
import CallAtlas.Text.Utf8
import CallAtlas.Text.Whole
import CallAtlas.Text.Width
import CallAtlas.Text.Word
import CallAtlas.Text.WriteFault
import CallAtlas.Tools
import CallAtlas.Workplace
