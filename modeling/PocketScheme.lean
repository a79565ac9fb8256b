import PocketScheme.Address
import PocketScheme.Calendar
import PocketScheme.Checksum
import PocketScheme.Cli.Arguments
import PocketScheme.Cli.Command
import PocketScheme.Cli.Help
import PocketScheme.Cli.Run
import PocketScheme.Codec
import PocketScheme.Decimal.Nearest
import PocketScheme.Decimal.Scientific
import PocketScheme.Environment
import PocketScheme.Eval
import PocketScheme.Expr.Basic
import PocketScheme.Fault
import PocketScheme.FileSystem
import PocketScheme.Form
import PocketScheme.Git
import PocketScheme.Hash
import PocketScheme.Host
import PocketScheme.IpAddress
import PocketScheme.Lockfile.Basic
import PocketScheme.Lockfile.Reader
import PocketScheme.Lockfile.Store
import PocketScheme.Machine
import PocketScheme.Main
import PocketScheme.Manifest.Basic
import PocketScheme.Manifest.Load
import PocketScheme.Manifest.Reader
import PocketScheme.Number.Basic
import PocketScheme.Number.Printer
import PocketScheme.Number.Reader
import PocketScheme.Package.Fetch
import PocketScheme.Package.Program
import PocketScheme.Package.Resolve
import PocketScheme.Path
import PocketScheme.Pattern.Basic
import PocketScheme.Pattern.CharSet
import PocketScheme.Pattern.Reader
import PocketScheme.Primitive
import PocketScheme.Remote
import PocketScheme.Remotes
import PocketScheme.Repl
import PocketScheme.Revision
import PocketScheme.Segment
import PocketScheme.Session
import PocketScheme.Sha256
import PocketScheme.Submodules
import PocketScheme.Text.Base64
import PocketScheme.Text.Basic
import PocketScheme.Text.Blank
import PocketScheme.Text.CaseFold
import PocketScheme.Text.Category
import PocketScheme.Text.Letter
import PocketScheme.Text.LowerCase
import PocketScheme.Text.Printable
import PocketScheme.Text.Quoted
import PocketScheme.Text.Script
import PocketScheme.Text.Utf8
import PocketScheme.Token.Basic
import PocketScheme.Token.Lexer
import PocketScheme.Tree
import PocketScheme.TreePath
import PocketScheme.World
import PocketScheme.Yaml.Chars
import PocketScheme.Yaml.Decode
import PocketScheme.Yaml.Document
import PocketScheme.Yaml.Node
import PocketScheme.Yaml.Printer
import PocketScheme.Yaml.Scalar
import PocketScheme.Yaml.Source
import PocketScheme.Yaml.Tag
import PocketScheme.Yaml.Timestamp
import PocketScheme.Yaml.Token.Basic
import PocketScheme.Yaml.Token.Lexer
import PocketScheme.Yaml.Value
import PocketScheme.Proofs.Checksum
import PocketScheme.Proofs.Checksum.Content
import PocketScheme.Proofs.Decimal.Scientific
import PocketScheme.Proofs.Eval.Clauses
import PocketScheme.Proofs.Eval.Coupling
import PocketScheme.Proofs.Eval.Finishes
import PocketScheme.Proofs.Eval.Frames
import PocketScheme.Proofs.Eval.Points
import PocketScheme.Proofs.Eval.SingleScope
import PocketScheme.Proofs.Eval.Trace
import PocketScheme.Proofs.Eval.Unrelated
import PocketScheme.Proofs.Eval.Values
import PocketScheme.Proofs.Except
import PocketScheme.Proofs.Expr.Equality
import PocketScheme.Proofs.FileSystem.Changing
import PocketScheme.Proofs.FileSystem.Entries
import PocketScheme.Proofs.FileSystem.Following
import PocketScheme.Proofs.FileSystem.Linkless
import PocketScheme.Proofs.Form.Blocks
import PocketScheme.Proofs.Form.Joined
import PocketScheme.Proofs.Form.Parts
import PocketScheme.Proofs.Form.Printing
import PocketScheme.Proofs.Lockfile.Decoding
import PocketScheme.Proofs.Lockfile.Pins
import PocketScheme.Proofs.Lockfile.RoundTrip
import PocketScheme.Proofs.Manifest.Nearest
import PocketScheme.Proofs.Manifest.Validity
import PocketScheme.Proofs.Number.Display
import PocketScheme.Proofs.Number.Grammar
import PocketScheme.Proofs.Number.Spelling
import PocketScheme.Proofs.Package.AllOrNothing
import PocketScheme.Proofs.Package.Availability
import PocketScheme.Proofs.Package.CacheRuns
import PocketScheme.Proofs.Package.Checkouts
import PocketScheme.Proofs.Package.Confinement
import PocketScheme.Proofs.Package.Cycles
import PocketScheme.Proofs.Package.Fetching
import PocketScheme.Proofs.Package.Footprint
import PocketScheme.Proofs.Package.Installing
import PocketScheme.Proofs.Package.Locating
import PocketScheme.Proofs.Package.Order
import PocketScheme.Proofs.Package.Pinning
import PocketScheme.Proofs.Package.Provenance
import PocketScheme.Proofs.Package.Regular
import PocketScheme.Proofs.Package.Reload
import PocketScheme.Proofs.Package.Relocation
import PocketScheme.Proofs.Package.Repeating
import PocketScheme.Proofs.Package.Repositories
import PocketScheme.Proofs.Package.Run
import PocketScheme.Proofs.Package.Transparency
import PocketScheme.Proofs.Path
import PocketScheme.Proofs.Primitive.Arguments
import PocketScheme.Proofs.Primitive.Arithmetic
import PocketScheme.Proofs.Primitive.Comparison
import PocketScheme.Proofs.Primitive.Division
import PocketScheme.Proofs.Session
import PocketScheme.Proofs.Session.Interactive
import PocketScheme.Proofs.Session.Joined
import PocketScheme.Proofs.Session.Pipelines
import PocketScheme.Proofs.Session.Points
import PocketScheme.Proofs.Session.Tracing
import PocketScheme.Proofs.Text.Utf8
import PocketScheme.Proofs.Token.Layout
