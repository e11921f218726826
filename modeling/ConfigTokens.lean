import ConfigTokens.Assoc
import ConfigTokens.Base64
import ConfigTokens.Base64.Padded
import ConfigTokens.Binary64.Basic
import ConfigTokens.Binary64.Places
import ConfigTokens.Binary64.Shortest
import ConfigTokens.Callback.Adapter
import ConfigTokens.Callback.Coroutine
import ConfigTokens.Callback.Loop
import ConfigTokens.Callback.Schedule
import ConfigTokens.Codec.Basic
import ConfigTokens.Codec.Decode
import ConfigTokens.Codec.Names
import ConfigTokens.Codec.TableDos
import ConfigTokens.Codec.TableIso
import ConfigTokens.Codec.TableVendor
import ConfigTokens.Codec.TableWindows
import ConfigTokens.Codec.Unicode
import ConfigTokens.Digest.Sha1
import ConfigTokens.EnvToken.Basic
import ConfigTokens.EnvToken.Filter
import ConfigTokens.Failure.Envelope
import ConfigTokens.Failure.Thrown
import ConfigTokens.FileTree.Basic
import ConfigTokens.FileTree.Lookup
import ConfigTokens.Glob.Search
import ConfigTokens.Glob.Walk
import ConfigTokens.Handler.Awaited
import ConfigTokens.Handler.Basic
import ConfigTokens.Handler.Call
import ConfigTokens.Handler.Name
import ConfigTokens.Host
import ConfigTokens.Json.Basic
import ConfigTokens.Json.Reader
import ConfigTokens.Json.Shown
import ConfigTokens.Json.Writer
import ConfigTokens.Log.Event
import ConfigTokens.Log.Line
import ConfigTokens.Log.Percent
import ConfigTokens.Log.Record
import ConfigTokens.Log.Setup
import ConfigTokens.Module.Body
import ConfigTokens.Module.Build
import ConfigTokens.Module.Builtin
import ConfigTokens.Module.Bytecode
import ConfigTokens.Module.Execute
import ConfigTokens.Module.Import
import ConfigTokens.Module.Literal
import ConfigTokens.Module.Load
import ConfigTokens.Module.Program
import ConfigTokens.Module.Reference
import ConfigTokens.Module.Site
import ConfigTokens.Module.Target
import ConfigTokens.Module.Value
import ConfigTokens.Module.World
import ConfigTokens.Options.Field
import ConfigTokens.Options.File
import ConfigTokens.Options.Glob
import ConfigTokens.Options.Issue
import ConfigTokens.Path.Anchor
import ConfigTokens.Path.Basic
import ConfigTokens.Proofs.Base64.Bytes
import ConfigTokens.Proofs.Base64.Spelling
import ConfigTokens.Proofs.Binary64.Natural
import ConfigTokens.Proofs.Callback.Course
import ConfigTokens.Proofs.Callback.Delivery
import ConfigTokens.Proofs.Callback.Interleaving
import ConfigTokens.Proofs.Callback.Making
import ConfigTokens.Proofs.Callback.Undisturbed
import ConfigTokens.Proofs.EnvToken.Grammar
import ConfigTokens.Proofs.EnvToken.Integer
import ConfigTokens.Proofs.EnvToken.Overlong
import ConfigTokens.Proofs.EnvToken.ParseInt
import ConfigTokens.Proofs.Failure.Cause
import ConfigTokens.Proofs.Failure.DeepData
import ConfigTokens.Proofs.Failure.Nested
import ConfigTokens.Proofs.Failure.Provenance
import ConfigTokens.Proofs.FileTree.Cycles
import ConfigTokens.Proofs.FileTree.Descent
import ConfigTokens.Proofs.FileTree.Detours
import ConfigTokens.Proofs.FileTree.LastName
import ConfigTokens.Proofs.FileTree.Names
import ConfigTokens.Proofs.FileTree.Resolved
import ConfigTokens.Proofs.Glob.Answers
import ConfigTokens.Proofs.Glob.Anywhere
import ConfigTokens.Proofs.Glob.Bounds
import ConfigTokens.Proofs.Glob.Climbing
import ConfigTokens.Proofs.Glob.Distinct
import ConfigTokens.Proofs.Glob.Finds
import ConfigTokens.Proofs.Glob.Here
import ConfigTokens.Proofs.Glob.Ignored
import ConfigTokens.Proofs.Glob.Lower
import ConfigTokens.Proofs.Glob.Order
import ConfigTokens.Proofs.Glob.Room
import ConfigTokens.Proofs.Glob.Spelled
import ConfigTokens.Proofs.Glob.Standing
import ConfigTokens.Proofs.Glob.Stays
import ConfigTokens.Proofs.Glob.Walk
import ConfigTokens.Proofs.Handler.Base
import ConfigTokens.Proofs.Handler.Contents
import ConfigTokens.Proofs.Handler.Elsewhere
import ConfigTokens.Proofs.Handler.Encoding
import ConfigTokens.Proofs.Handler.Mapping
import ConfigTokens.Proofs.Import.Name
import ConfigTokens.Proofs.Import.Relative
import ConfigTokens.Proofs.Import.Searchable
import ConfigTokens.Proofs.Import.Submodule
import ConfigTokens.Proofs.Invocation.Counting
import ConfigTokens.Proofs.Invocation.Execute
import ConfigTokens.Proofs.Isolation.Alike
import ConfigTokens.Proofs.Isolation.Body
import ConfigTokens.Proofs.Isolation.Couple
import ConfigTokens.Proofs.Isolation.Load
import ConfigTokens.Proofs.Isolation.Registries
import ConfigTokens.Proofs.Json.RoundTrip
import ConfigTokens.Proofs.Json.Scalars
import ConfigTokens.Proofs.Log.Line
import ConfigTokens.Proofs.Log.Setup
import ConfigTokens.Proofs.Meaning.Body
import ConfigTokens.Proofs.Meaning.Faithful
import ConfigTokens.Proofs.Meaning.Load
import ConfigTokens.Proofs.Meaning.Making
import ConfigTokens.Proofs.Meaning.Means
import ConfigTokens.Proofs.Meaning.Order
import ConfigTokens.Proofs.Meaning.View
import ConfigTokens.Proofs.Nesting.Bound
import ConfigTokens.Proofs.Nesting.Consistent
import ConfigTokens.Proofs.Nesting.Cycle
import ConfigTokens.Proofs.Nesting.Guarded
import ConfigTokens.Proofs.Nesting.Reentry
import ConfigTokens.Proofs.Nesting.SoFar
import ConfigTokens.Proofs.Options.Glob
import ConfigTokens.Proofs.Path.Climb
import ConfigTokens.Proofs.Path.Composed
import ConfigTokens.Proofs.Path.Resolved
import ConfigTokens.Proofs.Path.Segments
import ConfigTokens.Proofs.Registry.Accounting
import ConfigTokens.Proofs.Registry.Aim
import ConfigTokens.Proofs.Registry.Calls
import ConfigTokens.Proofs.Registry.Change
import ConfigTokens.Proofs.Registry.Event
import ConfigTokens.Proofs.Registry.Failure
import ConfigTokens.Proofs.Registry.History
import ConfigTokens.Proofs.Registry.Identity
import ConfigTokens.Proofs.Registry.Kind
import ConfigTokens.Proofs.Registry.Ledger
import ConfigTokens.Proofs.Registry.Loads
import ConfigTokens.Proofs.Registry.Requirement
import ConfigTokens.Proofs.Run.Agree
import ConfigTokens.Proofs.Run.Body
import ConfigTokens.Proofs.Run.Bytecode
import ConfigTokens.Proofs.Run.Call
import ConfigTokens.Proofs.Run.Layer
import ConfigTokens.Proofs.Run.Load
import ConfigTokens.Proofs.Run.Ordinary
import ConfigTokens.Proofs.Run.Promise
import ConfigTokens.Proofs.Run.Regime
import ConfigTokens.Proofs.Settings.Unset
import ConfigTokens.Proofs.Table.Failure
import ConfigTokens.Proofs.Table.Standing
import ConfigTokens.Proofs.Table.Takeover
import ConfigTokens.Proofs.Text.Decimal
import ConfigTokens.Proofs.Wildcard.Covers
import ConfigTokens.Proofs.Wildcard.Groups
import ConfigTokens.Settings.Assignments
import ConfigTokens.Settings.Basic
import ConfigTokens.Text.Blank
import ConfigTokens.Text.CodeRange
import ConfigTokens.Text.Cut
import ConfigTokens.Text.Digits
import ConfigTokens.Text.LineEnds
import ConfigTokens.Text.Printable
import ConfigTokens.Text.Quoted
import ConfigTokens.Text.Uppercase
import ConfigTokens.Text.Utf8
import ConfigTokens.Text.WordChar
import ConfigTokens.Wildcard.Bracket
import ConfigTokens.Wildcard.Pattern
import ConfigTokens.Wildcard.Segments
