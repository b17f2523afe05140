import PluginBindings.Command.Arguments
import PluginBindings.Command.Job
import PluginBindings.Command.Run
import PluginBindings.Decimal.Binary64
import PluginBindings.Decimal.Shortest
import PluginBindings.Descriptor.LineForm
import PluginBindings.Descriptor.Reader
import PluginBindings.Descriptor.Table
import PluginBindings.Event.Reader
import PluginBindings.Event.Registration
import PluginBindings.Files.Output
import PluginBindings.Files.Tree
import PluginBindings.Generator
import PluginBindings.Json.Cursor
import PluginBindings.Json.Ignore
import PluginBindings.Json.Number
import PluginBindings.Json.Problem
import PluginBindings.Json.Quoted
import PluginBindings.Json.Record
import PluginBindings.Json.String
import PluginBindings.Json.Value
import PluginBindings.Main
import PluginBindings.Preference.Kind
import PluginBindings.Preference.Reader
import PluginBindings.Proofs.Command.Effect
import PluginBindings.Proofs.Command.Inputs
import PluginBindings.Proofs.Descriptor.Extraction
import PluginBindings.Proofs.Descriptor.Grammar
import PluginBindings.Proofs.Descriptor.LineForm
import PluginBindings.Proofs.Descriptor.Rendering
import PluginBindings.Proofs.Descriptor.Sheet
import PluginBindings.Proofs.Descriptor.Table
import PluginBindings.Proofs.Event.Compilation
import PluginBindings.Proofs.Event.Records
import PluginBindings.Proofs.Files.Output
import PluginBindings.Proofs.Files.Place
import PluginBindings.Proofs.Files.Tree
import PluginBindings.Proofs.Preference.Rows
import PluginBindings.Proofs.Report.Reading
import PluginBindings.Proofs.Signature.Declaration
import PluginBindings.Proofs.Signature.Deletion
import PluginBindings.Proofs.Signature.Forwarded
import PluginBindings.Proofs.Signature.Handle
import PluginBindings.Proofs.Signature.Inline
import PluginBindings.Proofs.Signature.LineNames
import PluginBindings.Proofs.Signature.ParameterList
import PluginBindings.Proofs.Signature.Remaining
import PluginBindings.Proofs.Signature.Rescan
import PluginBindings.Proofs.Signature.Segments
import PluginBindings.Proofs.Signature.Stacked
import PluginBindings.Proofs.Signature.Verbatim
import PluginBindings.Proofs.Signature.Wrapper
import PluginBindings.Proofs.Text.Cut
import PluginBindings.Proofs.Text.Lines
import PluginBindings.Proofs.Text.Runs
import PluginBindings.Proofs.Text.Scan
import PluginBindings.Registration
import PluginBindings.Report.Fault
import PluginBindings.Report.Notice
import PluginBindings.Report.Outcome
import PluginBindings.Settings.Basic
import PluginBindings.Settings.Reader
import PluginBindings.Signature.Basic
import PluginBindings.Signature.Declaration
import PluginBindings.Signature.Handle
import PluginBindings.Signature.Parameter
import PluginBindings.Signature.Pattern
import PluginBindings.Signature.Wrapper
import PluginBindings.Text.Basic
import PluginBindings.Text.Blank
import PluginBindings.Text.Escaped
import PluginBindings.Text.Line
import PluginBindings.Text.Scan
import PluginBindings.Text.TitleCase
import PluginBindings.Text.Word
import PluginBindings.Unicode.Bounds
import PluginBindings.Unicode.Case
import PluginBindings.Unicode.Cased
import PluginBindings.Unicode.Hidden
import PluginBindings.Unicode.Word
import PluginBindings.Proofs.Command.Sequence
import PluginBindings.Proofs.Command.Recheck
import PluginBindings.Proofs.Signature.Headers
import PluginBindings.Proofs.Signature.Independence
import PluginBindings.Proofs.Descriptor.Literal
import PluginBindings.Proofs.Signature.Standing
import PluginBindings.Proofs.Signature.Layout
import PluginBindings.Proofs.Text.Returns
import PluginBindings.Proofs.Text.Carries
import PluginBindings.Proofs.Signature.Returns
import PluginBindings.Proofs.Descriptor.Collection
import PluginBindings.Proofs.Event.Resolution
import PluginBindings.Proofs.Event.Stride
import PluginBindings.Proofs.Text.TitleCase
import PluginBindings.Proofs.Event.Unambiguous
import PluginBindings.Proofs.Preference.RowForm
import PluginBindings.Proofs.Preference.Sheet
import PluginBindings.Proofs.Preference.Registration
import PluginBindings.Proofs.Descriptor.ArrayKey
import PluginBindings.Proofs.Text.JoinedWords
import PluginBindings.Proofs.Files.Comparison
import PluginBindings.Proofs.Json.Grammar
import PluginBindings.Proofs.Json.Reads
import PluginBindings.Proofs.Json.Numbers
import PluginBindings.Proofs.Json.Skipping
import PluginBindings.Proofs.Json.Record
import PluginBindings.Proofs.Settings.Reading
import PluginBindings.Proofs.Json.Quoting
import PluginBindings.Proofs.Report.Wording
import PluginBindings.Proofs.Report.Diagnostics
