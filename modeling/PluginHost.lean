import PluginHost.Archive.Deflate
import PluginHost.Archive.Gzip
import PluginHost.Archive.Tar
import PluginHost.Capability
import PluginHost.Chat.Address
import PluginHost.Chat.Conversation
import PluginHost.Chat.Provider
import PluginHost.Chat.ToolMessage
import PluginHost.CommandLine.Arguments
import PluginHost.CommandLine.Help
import PluginHost.CommandLine.Outcome
import PluginHost.Decimal.Double
import PluginHost.Decimal.Extended
import PluginHost.Decimal.Integer
import PluginHost.Decimal.Layout
import PluginHost.Decimal.Reading
import PluginHost.Decimal.Shortest
import PluginHost.Error
import PluginHost.Files.Path
import PluginHost.Files.Tree
import PluginHost.Gateway.Body
import PluginHost.Gateway.CallRequest
import PluginHost.Gateway.Failure
import PluginHost.Gateway.Headers
import PluginHost.Gateway.Memory
import PluginHost.Gateway.Message
import PluginHost.Gateway.Router
import PluginHost.Host.Assembly
import PluginHost.Host.Inspection
import PluginHost.Host.Serving
import PluginHost.Json.Basic
import PluginHost.Json.Fault
import PluginHost.Json.Pointer
import PluginHost.Json.Printer
import PluginHost.Json.Reader
import PluginHost.Json.Record
import PluginHost.KeyedList
import PluginHost.Main
import PluginHost.Manifest
import PluginHost.Pattern.Basic
import PluginHost.Pattern.Reader
import PluginHost.Plugin.Basic
import PluginHost.Plugin.Bundle
import PluginHost.Plugin.Catalog
import PluginHost.Plugin.CoreText
import PluginHost.Plugin.Factories
import PluginHost.Plugin.Lifecycle
import PluginHost.Plugin.Manager
import PluginHost.Schema.Basic
import PluginHost.Schema.Compilation
import PluginHost.Schema.Dialect
import PluginHost.Schema.Equality
import PluginHost.Schema.Fault
import PluginHost.Schema.Reference
import PluginHost.Schema.Validation
import PluginHost.Settings.Basic
import PluginHost.Settings.Diagnostic
import PluginHost.Settings.Environment
import PluginHost.Settings.Extraction
import PluginHost.Settings.Fault
import PluginHost.Settings.Loading
import PluginHost.Settings.Report
import PluginHost.Settings.Suggestion
import PluginHost.Settings.Tree
import PluginHost.Settings.Validation
import PluginHost.Text.Blank
import PluginHost.Text.Classes
import PluginHost.Text.Quoted
import PluginHost.Text.Similarity
import PluginHost.Text.Utf8
import PluginHost.Text.Words
import PluginHost.Time.Span
import PluginHost.Toml.Basic
import PluginHost.Toml.Document
import PluginHost.Toml.Number
import PluginHost.Toml.Reader
import PluginHost.Toml.Table
import PluginHost.Toml.Text
import PluginHost.Tool.Arguments
import PluginHost.Tool.Binding
import PluginHost.Tool.Coercion
import PluginHost.Tool.Definition
import PluginHost.Tool.Invocation
import PluginHost.Tool.ParamType
import PluginHost.Tool.Registry
import PluginHost.Version.Basic
import PluginHost.Version.Constraint
import PluginHost.Version.Parser
import PluginHost.Version.Resolution
import PluginHost.Warning
import PluginHost.Proofs.Admission.Gates
import PluginHost.Proofs.Admission.Run
import PluginHost.Proofs.Admission.Calls
import PluginHost.Proofs.Admission.Loaded
import PluginHost.Proofs.Lifecycle.Interleaving
import PluginHost.Proofs.Lifecycle.OneLife
import PluginHost.Proofs.Tool.Binding
import PluginHost.Proofs.Tool.Preparation
import PluginHost.Proofs.Text.ByteOrder
import PluginHost.Proofs.Chat.Posts
import PluginHost.Proofs.Chat.ToolAnswers
import PluginHost.Proofs.Host.Calls
import PluginHost.Proofs.Host.Shutdown
import PluginHost.Proofs.Tool.Catalogue
import PluginHost.Proofs.Admission.Isolation
import PluginHost.Proofs.Admission.Directory
import PluginHost.Proofs.Gateway.CallTool
import PluginHost.Proofs.Host.Closing
import PluginHost.Proofs.Host.Verdict
import PluginHost.Proofs.Host.CoreTools
import PluginHost.Proofs.Settings.Loading
import PluginHost.Proofs.Tool.AdvertisedType
import PluginHost.Proofs.Tool.BindingByName
import PluginHost.Proofs.Tool.Coercion
import PluginHost.Proofs.Tool.Deadline
import PluginHost.Proofs.Tool.SameCourse
import PluginHost.Proofs.Version.Canonical
import PluginHost.Proofs.Version.Resolution
import PluginHost.Proofs.Tool.NumericTexts
import PluginHost.Proofs.Tool.SuppliedArguments
import PluginHost.Proofs.Capability.Refusal
import PluginHost.Proofs.Chat.ArgumentSpellings
import PluginHost.Proofs.Manifest.Acceptance
import PluginHost.Proofs.Manifest.Writing
import PluginHost.Proofs.Settings.Capabilities
import PluginHost.Proofs.Host.Report
import PluginHost.Proofs.Host.ManifestFile
import PluginHost.Proofs.Archive.FirstManifest
import PluginHost.Proofs.Tool.SingleSpaces
import PluginHost.Proofs.Settings.KeySection
import PluginHost.Proofs.Settings.KeyVariable
import PluginHost.Proofs.Settings.Rules
import PluginHost.Proofs.Settings.VariableOrder
import PluginHost.Proofs.Host.Readiness
import PluginHost.Proofs.Gateway.Memory
