import FormLogic.Calendar
import FormLogic.CommandLine.Arguments
import FormLogic.CommandLine.Run
import FormLogic.Condition.Basic
import FormLogic.Condition.Codec
import FormLogic.Condition.Compact
import FormLogic.Condition.Compare
import FormLogic.Dict
import FormLogic.Double.Basic
import FormLogic.Double.Shortest
import FormLogic.Double.Text
import FormLogic.Json.Basic
import FormLogic.Json.Parser
import FormLogic.Json.Parser.Fault
import FormLogic.Json.Parser.Numbers
import FormLogic.Json.Parser.Strings
import FormLogic.Json.Printer
import FormLogic.Json.Shape
import FormLogic.Message.Catalog
import FormLogic.Message.RuleKey
import FormLogic.Path
import FormLogic.Pattern.Alphabet
import FormLogic.Pattern.Basic
import FormLogic.Pattern.Bracket
import FormLogic.Pattern.Escape
import FormLogic.Pattern.Flags
import FormLogic.Pattern.Match
import FormLogic.Pattern.Parser
import FormLogic.Pattern.Weight
import FormLogic.Proofs.Dict
import FormLogic.Proofs.Except
import FormLogic.Proofs.Path.Segments
import FormLogic.Proofs.Schema.Descent
import FormLogic.Proofs.Validation.Ancestors
import FormLogic.Proofs.Validation.Locate
import FormLogic.Proofs.Validation.Messages
import FormLogic.Proofs.Validation.Rules
import FormLogic.Proofs.Validation.Scope
import FormLogic.Proofs.Validation.Visits
import FormLogic.Remote.Search
import FormLogic.Remote.Ticket
import FormLogic.Remote.Upload
import FormLogic.Schema.Codec
import FormLogic.Schema.Description
import FormLogic.Schema.Form
import FormLogic.Schema.Kind
import FormLogic.Schema.Lookup
import FormLogic.Schema.Rules
import FormLogic.Template.Layout
import FormLogic.Template.Render
import FormLogic.Template.Syntax
import FormLogic.Template.Tag
import FormLogic.Template.Tree
import FormLogic.Text.Blank
import FormLogic.Text.CharSet
import FormLogic.Text.Printable
import FormLogic.Text.Quoted
import FormLogic.Text.Split
import FormLogic.Text.Utf8
import FormLogic.Unicode.CaseOrbit
import FormLogic.Unicode.Category
import FormLogic.Unicode.Composition
import FormLogic.Unicode.CursiveJoining
import FormLogic.Unicode.Direction
import FormLogic.Unicode.DomainMapping
import FormLogic.Unicode.Property
import FormLogic.Unicode.Script
import FormLogic.Unicode.ScriptExtension
import FormLogic.Unicode.Table
import FormLogic.Url.Address
import FormLogic.Url.Basic
import FormLogic.Url.Domain
import FormLogic.Url.Parser
import FormLogic.Url.Percent
import FormLogic.Url.Punycode
import FormLogic.Url.Query
import FormLogic.Url.Route
import FormLogic.Validation.Check
import FormLogic.Validation.Defect
import FormLogic.Validation.Field
import FormLogic.Validation.Form
import FormLogic.Visibility
import FormLogic.Main
import FormLogic.Proofs.Condition.Compact
import FormLogic.Proofs.Validation.Paths
import FormLogic.Proofs.Validation.Gates
import FormLogic.Proofs.Validation.Visible
import FormLogic.Proofs.Json.Record
import FormLogic.Proofs.Condition.RoundTrip
import FormLogic.Proofs.Schema.Rules
import FormLogic.Proofs.Json.Ordered
import FormLogic.Proofs.Schema.Reading
import FormLogic.Proofs.Schema.Positions
import FormLogic.Proofs.Schema.RoundTrip
import FormLogic.Proofs.Json.Parsed
import FormLogic.Proofs.Condition.Meaning
import FormLogic.Proofs.Schema.FieldOrGroup
import FormLogic.Proofs.Condition.Flattened
import FormLogic.Proofs.Pattern.Email
import FormLogic.Proofs.Validation.Occurrences
import FormLogic.Proofs.Validation.Defects
import FormLogic.Proofs.Validation.FirstDefect
import FormLogic.Proofs.Schema.Strip
import FormLogic.Proofs.Validation.Strip
import FormLogic.Proofs.Validation.Metadata
import FormLogic.Proofs.Schema.Change
import FormLogic.Proofs.Validation.Attached
import FormLogic.Proofs.Validation.Entries
import FormLogic.Proofs.Schema.Layout
import FormLogic.Proofs.Validation.Layout
import FormLogic.Proofs.Path.Lookup
import FormLogic.Proofs.Validation.Values
import FormLogic.Proofs.Validation.Single
import FormLogic.Proofs.Json.Nulls
import FormLogic.Proofs.Validation.Nulls
import FormLogic.Proofs.Message.Layers
import FormLogic.Proofs.Validation.Wording
import FormLogic.Proofs.Double.Rounding
import FormLogic.Proofs.Condition.Integers
import FormLogic.Proofs.Remote.Tickets
import FormLogic.Proofs.Schema.Nesting
import FormLogic.Proofs.Visibility
import FormLogic.Proofs.CommandLine.Verdict
import FormLogic.Proofs.Condition.Opposite
import FormLogic.Proofs.Condition.Equality
import FormLogic.Proofs.Validation.Acceptance
import FormLogic.Proofs.Validation.Fillable
import FormLogic.Proofs.Validation.NumberRange
import FormLogic.Proofs.Pattern.Meaning
import FormLogic.Proofs.Pattern.Address
import FormLogic.Proofs.Validation.EmailCheck
import FormLogic.Proofs.Template.Placeholders
import FormLogic.Proofs.Message.Placeholders
import FormLogic.Proofs.Validation.BoundWording
import FormLogic.Proofs.Path.Joined
import FormLogic.Proofs.Condition.Grammar
import FormLogic.Proofs.Text.Utf8
import FormLogic.Proofs.Url.Query
import FormLogic.Proofs.Remote.Requests
import FormLogic.Proofs.Schema.Chains
import FormLogic.Proofs.Schema.Focus
import FormLogic.Proofs.Validation.Naming
