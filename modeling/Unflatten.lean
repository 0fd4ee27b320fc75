import Unflatten.Calendar.Date
import Unflatten.Calendar.Format
import Unflatten.Calendar.Time
import Unflatten.CellText
import Unflatten.Claims
import Unflatten.CommandLine.Command
import Unflatten.CommandLine.Options
import Unflatten.CommandLine.Run
import Unflatten.Condition.Basic
import Unflatten.Condition.Datum
import Unflatten.Condition.Function
import Unflatten.Condition.Lexeme
import Unflatten.Condition.Node
import Unflatten.ConstructorChoice
import Unflatten.Conversion
import Unflatten.Custom
import Unflatten.Delimited.DeclaredTypes
import Unflatten.Delimited.Delimiter
import Unflatten.Delimited.Records
import Unflatten.Delimited.Source
import Unflatten.Entries
import Unflatten.Failure
import Unflatten.Guid
import Unflatten.Header
import Unflatten.Hex
import Unflatten.Main
import Unflatten.Mapper
import Unflatten.MapperStore
import Unflatten.Markup
import Unflatten.MemberPath
import Unflatten.Number.Arithmetic
import Unflatten.Number.Decimal
import Unflatten.Number.Digits
import Unflatten.Number.FixedInt
import Unflatten.Number.Floating
import Unflatten.Number.Power
import Unflatten.Number.Shortest
import Unflatten.Planning.Dictionary
import Unflatten.Planning.Instance
import Unflatten.Planning.Leaf
import Unflatten.Planning.Pass
import Unflatten.Planning.Sequence
import Unflatten.Planning.Strategy
import Unflatten.Program.Basic
import Unflatten.Program.Run
import Unflatten.Program.Text
import Unflatten.Proofs.Building.Declarations
import Unflatten.Proofs.Building.Drafts
import Unflatten.Proofs.Building.Inheritance
import Unflatten.Proofs.Building.Merging
import Unflatten.Proofs.Building.Shapes
import Unflatten.Proofs.Building.Steps
import Unflatten.Proofs.Building.Visits
import Unflatten.Proofs.Choice.AbstractTypes
import Unflatten.Proofs.Choice.Agreement
import Unflatten.Proofs.Choice.Arguments
import Unflatten.Proofs.Choice.Instances
import Unflatten.Proofs.Choice.Makings
import Unflatten.Proofs.Choice.Optimum
import Unflatten.Proofs.Choice.Progress
import Unflatten.Proofs.Conditions.Names
import Unflatten.Proofs.Conformance.Basic
import Unflatten.Proofs.Conformance.Members
import Unflatten.Proofs.Conformance.Objects
import Unflatten.Proofs.Conformance.Runs
import Unflatten.Proofs.Conformance.Soundness
import Unflatten.Proofs.Construction.Cells
import Unflatten.Proofs.Construction.Columns
import Unflatten.Proofs.Construction.Constructors
import Unflatten.Proofs.Construction.Flat
import Unflatten.Proofs.Construction.Instances
import Unflatten.Proofs.Conversion
import Unflatten.Proofs.Conversion.Exactness
import Unflatten.Proofs.Conversion.PassThrough
import Unflatten.Proofs.Conversion.TextCells
import Unflatten.Proofs.Dispatch.Mappers
import Unflatten.Proofs.Dispatch.Policies
import Unflatten.Proofs.Dispatch.Single
import Unflatten.Proofs.Entries
import Unflatten.Proofs.Expressions.Lookups
import Unflatten.Proofs.Expressions.RoundTrip
import Unflatten.Proofs.Expressions.Tokens
import Unflatten.Proofs.Flattening.Flatten
import Unflatten.Proofs.Flattening.Names
import Unflatten.Proofs.Flattening.Records
import Unflatten.Proofs.Flattening.RoundTrip
import Unflatten.Proofs.Keys.Decoding
import Unflatten.Proofs.Keys.Histories
import Unflatten.Proofs.Keys.LateBinding
import Unflatten.Proofs.Keys.Mappers
import Unflatten.Proofs.Keys.Objects
import Unflatten.Proofs.Keys.Reach
import Unflatten.Proofs.Keys.Replanning
import Unflatten.Proofs.Keys.Sessions
import Unflatten.Proofs.Keys.Soundness
import Unflatten.Proofs.Keys.Token
import Unflatten.Proofs.LetterCase
import Unflatten.Proofs.LetterCase.Lengths
import Unflatten.Proofs.LetterCase.Surroundings
import Unflatten.Proofs.MemberMaps.Contents
import Unflatten.Proofs.MemberMaps.Mappers
import Unflatten.Proofs.MemberMaps.Properties
import Unflatten.Proofs.MemberMaps.Spellings
import Unflatten.Proofs.Nesting.Elements
import Unflatten.Proofs.Nesting.Narrowing
import Unflatten.Proofs.Nesting.Shallow
import Unflatten.Proofs.Nesting.Termination
import Unflatten.Proofs.Planning.Assembly
import Unflatten.Proofs.Planning.Block
import Unflatten.Proofs.Planning.Closure
import Unflatten.Proofs.Planning.Containers
import Unflatten.Proofs.Planning.Instances
import Unflatten.Proofs.Planning.Linearity
import Unflatten.Proofs.Planning.LocalMembers
import Unflatten.Proofs.Planning.LocalObjects
import Unflatten.Proofs.Planning.Locality
import Unflatten.Proofs.Planning.Outcome
import Unflatten.Proofs.Planning.Planned
import Unflatten.Proofs.Planning.Planners
import Unflatten.Proofs.Planning.Reading
import Unflatten.Proofs.Planning.Scopes
import Unflatten.Proofs.Program.Blank
import Unflatten.Proofs.Program.FieldChanges
import Unflatten.Proofs.Program.Guarded
import Unflatten.Proofs.Program.Ledger
import Unflatten.Proofs.Program.Meanings
import Unflatten.Proofs.Program.Outcomes
import Unflatten.Proofs.Program.Path
import Unflatten.Proofs.Program.Renaming
import Unflatten.Proofs.Program.RunFrame
import Unflatten.Proofs.Program.StrictRun
import Unflatten.Proofs.References.Containers
import Unflatten.Proofs.References.Counterparts
import Unflatten.Proofs.References.Objects
import Unflatten.Proofs.References.Transparency
import Unflatten.Proofs.Reordering.Columns
import Unflatten.Proofs.Reordering.Declarations
import Unflatten.Proofs.Reordering.Lockstep
import Unflatten.Proofs.Reordering.Mappers
import Unflatten.Proofs.Reordering.Objects
import Unflatten.Proofs.Reordering.Properties
import Unflatten.Proofs.Repetition.Elements
import Unflatten.Proofs.Repetition.Mappers
import Unflatten.Proofs.Rows.Cells
import Unflatten.Proofs.Rows.Leaves
import Unflatten.Proofs.Rows.Sinks
import Unflatten.Proofs.Rows.WholeRow
import Unflatten.Proofs.Scalars.Bytes
import Unflatten.Proofs.Scalars.Casts
import Unflatten.Proofs.Scalars.Decimals
import Unflatten.Proofs.Scalars.Enumerations
import Unflatten.Proofs.Scalars.Identifiers
import Unflatten.Proofs.Scalars.Integers
import Unflatten.Proofs.Scalars.Moments
import Unflatten.Proofs.Scalars.RoundTrip
import Unflatten.Proofs.Scalars.Trimming
import Unflatten.Proofs.Scopes.Groups
import Unflatten.Proofs.Scopes.Offsets
import Unflatten.Proofs.Scopes.Paths
import Unflatten.Proofs.Scopes.Resolution
import Unflatten.Proofs.Sources.Declared
import Unflatten.Proofs.Sources.Delimited
import Unflatten.Proofs.Sources.Requests
import Unflatten.Proofs.Sources.ResultSets
import Unflatten.Proofs.Unplannable.Accord
import Unflatten.Proofs.Unplannable.Members
import Unflatten.Proofs.Unplannable.Roots
import Unflatten.Proofs.Updates.Accumulation
import Unflatten.Proofs.Updates.Completeness
import Unflatten.Proofs.Updates.Filling
import Unflatten.Proofs.Updates.InPlace
import Unflatten.Proofs.Updates.Kept
import Unflatten.Proofs.Updates.Repeated
import Unflatten.Proofs.Updates.Spelling
import Unflatten.Proofs.Updates.Starts
import Unflatten.Row
import Unflatten.RowSource
import Unflatten.ScalarType
import Unflatten.Scope
import Unflatten.Settings
import Unflatten.Shape.Basic
import Unflatten.Shape.Member
import Unflatten.Shape.Outline
import Unflatten.Table
import Unflatten.Target.Basic
import Unflatten.Target.Expression
import Unflatten.Target.Token
import Unflatten.Text.Basic
import Unflatten.Text.Case
import Unflatten.Text.CaseTable
import Unflatten.Text.Class
import Unflatten.Text.ClassTable
import Unflatten.Text.HiddenTable
import Unflatten.Text.Quoted
import Unflatten.Value.Basic
import Unflatten.Value.Json
import Unflatten.Vocabulary
import Unflatten.Yaml.Lexeme
import Unflatten.Yaml.Reader
