import EntityScaffold.Main
import EntityScaffold.Overview
import EntityScaffold.Proofs.FieldLine
import EntityScaffold.Proofs.Reading
import EntityScaffold.Proofs.Lines
import EntityScaffold.Proofs.Literal
import EntityScaffold.Proofs.Attributes
import EntityScaffold.Proofs.Components
import EntityScaffold.Proofs.Loading
import EntityScaffold.Proofs.Planning
import EntityScaffold.Proofs.Spelling
import EntityScaffold.Proofs.Placement
import EntityScaffold.Proofs.Collisions
import EntityScaffold.Proofs.ClauseText
import EntityScaffold.Proofs.Row
import EntityScaffold.Proofs.Formatting
import EntityScaffold.Proofs.RoundTrip
import EntityScaffold.Proofs.Steady
import EntityScaffold.Proofs.Rewriting
import EntityScaffold.Proofs.Binding
import EntityScaffold.Proofs.Emission
import EntityScaffold.Proofs.KeySearch
import EntityScaffold.Proofs.ClauseScan
import EntityScaffold.Proofs.Arguments
import EntityScaffold.Proofs.ClauseExtent
import EntityScaffold.Proofs.AttributeOrder
import EntityScaffold.Proofs.OpaqueName
import EntityScaffold.Proofs.WrittenClause
import EntityScaffold.Proofs.PrintedLine
import EntityScaffold.Proofs.Keeping
import EntityScaffold.Proofs.Strictness
import EntityScaffold.Proofs.LineByLine
import EntityScaffold.Proofs.Lockstep
import EntityScaffold.Proofs.Concatenation
import EntityScaffold.Proofs.Alike
import EntityScaffold.Proofs.Scheduling
import EntityScaffold.Proofs.Blocks
import EntityScaffold.Proofs.Writing
import EntityScaffold.Proofs.References
import EntityScaffold.Proofs.LineOffset
import EntityScaffold.Proofs.ClauseOffset
import EntityScaffold.Proofs.FieldOffset
import EntityScaffold.Proofs.DocumentOffset
import EntityScaffold.Proofs.Fate
import EntityScaffold.Proofs.PlanOutcome
import EntityScaffold.Proofs.Listing
import EntityScaffold.Proofs.Picks
import EntityScaffold.Proofs.CycleBreaks
import EntityScaffold.Proofs.Reordering
import EntityScaffold.Proofs.Agreement
import EntityScaffold.Proofs.Imports
import EntityScaffold.Proofs.BackReference
import EntityScaffold.Proofs.Connecting
import EntityScaffold.Proofs.QueryBounds
import EntityScaffold.Proofs.PluralAgain
import EntityScaffold.Proofs.ClauseSpacing
import EntityScaffold.Proofs.Alignment
import EntityScaffold.Proofs.LiteralScan
import EntityScaffold.Proofs.Brackets
