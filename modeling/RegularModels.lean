import RegularModels.Main
import RegularModels.Workspace
import RegularModels.Proofs.Text.Trimmed
import RegularModels.Proofs.Text.Breaks
import RegularModels.Proofs.Text.OneLine
import RegularModels.Proofs.Text.Spacing
import RegularModels.Proofs.Changes
import RegularModels.Proofs.Guarded
import RegularModels.Proofs.Refusals
import RegularModels.Proofs.Entries
import RegularModels.Proofs.Grouping
import RegularModels.Proofs.Sorting
import RegularModels.Proofs.Automaton.Acceptance
import RegularModels.Proofs.Automaton.Recognition
import RegularModels.Proofs.Automaton.Verdicts
import RegularModels.Proofs.Automaton.Completeness
import RegularModels.Proofs.Automaton.Reachable
import RegularModels.Proofs.Grammar.Reachable
import RegularModels.Proofs.Grammar.Derivation
import RegularModels.Proofs.Grammar.Classification
import RegularModels.Proofs.Grammar.Guards
import RegularModels.Proofs.Conversion.Branches
import RegularModels.Proofs.Conversion.Twins
import RegularModels.Proofs.Automaton.Connection
import RegularModels.Proofs.Automaton.Guards
import RegularModels.Proofs.Conversion.Construction
import RegularModels.Proofs.Conversion.GrammarLanguage
import RegularModels.Proofs.Conversion.NewStates
import RegularModels.Proofs.Conversion.Determinism
import RegularModels.Proofs.Conversion.ProductionOrder
import RegularModels.Proofs.Conversion.Productions
import RegularModels.Proofs.Conversion.AutomatonLanguage
import RegularModels.Proofs.Conversion.Starts
import RegularModels.Proofs.Grammar.Decoding
import RegularModels.Proofs.Conversion.RoundTrip
import RegularModels.Proofs.Conversion.Staleness
import RegularModels.Proofs.Record.Reading
import RegularModels.Proofs.Record.Format
import RegularModels.Proofs.Record.Contents
import RegularModels.Proofs.Record.Description
import RegularModels.Proofs.Record.Independence
import RegularModels.Proofs.Record.Strictness
import RegularModels.Proofs.Record.Loading
import RegularModels.Proofs.Record.Joining
import RegularModels.Proofs.Record.Naming
import RegularModels.Proofs.Record.Spacing
import RegularModels.Proofs.Automaton.WellFormed
import RegularModels.Proofs.Grammar.WellFormed
import RegularModels.Proofs.Integrity
import RegularModels.Proofs.Automaton.Overwrites
import RegularModels.Proofs.Automaton.Account
import RegularModels.Proofs.Automaton.Sameness
import RegularModels.Proofs.Conversion.Overwrites
import RegularModels.Proofs.Conversion.TransitionOrder
import RegularModels.Proofs.Terminal.Conversation
import RegularModels.Proofs.Terminal.Looking
import RegularModels.Proofs.Terminal.Effects
import RegularModels.Proofs.Files.Faults
import RegularModels.Proofs.Files.Texts
import RegularModels.Proofs.Terminal.Failures
import RegularModels.Proofs.Terminal.Survival
import RegularModels.Proofs.Grammar.Regularity
import RegularModels.Proofs.Conversion.Validity
import RegularModels.Proofs.Automaton.Drawing
import RegularModels.Proofs.Record.DrawnNodes
