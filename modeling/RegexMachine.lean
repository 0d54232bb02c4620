import RegexMachine.Automaton.Path
import RegexMachine.Constructible
import RegexMachine.Expression.Admissible
import RegexMachine.Expression.Denotation
import RegexMachine.Main
import RegexMachine.Proofs.Automaton.Language
import RegexMachine.Proofs.Scan.Step
import RegexMachine.Proofs.Constructible
import RegexMachine.Proofs.Automaton.Sequence
import RegexMachine.Proofs.Scan.Translation
import RegexMachine.Proofs.Expression.Completion
import RegexMachine.Proofs.Scan.Balance
import RegexMachine.Proofs.Scan.Counts
import RegexMachine.Proofs.Scan.Spaces
import RegexMachine.Proofs.Expression.Admission
import RegexMachine.Proofs.Compilation
import RegexMachine.Proofs.Simulation.Explore
import RegexMachine.Proofs.Matching
import RegexMachine.Proofs.Scan.Fault
import RegexMachine.Proofs.Diagnosis
import RegexMachine.Proofs.Safety
import RegexMachine.Proofs.Reached
import RegexMachine.Proofs.Scan.Group
import RegexMachine.Proofs.Scan.Shortage
import RegexMachine.Proofs.Scan.Parallel
import RegexMachine.Proofs.Substitution
import RegexMachine.Proofs.Dialogue
import RegexMachine.Proofs.Spacing
import RegexMachine.Proofs.Concatenation
import RegexMachine.Proofs.Automaton.Degree
import RegexMachine.Proofs.Structure
import RegexMachine.Proofs.Contents
import RegexMachine.Proofs.Expression.Extension
import RegexMachine.Proofs.Renaming
import RegexMachine.Proofs.Emptiness
import RegexMachine.Proofs.Automaton.Description
import RegexMachine.Expression.Levels
import RegexMachine.Proofs.Scan.Records
import RegexMachine.Proofs.Account
import RegexMachine.Proofs.Simulation.FreeMoves
