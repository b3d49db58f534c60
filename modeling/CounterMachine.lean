import CounterMachine.Main
import CounterMachine.Machine.Description
import CounterMachine.Playground
import CounterMachine.Proofs.Debugger.Session
import CounterMachine.Proofs.Machine.ErroneousHalt
import CounterMachine.Proofs.Machine.TraceLaw
import CounterMachine.Proofs.SavedState.RoundTrip
import CounterMachine.Proofs.Source.Acceptance
import CounterMachine.Proofs.Source.ListingRoundTrip
import CounterMachine.Proofs.Debugger.Breakpoints
import CounterMachine.Proofs.Machine.Growth
import CounterMachine.Proofs.Command.RunAnswer
import CounterMachine.Proofs.Playground.Budgets
import CounterMachine.Proofs.Source.DefinitionOrder
import CounterMachine.Proofs.Source.LeftmostConfiguration
import CounterMachine.Proofs.Source.NormalizedLines
import CounterMachine.Proofs.Machine.FirstTime
import CounterMachine.Proofs.Machine.InPlace
import CounterMachine.Proofs.Machine.LimitedRuns
import CounterMachine.Proofs.Debugger.Batches
import CounterMachine.Proofs.Source.FirstError
import CounterMachine.Proofs.Source.Precedence
import CounterMachine.Proofs.Machine.Accounting
import CounterMachine.Proofs.Machine.RegisterCalls
import CounterMachine.Proofs.Report.Unambiguous
import CounterMachine.Proofs.Debugger.RegisterView
import CounterMachine.Proofs.Debugger.RunningFlag
import CounterMachine.Proofs.Report.ReadBack
import CounterMachine.Proofs.Source.TrailingComments
import CounterMachine.Proofs.Machine.Multiplication
import CounterMachine.Proofs.Debugger.ProgramView
import CounterMachine.Proofs.Source.NormalizedPieces
import CounterMachine.Proofs.Source.ListingColumns
import CounterMachine.Proofs.Machine.Agreement
import CounterMachine.Proofs.Command.CheckAnswer
