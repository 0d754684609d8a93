import PathSort.Hook.Action
import PathSort.Main
import PathSort.Query.CallLog
import PathSort.Session
import PathSort.Proofs.Directive.WireForm
import PathSort.Proofs.Query.KeptJoins
import PathSort.Proofs.Query.Replay
import PathSort.Proofs.Resolution.AppliedPlans
import PathSort.Proofs.Sorting.ClosedForm
import PathSort.Proofs.JoinPlan.Grammar
import PathSort.Proofs.JoinPlan.References
import PathSort.Proofs.Sorting.Projection
import PathSort.Proofs.Sorting.FirstFailure
import PathSort.Proofs.Sorting.Scope
import PathSort.Proofs.Sorting.TableNames
import PathSort.Proofs.Report.Labels
import PathSort.Proofs.Report.SelectFromLines
import PathSort.Proofs.Report.Blocks
import PathSort.Proofs.Run.Alike
import PathSort.Proofs.Session.Backends
import PathSort.Proofs.Session.AppendOnly
import PathSort.Proofs.Session.JoinsInStep
import PathSort.Proofs.Sorting.IgnoredPatterns
import PathSort.Proofs.Resolution.Moves
import PathSort.Proofs.Command.Agreement
import PathSort.Proofs.Directive.DisplayForm
import PathSort.Proofs.JoinPlan.RenderedPath
import PathSort.Proofs.Sorting.TokenOrder
import PathSort.Proofs.Query.SqlText
import PathSort.Proofs.Command.ExplainedQueries
import PathSort.Proofs.Hook.Registrations
import PathSort.Proofs.Sorting.HookDispatch
import PathSort.Proofs.Sorting.Stories
import PathSort.Proofs.Command.Trace
import PathSort.Proofs.Text.QuotedText
import PathSort.Proofs.Command.Refusals
import PathSort.Proofs.SortError.Messages
import PathSort.Proofs.Command.ErrorLines
import PathSort.Proofs.Settings.Sources
import PathSort.Proofs.CommandLine.Endings
import PathSort.Proofs.Command.Composition
