import TickArena.Arena.Broadcast
import TickArena.Arena.Form
import TickArena.Main
import TickArena.Proofs.AcceptedSequences
import TickArena.Proofs.ArenaRuns
import TickArena.Proofs.BestRows
import TickArena.Proofs.BrokenConditions
import TickArena.Proofs.BuiltCatalogs
import TickArena.Proofs.CatalogIndexes
import TickArena.Proofs.CatchUpTermination
import TickArena.Proofs.CompactedSequences
import TickArena.Proofs.DealerCausality
import TickArena.Proofs.Departures
import TickArena.Proofs.EchoedStrikes
import TickArena.Proofs.EmittedBonuses
import TickArena.Proofs.EvaluationBudget
import TickArena.Proofs.EvaluationRuns
import TickArena.Proofs.EventDelivery
import TickArena.Proofs.Fates
import TickArena.Proofs.FiniteDoubles
import TickArena.Proofs.FolderLoads
import TickArena.Proofs.HourlyDispatch
import TickArena.Proofs.HourlyGrid
import TickArena.Proofs.HourlyWarnings
import TickArena.Proofs.KeptRecords
import TickArena.Proofs.LedgerChannels
import TickArena.Proofs.LiveEvaluations
import TickArena.Proofs.OwnedComponents
import TickArena.Proofs.PairedRuns
import TickArena.Proofs.ParticipantSeeds
import TickArena.Proofs.PhaseAnnouncements
import TickArena.Proofs.PhaseCountdown
import TickArena.Proofs.PhasePolls
import TickArena.Proofs.PhaseSchedule
import TickArena.Proofs.Publishing
import TickArena.Proofs.RandomStreams
import TickArena.Proofs.Ranking
import TickArena.Proofs.ReportRows
import TickArena.Proofs.RequirementMeaning
import TickArena.Proofs.SequenceGaps
import TickArena.Proofs.SequencePositions
import TickArena.Proofs.SettingsRange
import TickArena.Proofs.Silhouettes
import TickArena.Proofs.StaticActivation
import TickArena.Proofs.StoredSubmissions
import TickArena.Proofs.SubmissionChecks
import TickArena.Proofs.TableLookups
import TickArena.Proofs.TickAgreement
import TickArena.Proofs.TickMessages
import TickArena.Proofs.TimedOutTicks
import TickArena.Proofs.TimelinePassage
import TickArena.Proofs.TwoPhases
import TickArena.Proofs.ValidatedRuns
import TickArena.Proofs.WrittenForms
import TickArena.Scheduler.Form
import TickArena.Sequence.Form
