import DeepResearch.Lib.Transition
import DeepResearch.Run.Proofs.Lifecycle
import DeepResearch.Run.Cluster
import DeepResearch.Run.Proofs.Wakeup
import DeepResearch.Run.Proofs.Revocation
import DeepResearch.Run.Proofs.Fencing
import DeepResearch.Run.Proofs.Slots
import DeepResearch.Lib.Escrow
import DeepResearch.Lib.Journal
import DeepResearch.Run.Proofs.Ledger
import DeepResearch.Run.BudgetShares
import DeepResearch.Run.Proofs.WriterShare
import DeepResearch.Run.Planner
import DeepResearch.Run.Proofs.PlannerUsage
import DeepResearch.Run.Proofs.HardLimits
import DeepResearch.Run.SearchBudget
import DeepResearch.Run.Proofs.SearchBudget
import DeepResearch.Run.ModelBudget
import DeepResearch.Run.Proofs.ModelBudget
import DeepResearch.Run.ResearchAttempt
import DeepResearch.Run.Proofs.ResearchAttempt
import DeepResearch.Run.Proofs.AttemptCleanup
import DeepResearch.Run.Proofs.AttemptPages
import DeepResearch.Lib.Descent
import DeepResearch.Lib.Selection
import DeepResearch.Run.Scheduling
import DeepResearch.Evidence.Relations
import DeepResearch.Evidence.Proofs.Refresh
import DeepResearch.Evidence.Proofs.FullRefresh
import DeepResearch.Evidence.Proofs.Incremental
import DeepResearch.Evidence.QuoteLocation
import DeepResearch.Evidence.Proofs.QuoteLocation
import DeepResearch.Run.Proofs.StopReason
import DeepResearch.Gap.Closure
import DeepResearch.Gap.Proofs.Synchronize
import DeepResearch.Gap.Requirements
import DeepResearch.Gap.Proofs.Monotone
import DeepResearch.Plan.GapResolution
import DeepResearch.Plan.Proofs.GapResolution
import DeepResearch.Report.Markers
import DeepResearch.Report.Proofs.Markers
import DeepResearch.Lib.Register
import DeepResearch.Report.Assemble
import DeepResearch.Report.Proofs.Citations
import DeepResearch.Run.Proofs.Termination
import DeepResearch.Search.Proofs.Disabled
import DeepResearch.Search.Proofs.RoutingStop
import DeepResearch.Search.Proofs.ProviderSwitches
import DeepResearch.Search.Proofs.HealthPayload
import DeepResearch.Search.ProviderAttempt
import DeepResearch.Gap.Proofs.Projection
import DeepResearch.Run.Proofs.FeedbackHandoff
import DeepResearch.Run.Proofs.QualityGate
import DeepResearch.Run.Proofs.QuestionBorrow
import DeepResearch.Run.Proofs.QuestionUsage
import DeepResearch.Lib.Words
import DeepResearch.Lib.Substring
import DeepResearch.Lib.Scan
import DeepResearch.Search.Proofs.ContextEnricher
import DeepResearch.Run.Proofs.RecoveryMeasurement
import DeepResearch.Run.Proofs.RecoveryGaps
import DeepResearch.Run.CandidateSelection
import DeepResearch.Run.Proofs.CandidateSelection
import DeepResearch.Run.Proofs.CallAllocation
import DeepResearch.Run.Proofs.QuestionEstimate
import DeepResearch.Lib.Dict
import DeepResearch.Lib.Schema
import DeepResearch.State.Basic
import DeepResearch.State.Reducer
import DeepResearch.State.Projection
import DeepResearch.State.Runtime
import DeepResearch.State.Proofs.Reducer
import DeepResearch.State.Proofs.Runtime
import DeepResearch.State.Proofs.Synchronization
import DeepResearch.Plan.DraftPayload
import DeepResearch.Plan.Proofs.DraftPayload
import DeepResearch.Plan.DynamicQuestions
import DeepResearch.Plan.Proofs.DynamicQuestions
import DeepResearch.Context.Ranker
import DeepResearch.Context.Compressor
import DeepResearch.Context.Manager
import DeepResearch.Context.Proofs.Manager
import DeepResearch.Lib.Trim
import DeepResearch.Lib.CaseTables
import DeepResearch.Lib.CaseFolding
import DeepResearch.Context.SourceSelector
import DeepResearch.Context.Proofs.SourceSelector
import DeepResearch.Lib.FormCoding
import DeepResearch.Lib.IpAddress
import DeepResearch.Lib.UrlSplit
import DeepResearch.Lib.UrlParts
import DeepResearch.Source.SourcePolicy
import DeepResearch.Source.Proofs.Identity
import DeepResearch.Source.Proofs.Settled
import DeepResearch.Source.Proofs.Stability
import DeepResearch.Lib.Semaphore
import DeepResearch.Reader.ParallelReads
import DeepResearch.Reader.Proofs.ParallelReads
import DeepResearch.Lib.FirstWriter
import DeepResearch.Run.ResultCaches
import DeepResearch.Run.Proofs.ResultCaches
import DeepResearch.Reader.WebReader
import DeepResearch.Reader.Proofs.WebReader
import DeepResearch.Gap.ClosureFeedback
import DeepResearch.Gap.FeedbackPipeline
import DeepResearch.Gap.FeedbackRequest
import DeepResearch.Gap.Proofs.FeedbackPipeline
import DeepResearch.Gap.FeedbackRun
import DeepResearch.Gap.Proofs.FeedbackRun
import DeepResearch.Memory.Manager
import DeepResearch.Memory.Proofs.Manager
import DeepResearch.Lib.Aead
import DeepResearch.Lib.UniqueIndex
import DeepResearch.Provider.Secrets
import DeepResearch.Provider.Proofs.Secrets
import DeepResearch.Provider.Profiles
import DeepResearch.Provider.KeyVault
import DeepResearch.Provider.Proofs.Commit
import DeepResearch.Provider.Proofs.Requests
import DeepResearch.Provider.Proofs.Profiles
import DeepResearch.Provider.Proofs.KeyVault
import DeepResearch.Provider.Proofs.RunBinding
