import EventPipeline.Concurrency.Simulator
import EventPipeline.Portfolio.StateStore
import EventPipeline.Portfolio.KafkaClient
import EventPipeline.Worker.Ingress
import EventPipeline.Guarantees.NotificationOutbox
import EventPipeline.Guarantees.Idempotency
import EventPipeline.Guarantees.RoomSequence
import EventPipeline.Guarantees.ReplayClaims
import EventPipeline.Guarantees.ReplayLease
import EventPipeline.Concurrency.Keyset
import EventPipeline.Guarantees.Pagination
import EventPipeline.Guarantees.Ownership
import EventPipeline.Guarantees.IncidentLifecycle
import EventPipeline.OpsAgent.BundleReading
import EventPipeline.Sequences.Windows
import EventPipeline.Sequences.Streaks
import EventPipeline.Sequences.MaximalRuns
import EventPipeline.OpsAgent.BacklogEvaluator
import EventPipeline.OpsAgent.ConditionEvaluators
import EventPipeline.OpsAgent.SequenceEvaluator
import EventPipeline.Guarantees.RecoveryEvaluation
import EventPipeline.Guarantees.RecoveryAttachment
import EventPipeline.Guarantees.ReplayEligibility
import EventPipeline.Guarantees.Intake
import EventPipeline.Guarantees.Offsets
import EventPipeline.Guarantees.InlineRetry
import EventPipeline.Guarantees.RecoveryPrefix
import EventPipeline.Guarantees.JsonStructure
import EventPipeline.Guarantees.Diagnosis
import EventPipeline.Guarantees.DiagnosisFallback
import EventPipeline.Guarantees.NotificationBatch
import EventPipeline.Guarantees.BacklogEvidence
import EventPipeline.Guarantees.BacklogMeasurement
import EventPipeline.Guarantees.EvidenceOrder
import EventPipeline.Guarantees.ConditionEvidence
import EventPipeline.Guarantees.NoBacklog
import EventPipeline.Guarantees.BacklogSequence
import EventPipeline.Guarantees.BacklogActivation
import EventPipeline.Guarantees.IncidentMembership
import EventPipeline.Guarantees.RequestBody
import EventPipeline.OpsAgent.ExperimentValidation
import EventPipeline.Guarantees.SampledRecovery
import EventPipeline.Guarantees.StableReentry
import EventPipeline.Guarantees.PoolRetirement
import EventPipeline.Guarantees.SnapshotFacts
import EventPipeline.Portfolio.RecentMessages
import EventPipeline.Guarantees.RecentMessages
import EventPipeline.OpsAgent.RecoveryCalibration
import EventPipeline.Guarantees.DeadLetter
import EventPipeline.Portfolio.Auth
import EventPipeline.Guarantees.Sessions
import EventPipeline.Guarantees.Redelivery
import EventPipeline.Guarantees.IngressProcess
import EventPipeline.Guarantees.IngressProgress
import EventPipeline.Guarantees.IngressRuns
import EventPipeline.Guarantees.IngressSafety
import EventPipeline.Guarantees.StoredForm
import EventPipeline.Guarantees.StatusRegression
