import EventPipeline.OpsAgent.Artifacts

/-!
# EventPipeline.OpsAgent.EvidenceModels

The evidence bundle of `ops_agent/models.py`.

A bundle that reaches an evaluator has passed its validators, which require every
timestamp aware, so the timestamps here are aware ones.
-/

namespace EventPipeline.OpsAgent

open EventPipeline.Python

/-- `EvidenceStatus`. -/
inductive EvidenceStatus
  | ok | missing | error | notApplicable | unavailable
  deriving DecidableEq

/-- `FreshnessStatus`. -/
inductive FreshnessStatus
  | fresh | stale | unknown | notApplicable
  deriving DecidableEq

/-- `CollectionStatus`. -/
inductive CollectionStatus
  | complete | partialResult | failed
  deriving DecidableEq

/-- `Scope`. -/
structure Scope where
  context : Option PyStr
  namespace_ : PyStr
  topic : PyStr
  consumer_group : PyStr
  deriving DecidableEq

/-- `BundleContext`. -/
structure BundleContext where
  source_sha : Option PyStr
  source_dirty : Option Bool
  collector_tree_sha256 : Option Sha256
  desired_image : Option PyStr
  pod_image_ids : List PyStr
  argocd_revision : Option PyStr
  collector_version : PyStr
  tool_registry_version : PyStr
  policy_version : PyStr
  deriving DecidableEq

/-- `CollectionMetadata`. -/
structure CollectionMetadata where
  started_at : Aware
  completed_at : Aware
  status : CollectionStatus
  deriving DecidableEq

/-- `Freshness`. -/
structure Freshness where
  status : FreshnessStatus
  age_seconds : Option PyFloat
  max_age_seconds : Option PyFloat
  basis : PyStr
  deriving DecidableEq

/-- `MetricObservation`. -/
structure MetricObservation where
  name : PyStr
  value : Json
  unit : Option PyStr
  window : Option PyStr
  aggregation : Option PyStr
  sample_count : Option Nat

/-- `Coverage`. -/
structure Coverage where
  expected_count : Option Nat
  observed_count : Option Nat
  complete : Option Bool
  expected_items : List PyStr
  observed_items : List PyStr
  missing_items : List PyStr
  extra_items : List PyStr
  notes : Option PyStr
  deriving DecidableEq

/-- `Semantic`. -/
structure Semantic where
  type : PyStr
  notes : PyStr
  is_db_commit_rate : Option Bool
  flags : List PyStr
  deriving DecidableEq

/-- `EvidenceError`. -/
structure EvidenceError where
  type : PyStr
  message : PyStr
  deriving DecidableEq

/-- `EvidenceItem`. -/
structure EvidenceItem where
  evidence_id : PyStr
  status : EvidenceStatus
  source : PyStr
  tool_id : PyStr
  source_timestamp : Option Aware
  collected_at : Aware
  freshness : Freshness
  metric : MetricObservation
  labels : List (PyStr × PyStr)
  coverage : Coverage
  semantic : Semantic
  raw_ref : Option PyStr
  raw_sha256 : Option Sha256
  error : Option EvidenceError

/-- `item.labels.get(name)`. -/
def EvidenceItem.label (item : EvidenceItem) (name : PyStr) : Option PyStr :=
  item.labels.lookup name

/-- `EvidenceBundle`; its `schema_version` and `scenario` are literals. -/
structure EvidenceBundle where
  bundle_id : PyStr
  incident_id : PyStr
  cluster_profile : PyStr
  scope : Scope
  context : BundleContext
  collection : CollectionMetadata
  evidence : List EvidenceItem

/-- `_items(bundle, metric_name)`. -/
def EvidenceBundle.items (bundle : EvidenceBundle) (metric_name : PyStr) : List EvidenceItem :=
  bundle.evidence.filter (·.metric.name = metric_name)

/-! ### Identities -/

/-- What `condition_source_identity_sha256` is the digest of. -/
structure ConditionIdentity where
  cluster_profile : PyStr
  scope : Scope
  source_sha : Option PyStr
  collector_tree_sha256 : Option Sha256
  collector_version : PyStr
  tool_registry_version : PyStr
  source_policy_version : PyStr
  prometheus_endpoint_identity_sha256 : PyStr
  /-- The `job` and the `instance`. -/
  kafka_exporter_identity : Option PyStr × Option PyStr
  partition_set : List PyStr

/-- What `recovery_source_identity_sha256` is the digest of. -/
structure RecoveryIdentity where
  condition_source_identity_sha256 : Sha256
  application_endpoint_identity_sha256 : PyStr

/-- What the identity of an endpoint is the digest of. -/
structure EndpointIdentity where
  base_url : PyStr
  host_header : Option PyStr

end EventPipeline.OpsAgent
