import EventPipeline.OpsAgent.Calibration

/-!
# EventPipeline.OpsAgent.Issues

`EvidenceIssue` of `ops_agent/evaluation_models.py`, and `_ObservedDependency.add_issue` of
`ops_agent/evaluator.py`.

The detail of an issue is kept as the values that go into its text (`IssueDetail`), and
`detailText` prints them. Under one code and one evidence id there is either one detail
or details that name different fields, labels or samples, so `add_issue` can compare the
values in place of the texts.
-/

namespace EventPipeline.OpsAgent.Evaluator

open EventPipeline.Python

/-! ### Details

One constructor for each form of a detail. Optional values are those the source prints as
`None`. -/

/-- The values in the detail of an issue. -/
inductive IssueDetail
  /-- A partition, or the name of a field. -/
  | plain (text : PyStr)
  /-- Names with a comma between them. -/
  | names (names : List PyStr)
  /-- A selector: two texts with their quotes. -/
  | selector (expected actual : Option PyStr)
  /-- Two numbers of seconds. -/
  | seconds (expected actual : Option PyFloat)
  /-- Two values that are printed already. -/
  | printed (expected actual : PyStr)
  | label (label expected : PyStr) (actual : Option PyStr)
  /-- `value_count` is none where the samples are no list. -/
  | sampleCount (expected : Nat) (value_count declared : Option Nat)
  | sample (sample_index : Nat)
  | sampleValue (sample_index : Nat) (value : ℚ)
  | delta (delta_seconds : ℚ)
  | coverage (missing extra : List PyStr)
  | partition (partition : PyStr)
  | lag (partition : PyStr) (sample_index : Nat) (end_offset committed lag expected_lag : ℚ)
  | generation (generation observed : Nat)
  | replicas (current available : Nat)
  | haMode (ha_mode : Option Bool)
  deriving DecidableEq

/-- `repr` of a text or `None`. -/
def reprText (rt : OpsRuntime) (text : Option PyStr) : PyStr :=
  (text.map rt.repr).getD "None"

/-- `repr(value)`: only a text is printed otherwise than by `str`. -/
def reprOf (rt : OpsRuntime) : Json → PyStr
  | .str text => rt.repr text
  | value => strOf rt value

/-- `",".join(names)`. -/
def commaJoined (names : List PyStr) : PyStr := [CodePoint.ofChar ','].intercalate names

/-- The fields of `name={value};name={value}`. -/
def keyed (fields : List (String × PyStr)) : PyStr :=
  [CodePoint.ofChar ';'].intercalate
    (fields.map fun field => PyStr.ofString field.1 ++ PyStr.ofString "=" ++ field.2)

/-- A number of seconds or `None`. -/
def secondsText (rt : OpsRuntime) (seconds : Option PyFloat) : PyStr :=
  strOf rt ((seconds.map Json.float).getD .null)

/-- The text of a detail. -/
def detailText (rt : OpsRuntime) : IssueDetail → PyStr
  | .plain text => text
  | .names names => commaJoined names
  | .selector expected actual =>
      keyed [("expected", reprText rt expected), ("actual", reprText rt actual)]
  | .seconds expected actual =>
      keyed [("expected", secondsText rt expected), ("actual", secondsText rt actual)]
  | .printed expected actual => keyed [("expected", expected), ("actual", actual)]
  | .label label expected actual =>
      keyed [("label", label), ("expected", rt.repr expected), ("actual", reprText rt actual)]
  | .sampleCount expected value_count declared =>
      keyed [("expected", natStr expected),
        ("value_count", (value_count.map natStr).getD "invalid"),
        ("declared", (declared.map natStr).getD "None")]
  | .sample sample_index => keyed [("sample_index", natStr sample_index)]
  | .sampleValue sample_index value =>
      keyed [("sample_index", natStr sample_index), ("value", rt.decimalText value)]
  | .delta delta_seconds => keyed [("delta_seconds", rt.decimalText delta_seconds)]
  | .coverage missing extra =>
      keyed [("missing", commaJoined missing), ("extra", commaJoined extra)]
  | .partition partition => keyed [("partition", partition)]
  | .lag partition sample_index end_offset committed lag expected_lag =>
      keyed [("partition", partition), ("sample_index", natStr sample_index),
        ("end", rt.decimalText end_offset), ("committed", rt.decimalText committed),
        ("lag", rt.decimalText lag), ("expected_lag", rt.decimalText expected_lag)]
  | .generation generation observed =>
      keyed [("generation", natStr generation), ("observed", natStr observed)]
  | .replicas current available =>
      keyed [("current", natStr current), ("available", natStr available)]
  | .haMode ha_mode => keyed [("ha_mode", strOf rt ((ha_mode.map Json.bool).getD .null))]

example (rt : OpsRuntime) : detailText rt (.coverage ["6", "7"] []) =
    PyStr.ofString "missing=6,7;extra=" := rfl

/-! ### Issues -/

/-- `EvidenceIssue`; the `evidence_id` is none where the issue is about the family. -/
structure EvidenceIssue where
  code : PyStr
  evidence_id : Option PyStr
  detail : Option IssueDetail
  deriving DecidableEq

/-- The order of the issues in a trace: by code, then evidence id, then detail. -/
def issueLe (rt : OpsRuntime) (a b : EvidenceIssue) : Bool :=
  let id (issue : EvidenceIssue) : PyStr := issue.evidence_id.getD []
  let text (issue : EvidenceIssue) : PyStr := (issue.detail.map (detailText rt)).getD []
  a.code < b.code || (a.code = b.code &&
    (id a < id b || (id a = id b && text a ≤ text b)))

/-- `add_issue`: an issue that is there already is not added again. -/
def addIssue (issues : List EvidenceIssue) (issue : EvidenceIssue) : List EvidenceIssue :=
  if issue ∈ issues then issues else issues ++ [issue]

/-- `add_issue` of each. -/
def addNew (issues added : List EvidenceIssue) : List EvidenceIssue := added.foldl addIssue issues

@[simp] theorem addNew_nil (issues : List EvidenceIssue) : addNew issues [] = issues := rfl

theorem addNew_cons (issues : List EvidenceIssue) (issue : EvidenceIssue)
    (added : List EvidenceIssue) :
    addNew issues (issue :: added) = addNew (addIssue issues issue) added := rfl

theorem prefix_addIssue (issues : List EvidenceIssue) (issue : EvidenceIssue) :
    issues <+: addIssue issues issue := by
  unfold addIssue
  split_ifs
  · exact List.prefix_refl _
  · exact List.prefix_append _ _

/-- What was there stays, in front. -/
theorem prefix_addNew (issues added : List EvidenceIssue) : issues <+: addNew issues added := by
  induction added generalizing issues with
  | nil => exact List.prefix_refl _
  | cons issue added ih =>
      rw [addNew_cons]
      exact (prefix_addIssue issues issue).trans (ih _)

/-- After the additions there is an issue exactly where there was one or one came. -/
@[simp] theorem addNew_eq_nil {issues added : List EvidenceIssue} :
    addNew issues added = [] ↔ issues = [] ∧ added = [] := by
  constructor
  · intro h
    obtain rfl : issues = [] := List.prefix_nil.mp (h ▸ prefix_addNew issues added)
    cases added with
    | nil => exact ⟨rfl, rfl⟩
    | cons issue added =>
        -- the first of them is added to none
        have hfirst : [issue] <+: addNew [] (issue :: added) := prefix_addNew [issue] added
        rw [h] at hfirst
        exact absurd (List.prefix_nil.mp hfirst) (List.cons_ne_nil _ _)
  · intro h
    rw [h.1, h.2]
    rfl

/-- No issue is there twice. -/
theorem addNew_nodup {issues : List EvidenceIssue} (h : issues.Nodup)
    (added : List EvidenceIssue) : (addNew issues added).Nodup := by
  induction added generalizing issues with
  | nil => exact h
  | cons issue added ih =>
      rw [addNew_cons]
      refine ih ?_
      unfold addIssue
      split_ifs with hmem
      · exact h
      · exact List.nodup_append_comm.mp (List.nodup_cons.mpr ⟨hmem, h⟩)

/-! ### Findings

A check of the evaluator finds a code and a detail; what the issue is about, an item or the
whole family, is added where it is recorded. -/

/-- A code with its detail. -/
structure Finding where
  code : PyStr
  detail : Option IssueDetail := none
  deriving DecidableEq

/-- The finding with this code, where the condition holds. -/
def findingIf (condition : Prop) [Decidable condition] (code : String)
    (detail : Option IssueDetail := none) : List Finding :=
  if condition then [⟨code, detail⟩] else []

@[simp] theorem findingIf_eq_nil {condition : Prop} [Decidable condition] {code : String}
    {detail : Option IssueDetail} : findingIf condition code detail = [] ↔ ¬condition := by
  unfold findingIf
  split_ifs with h <;> simp [h]

/-- A finding about an evidence id, or about none. -/
def Finding.issue (evidence_id : Option PyStr) (finding : Finding) : EvidenceIssue :=
  ⟨finding.code, evidence_id, finding.detail⟩

/-- The issues with these findings about one item. -/
def itemIssues (item : EvidenceItem) (findings : List Finding) : List EvidenceIssue :=
  findings.map (·.issue (some item.evidence_id))

/-- The issues with these findings about the family. -/
def familyIssues (findings : List Finding) : List EvidenceIssue := findings.map (·.issue none)

@[simp] theorem itemIssues_eq_nil {item : EvidenceItem} {findings : List Finding} :
    itemIssues item findings = [] ↔ findings = [] := by
  simp [itemIssues]

@[simp] theorem familyIssues_eq_nil {findings : List Finding} :
    familyIssues findings = [] ↔ findings = [] := by
  simp [familyIssues]

end EventPipeline.OpsAgent.Evaluator
