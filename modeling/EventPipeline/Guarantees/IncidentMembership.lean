import EventPipeline.Guarantees.IncidentLifecycle
import EventPipeline.OpsAgent.RecoveryEvaluator

/-!
# EventPipeline.Guarantees.IncidentMembership

Which bundles belong to a logical incident.

`_source_incident_id` strips a dash and a number from the ids of the activation's bundles,
and `_logical_incident_matches` accepts whatever follows a dash, as in `incident-1-sample-003`.
The first is the stricter rule: the bundles it derives an id from are all accepted for that id
(`logicalIncidentMatches_derived`), but so are ids it would derive another incident from
(`logicalIncidentMatches_member_iff` says which).
-/

namespace EventPipeline.Guarantees

open EventPipeline.Python EventPipeline.OpsAgent

/-! ### Splitting at the last dash -/

theorem intercalate_concat {α : Type} (separator : List α) {parts : List (List α)}
    (hne : parts ≠ []) (last : List α) :
    separator.intercalate (parts ++ [last]) = separator.intercalate parts ++ separator ++ last := by
  induction parts with
  | nil => exact absurd rfl hne
  | cons part parts ih =>
      cases parts with
      | nil => simp [List.intercalate_cons_cons]
      | cons next parts =>
          rw [List.cons_append, List.intercalate_cons_of_ne_nil (List.append_ne_nil_of_left_ne_nil
              (List.cons_ne_nil next parts) _), ih (List.cons_ne_nil next parts),
            List.intercalate_cons_of_ne_nil (List.cons_ne_nil next parts)]
          simp only [List.append_assoc]

/-- The last dash of a text whose rest has none is the one before the rest. -/
theorem rsplitDash_append (parent : PyStr) {number : PyStr}
    (hnumber : CodePoint.ofChar '-' ∉ number) :
    rsplitDash (parent ++ PyStr.ofString "-" ++ number) = some (parent, number) := by
  have hsplit : (parent ++ PyStr.ofString "-" ++ number).splitOn (CodePoint.ofChar '-') =
      parent.splitOn (CodePoint.ofChar '-') ++ [number] := by
    have hrest : number.splitOnP (· == CodePoint.ofChar '-') = [number] :=
      List.splitOnP_eq_singleton fun c hc => by
        rw [beq_eq_false_iff_ne]
        rintro rfl
        exact hnumber hc
    have happend := List.splitOnP_append_cons (p := (· == CodePoint.ofChar '-')) parent number
      (beq_self_eq_true (CodePoint.ofChar '-'))
    rw [hrest] at happend
    rw [List.append_assoc, List.splitOn_eq_splitOnP, List.splitOn_eq_splitOnP]
    exact happend
  have hne : parent.splitOn (CodePoint.ofChar '-') ≠ [] := by
    rw [List.splitOn_eq_splitOnP]
    exact List.splitOnP_ne_nil _ _
  have hlength : 2 ≤ (parent.splitOn (CodePoint.ofChar '-') ++ [number]).length := by
    have := List.length_pos_of_ne_nil hne
    rw [List.length_append, List.length_singleton]
    omega
  simp only [rsplitDash, hsplit, if_pos hlength, List.dropLast_concat, List.getLastD_concat,
    List.intercalate_splitOn]

theorem rsplitDash_eq_some {value parent number : PyStr}
    (h : rsplitDash value = some (parent, number)) :
    value = parent ++ PyStr.ofString "-" ++ number := by
  simp only [rsplitDash] at h
  split_ifs at h with hlength
  obtain ⟨rfl, rfl⟩ := Prod.mk.injEq .. ▸ Option.some.inj h
  have hparts : [CodePoint.ofChar '-'].intercalate (value.splitOn (CodePoint.ofChar '-')) = value :=
    List.intercalate_splitOn _
  generalize value.splitOn (CodePoint.ofChar '-') = parts at hlength hparts ⊢
  obtain ⟨front, last, rfl⟩ : ∃ front last, parts = front ++ [last] :=
    (List.eq_nil_or_concat' parts).resolve_left (by rintro rfl; simp at hlength)
  have hfront : front ≠ [] := by
    rintro rfl
    simp at hlength
  rw [List.dropLast_concat, List.getLastD_concat, ← hparts, intercalate_concat _ hfront]
  rfl

/-! ### Membership

The id of an incident is derived by stripping a dash and a number. A bundle is accepted for an
incident by the prefix alone, which is the wider rule: both hold of the bundles that the id was
derived from, and they differ where a text follows the dash that is no number. -/

/-- A bundle belongs to a logical incident when it has the incident's id, or the id with a
dash and a number, which is what `_source_incident_id` strips. -/
def LogicalMember (rt : OpsRuntime) (incident_id source_incident_id : PyStr) : Prop :=
  source_incident_id = incident_id ∨ numberedParent rt source_incident_id = some incident_id

theorem numberedParent_eq_some {rt : OpsRuntime} {value parent : PyStr}
    (h : numberedParent rt value = some parent) :
    ∃ number, value = parent ++ PyStr.ofString "-" ++ number ∧ rt.isdigit number = true := by
  simp only [numberedParent, Option.bind_eq_some_iff, Prod.exists] at h
  obtain ⟨parent', number, hsplit, h⟩ := h
  split_ifs at h with hdigits
  obtain rfl := Option.some.inj h
  exact ⟨number, rsplitDash_eq_some hsplit, hdigits⟩

theorem numberedParent_append {rt : OpsRuntime} {number : PyStr} (parent : PyStr)
    (hdash : CodePoint.ofChar '-' ∉ number) (hdigits : rt.isdigit number = true) :
    numberedParent rt (parent ++ PyStr.ofString "-" ++ number) = some parent := by
  rw [numberedParent, rsplitDash_append parent hdash, Option.bind_some]
  exact if_pos hdigits

theorem logicalIncidentMatches_iff {source_incident_id incident_id : PyStr} :
    logicalIncidentMatches source_incident_id incident_id = true ↔
      source_incident_id = incident_id ∨
        ∃ rest, source_incident_id = incident_id ++ PyStr.ofString "-" ++ rest := by
  simp only [logicalIncidentMatches, Bool.or_eq_true, decide_eq_true_eq, PyStr.startsWith,
    List.isPrefixOf_iff_prefix]
  refine or_congr_right ⟨?_, ?_⟩
  · rintro ⟨rest, h⟩
    exact ⟨rest, h.symm⟩
  · rintro ⟨rest, h⟩
    exact ⟨rest, h.symm⟩

/-- The bundles of a logical incident are accepted for it. -/
theorem logicalIncidentMatches_of_member {rt : OpsRuntime} {incident_id source_incident_id : PyStr}
    (h : LogicalMember rt incident_id source_incident_id) :
    logicalIncidentMatches source_incident_id incident_id = true := by
  rw [logicalIncidentMatches_iff]
  refine h.imp id fun hparent => ?_
  obtain ⟨number, hvalue, -⟩ := numberedParent_eq_some hparent
  exact ⟨number, hvalue⟩

/-- The bundles an id is derived from belong to its incident. -/
theorem member_of_sourceIncidentId {rt : OpsRuntime} {activation : SequenceConditionEvaluation}
    {incident_id : PyStr} (h : sourceIncidentId rt activation = .ok incident_id) :
    ∀ bundle ∈ activation.source_bundles, LogicalMember rt incident_id bundle.incident_id := by
  intro bundle hbundle
  have hvalue : bundle.incident_id ∈ (activation.source_bundles.map (·.incident_id)).dedup :=
    List.mem_dedup.mpr (List.mem_map_of_mem hbundle)
  simp only [sourceIncidentId] at h
  split at h
  · -- one id
    rename_i value hone
    obtain rfl := Except.ok.inj h
    rw [hone, List.mem_singleton] at hvalue
    exact Or.inl hvalue
  · split_ifs at h with hall
    · split at h
      · -- one parent
        rename_i parent hone
        obtain rfl := Except.ok.inj h
        rw [List.all_map, List.all_eq_true] at hall
        obtain ⟨found, hfound⟩ := Option.isSome_iff_exists.mp
          (hall _ (List.mem_map_of_mem hbundle))
        have hmem : found ∈ ((activation.source_bundles.map (·.incident_id)).map
            (numberedParent rt)).filterMap id := by
          refine List.mem_filterMap.mpr ⟨some found, ?_, rfl⟩
          exact List.mem_map.mpr ⟨_, List.mem_map_of_mem hbundle, hfound⟩
        rw [← List.mem_dedup, hone, List.mem_singleton] at hmem
        exact Or.inr (hmem ▸ hfound)
      · simp at h

/-- Where the two rules agree: what is accepted is a member exactly when it is not the
incident's id with a dash and a text that is no number. -/
theorem logicalIncidentMatches_member_iff (rt : OpsRuntime)
    (hdigits : ∀ text, rt.isdigit text = true → CodePoint.ofChar '-' ∉ text)
    (incident_id source_incident_id : PyStr) :
    (logicalIncidentMatches source_incident_id incident_id = true →
        LogicalMember rt incident_id source_incident_id) ↔
      ∀ rest, source_incident_id = incident_id ++ PyStr.ofString "-" ++ rest →
        rt.isdigit rest = true := by
  constructor
  · rintro h rest rfl
    rcases h (logicalIncidentMatches_iff.mpr (Or.inr ⟨rest, rfl⟩)) with hself | hparent
    · have hlength := congrArg List.length hself
      simp [PyStr.ofString] at hlength
    · obtain ⟨number, hvalue, hnumber⟩ := numberedParent_eq_some hparent
      rw [List.append_cancel_left hvalue]
      exact hnumber
  · intro h hmatches
    rcases logicalIncidentMatches_iff.mp hmatches with hself | ⟨rest, hrest⟩
    · exact Or.inl hself
    · have hnumber := h rest hrest
      exact Or.inr (hrest ▸ numberedParent_append incident_id (hdigits rest hnumber) hnumber)

/-! ### The evaluator -/

/-- The activation is its own evidence where all its bundles are accepted. -/
theorem activationIssues_of_accepted {activation : SequenceConditionEvaluation}
    {incident_id : PyStr} {policy : RecoveryEvaluationPolicy}
    (h : ∀ bundle ∈ activation.source_bundles,
      logicalIncidentMatches bundle.incident_id incident_id = true) :
    PyStr.ofString "ACTIVATION_INCIDENT_IDENTITY_MISMATCH" ∉
      activationIssues activation incident_id policy := by
  have hall : activation.source_bundles.all
      (fun item => logicalIncidentMatches item.incident_id incident_id) = true :=
    List.all_eq_true.mpr h
  rw [activationIssues, mem_sortedSet]
  simp only [List.mem_append, mem_codeIf, hall]
  -- the other three codes are other texts
  rintro (((⟨-, hcode⟩ | ⟨-, hcode⟩) | ⟨hfalse, -⟩) | ⟨-, hcode⟩)
  · exact absurd hcode (by decide)
  · exact absurd hcode (by decide)
  · cases hfalse
  · exact absurd hcode (by decide)

/-- A bundle that is not accepted for the incident is reported, whatever else it is. -/
theorem captureIssues_of_not_accepted {setting : CaptureSetting} {state : CaptureState}
    {bundle : EvidenceBundle} {expected actual : Sha256} {reading : BundleReading}
    (h : logicalIncidentMatches bundle.incident_id setting.incident_id = false) :
    PyStr.ofString "RECOVERY_INCIDENT_IDENTITY_MISMATCH" ∈
      captureIssues setting state bundle expected actual reading := by
  rw [captureIssues, mem_sortedSet]
  simp only [List.mem_append, mem_codeIf, h]
  simp

/-- **What the evaluator accepts for a derived incident.** The rule is a prefix, not the
number that `_source_incident_id` strips: an id is accepted if and only if it is the incident's
or goes on after it with a dash. So the bundles that an id is derived from are evidence for it,
and a bundle whose id begins otherwise never is.

The prefix rule is `logicalIncidentMatches_iff`. The id was derived from the bundles by stripping
a number, so each of them goes on after it with a dash (`member_of_sourceIncidentId`); an issue
about the identity is reported where the rule refuses, and nowhere else. -/
theorem logicalIncidentMatches_derived {rt : OpsRuntime}
    {activation : SequenceConditionEvaluation} {incident_id : PyStr}
    (h : sourceIncidentId rt activation = .ok incident_id) :
    (∀ source_incident_id, logicalIncidentMatches source_incident_id incident_id = true ↔
        source_incident_id = incident_id ∨
          ∃ rest, source_incident_id = incident_id ++ PyStr.ofString "-" ++ rest) ∧
      (∀ bundle ∈ activation.source_bundles,
        logicalIncidentMatches bundle.incident_id incident_id = true) ∧
      (∀ policy, PyStr.ofString "ACTIVATION_INCIDENT_IDENTITY_MISMATCH" ∉
        activationIssues activation incident_id policy) ∧
      ∀ (setting : CaptureSetting) (state : CaptureState) (bundle : EvidenceBundle)
        (expected actual : Sha256) (reading : BundleReading), setting.incident_id = incident_id →
        PyStr.ofString "RECOVERY_INCIDENT_IDENTITY_MISMATCH" ∉
          captureIssues setting state bundle expected actual reading →
        bundle.incident_id = incident_id ∨
          ∃ rest, bundle.incident_id = incident_id ++ PyStr.ofString "-" ++ rest := by
  have haccepted : ∀ bundle ∈ activation.source_bundles,
      logicalIncidentMatches bundle.incident_id incident_id = true := by
    intro bundle hbundle
    exact logicalIncidentMatches_of_member (member_of_sourceIncidentId h bundle hbundle)
  refine ⟨fun _ => logicalIncidentMatches_iff, haccepted,
    fun policy => activationIssues_of_accepted haccepted, ?_⟩
  intro setting state bundle expected actual reading hincident hreported
  rw [← logicalIncidentMatches_iff, ← hincident]
  by_contra hrefused
  exact hreported (captureIssues_of_not_accepted (Bool.eq_false_iff.mpr hrefused))

/-- The sample activation derives `incident-1`, for which the next capture's id is accepted. -/
theorem logicalIncidentMatches_derived_sample :
    logicalIncidentMatches "incident-1-sample-003" "incident-1" = true := by
  have hderived : sourceIncidentId sampleOpsRuntime sampleActivation
      = .ok (PyStr.ofString "incident-1") := rfl
  exact ((logicalIncidentMatches_derived hderived).1 _).mpr
    (Or.inr ⟨PyStr.ofString "sample-003", by decide⟩)

/-- The sample activation derives `incident-1`, and a bundle of the incident `incident-1-B`
is accepted for it. -/
theorem logicalIncidentMatches_not_member :
    sourceIncidentId sampleOpsRuntime sampleActivation = .ok (PyStr.ofString "incident-1") ∧
      logicalIncidentMatches "incident-1-B" "incident-1" = true ∧
      ¬LogicalMember sampleOpsRuntime "incident-1" "incident-1-B" := by
  refine ⟨rfl, by decide, ?_⟩
  rintro (hself | hparent)
  · exact absurd hself (by decide)
  · exact absurd hparent (by decide)

end EventPipeline.Guarantees
