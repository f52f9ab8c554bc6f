import EventPipeline.Guarantees.Diagnosis
import EventPipeline.Guarantees.RecoveryEvaluation

/-!
# EventPipeline.Guarantees.DiagnosisFallback

When the agent's own decision passes its own validator.

The loop leaves with a decision of the agent where a tool failed or a budget ran out. The
trace of the loop is always in order (`traceOk`), so the validator refuses the decision for
one of two reasons only: the name of the tool, which the model chose and the decision quotes,
contains a forbidden claim; or the budget that ran out is not the one the stop reason is
checked against.
-/

namespace EventPipeline.Guarantees

open EventPipeline.Python EventPipeline.OpsAgent EventPipeline.Concurrency
open EventPipeline.Concurrency.Prog

namespace Diagnosis

/-! ### The trace of the loop -/

theorem diagnosisEvidenceId_injective {tool_id tool_id' : PyStr} {digest digest' : Sha256}
    (h : diagnosisEvidenceId tool_id digest = diagnosisEvidenceId tool_id' digest') :
    tool_id = tool_id' := by
  have hlength : (PyStr.ofString "." ++ digest.text.take 24).length =
      (PyStr.ofString "." ++ digest'.text.take 24).length := by
    simp [digest.length_eq, digest'.length_eq]
  simp only [diagnosisEvidenceId, List.append_assoc] at h
  exact (List.append_inj' (List.append_cancel_left h) hlength).1

/-- The evidence of distinct tools has distinct ids, since the name of the tool can be read off an
id. -/
theorem Traced.unique_ids {state : DiagnosisState} (h : Traced state) :
    (state.evidence.map (·.evidence_id)).Nodup := by
  have hunique := h.unique
  rw [h.tools, List.Nodup, List.pairwise_map] at hunique
  rw [List.Nodup, List.pairwise_map]
  refine hunique.imp_of_mem fun {item item'} hmem hmem' hne heq => ?_
  obtain ⟨digest, hid⟩ := h.ids item hmem
  obtain ⟨digest', hid'⟩ := h.ids item' hmem'
  exact hne (diagnosisEvidenceId_injective (hid.symm.trans (heq.trans hid')))

end Diagnosis

end EventPipeline.Guarantees
