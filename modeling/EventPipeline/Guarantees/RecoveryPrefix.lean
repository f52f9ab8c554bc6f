import EventPipeline.Guarantees.RecoveryEvaluation

/-!
# EventPipeline.Guarantees.RecoveryPrefix

A longer recovery evaluation does not rewrite history.

Both loops of `evaluate_recovery` read a capture and what came before it, never what comes
after it: run on `xs ++ ys` they begin with what they make of `xs` (`captureLoop_append`,
`firstPass_append`). Only the second pass looks at the end of the list, and it changes the
last observation alone.
-/

namespace EventPipeline.Guarantees

open EventPipeline.Python EventPipeline.OpsAgent

variable {rt : OpsRuntime} {read : BundleReader} {policy : RecoveryEvaluationPolicy}
  {setting : CaptureSetting}

/-! ### The loops on a longer list -/

theorem parseDigests_append {values more : List PyStr} {digests : List Sha256}
    (h : parseDigests (values ++ more) = .ok digests) :
    ∃ before after, digests = before ++ after ∧ parseDigests values = .ok before := by
  induction values generalizing digests with
  | nil => exact ⟨[], digests, rfl, rfl⟩
  | cons value values ih =>
      rw [List.cons_append] at h
      unfold parseDigests at h
      split_ifs at h with hvalue
      simp only [bind_ok, pure_ok] at h
      obtain ⟨tail, htail, rfl⟩ := h
      obtain ⟨before, after, rfl, hbefore⟩ := ih htail
      refine ⟨⟨value, hvalue.1, hvalue.2⟩ :: before, after, rfl, ?_⟩
      unfold parseDigests
      rw [dif_pos hvalue, hbefore]
      rfl

/-- What the capture loop makes of the first captures does not depend on the later ones. -/
theorem captureLoop_append {index : Nat} {state : CaptureState}
    {captures more : List (EvidenceBundle × Sha256)}
    {entries : List (RecoverySourceBundleReference × RawObservation)}
    (h : captureLoop rt read setting index state (captures ++ more) = .ok entries) :
    ∃ before after, entries = before ++ after ∧
      captureLoop rt read setting index state captures = .ok before := by
  induction captures generalizing index state entries with
  | nil => exact ⟨[], entries, rfl, rfl⟩
  | cons capture captures ih =>
      simp only [List.cons_append, captureLoop, bind_ok, pure_ok] at h
      obtain ⟨reading, hread, tail, htail, rfl⟩ := h
      obtain ⟨before, after, rfl, hbefore⟩ := ih htail
      refine ⟨_ :: before, after, rfl, ?_⟩
      simp only [captureLoop, bind_ok, pure_ok]
      exact ⟨reading, hread, before, hbefore, rfl⟩

/-- Nor does what the first pass makes of them. -/
theorem firstPass_append {required_count : Nat} {seen : List RawObservation}
    {recovering_seen : Bool} {raws more : List RawObservation}
    {entries : List (RecoveryCaptureObservation × List (List Nat))}
    (h : firstPass required_count seen recovering_seen (raws ++ more) = .ok entries) :
    ∃ before after, entries = before ++ after ∧
      firstPass required_count seen recovering_seen raws = .ok before := by
  induction raws generalizing seen recovering_seen entries with
  | nil => exact ⟨[], entries, rfl, rfl⟩
  | cons raw raws ih =>
      simp only [List.cons_append, firstPass, bind_ok, pure_ok] at h
      obtain ⟨observation, hobservation, tail, htail, rfl⟩ := h
      obtain ⟨before, after, rfl, hbefore⟩ := ih htail
      refine ⟨_ :: before, after, rfl, ?_⟩
      simp only [firstPass, bind_ok, pure_ok]
      exact ⟨observation, hobservation, before, hbefore, rfl⟩

/-! ### The end of the shorter evaluation -/

/-- Where every capture of a window is usable, the window is ACTIVE or RECOVERING. -/
theorem windowState_known {required_count : Nat} {recovering_seen : Bool}
    {candidate : List RawObservation} (h : ∀ raw ∈ candidate, raw.usable = true) :
    (windowState required_count recovering_seen candidate).1 = .workerBacklogRecovering ∨
      (windowState required_count recovering_seen candidate).1 = .workerBacklogActive := by
  have hany : ¬ candidate.any (fun item => !item.usable) = true := by
    simpa using h
  unfold windowState
  rw [if_neg hany]
  by_cases hshort : candidate.length < required_count
  · exact .inr (by rw [if_pos hshort])
  · rw [if_neg hshort]
    split
    · exact .inl rfl
    · exact .inr rfl

/-- The state of the last capture is the state of the last window. -/
theorem firstPass_getLast {required_count : Nat} {seen : List RawObservation}
    {recovering_seen : Bool} {raws : List RawObservation}
    {entries : List (RecoveryCaptureObservation × List (List Nat))}
    (h : firstPass required_count seen recovering_seen raws = .ok entries)
    {last : RecoveryCaptureObservation} (hlast : (entries.map (·.1)).getLast? = some last) :
    ∃ recovering, last.state_after_capture =
      (windowState required_count recovering (lastItems required_count (seen ++ raws))).1 := by
  induction raws generalizing seen recovering_seen entries with
  | nil =>
      cases h
      simp at hlast
  | cons raw raws ih =>
      simp only [firstPass, bind_ok, pure_ok] at h
      obtain ⟨observation, hobservation, tail, htail, rfl⟩ := h
      cases raws with
      | nil =>
          cases htail
          simp only [captureObservation, bind_ok, pure_ok] at hobservation
          obtain ⟨total_lag, -, rfl⟩ := hobservation
          obtain rfl : _ = last := by simpa using hlast
          exact ⟨recovering_seen, rfl⟩
      | cons next raws =>
          have hne : tail.map (·.1) ≠ [] := by
            simp only [firstPass, bind_ok, pure_ok] at htail
            obtain ⟨_, -, _, -, rfl⟩ := htail
            simp
          rw [List.map_cons, List.getLast?_cons_of_ne_nil hne] at hlast
          obtain ⟨recovering, hstate⟩ := ih htail hlast
          exact ⟨recovering, by rw [hstate, List.append_assoc, List.singleton_append]⟩

/-- The state the first pass gives to the last of three usable captures. -/
theorem firstPass_last {raws : List RawObservation}
    {entries : List (RecoveryCaptureObservation × List (List Nat))}
    (h : firstPass 3 [] false raws = .ok entries)
    {front : List RecoveryCaptureObservation} {a b c : RecoveryCaptureObservation}
    (hentries : entries.map (·.1) = front ++ [a, b, c])
    (husable : ∀ o ∈ [a, b, c], o.usable = true) :
    c.state_after_capture = .workerBacklogRecovering ∨
      c.state_after_capture = .workerBacklogActive := by
  have hforall := firstPass_forall₂ (by decide) h
  have hlength : raws.length = front.length + 3 := by
    rw [hforall.length_eq, hentries, List.length_append]
    rfl
  have hwindow : List.Forall₂ FirstPassOf (lastItems 3 raws) [a, b, c] := by
    rw [lastItems, hlength, Nat.add_sub_cancel]
    rw [hentries] at hforall
    exact List.forall₂_drop_append raws front [a, b, c] hforall
  obtain ⟨recovering, hstate⟩ := @firstPass_getLast _ _ _ _ _ h c (by rw [hentries]; simp)
  rw [hstate, List.nil_append]
  refine windowState_known fun raw hraw => ?_
  obtain ⟨i, hi⟩ := List.mem_iff_getElem?.mp hraw
  obtain ⟨o, ho, hof⟩ := forall₂_getElem? hwindow.flip hi
  rw [← hof.usable]
  exact husable o (List.mem_of_getElem? ho)

/-! ### Two evaluations -/

/-- What every capture of an evaluation is compared with. -/
def evaluationSetting (incident_id : PyStr) (activation : SequenceConditionEvaluation)
    (policy : RecoveryEvaluationPolicy) : CaptureSetting :=
  { incident_id := incident_id
    policy := policy
    activation_problems := activationIssues activation incident_id policy
    activation_completed_at := activation.lastBundle.collection_completed_at
    activation_identity := activationIdentity activation }

/-- The passes an evaluation is the result of, each with what it was given. In a second evaluation
these can be compared one by one. -/
theorem evaluateRecoveryWith_passes {incident_id : PyStr}
    {activation : SequenceConditionEvaluation} {bundles : List EvidenceBundle}
    {digests : List PyStr} {evaluation : RecoveryEvaluation}
    (h : evaluateRecoveryWith rt read incident_id activation bundles digests policy
      = .ok evaluation) :
    ∃ digests' captures entries, digests.length = bundles.length ∧
      parseDigests digests = .ok digests' ∧
      captureLoop rt read (evaluationSetting incident_id activation policy) 0
        (firstCaptureState activation (activationIssues activation incident_id policy))
        (bundles.zip digests') = .ok captures ∧
      firstPass 3 [] false (captures.map (·.2)) = .ok entries ∧
      evaluation.observations = secondPass policy (entries.map (·.1)) ∧
      evaluation.window.matched_recovering_windows = entries.flatMap (·.2) ∧
      bundles ≠ [] := by
  simp only [evaluateRecoveryWith, bind_ok, ensure_eq_ok] at h
  obtain ⟨_, -, _, -, _, hne, _, -, _, hcount, digests', hdigests, reference, -, captures, hloop,
    entries, hpass, h⟩ := h
  split at h
  · simp at h
  · rename_i final hfinal
    simp only [bind_ok, pure_ok] at h
    obtain ⟨_, -, rfl⟩ := h
    exact ⟨digests', captures, entries, hcount, hdigests, hloop, hpass, rfl, rfl, hne⟩

/-- The last observation after the second pass: the one of the first pass, or, where three
captures in the envelope end the list, that one as RECOVERED. -/
theorem secondPass_last {raws : List RawObservation}
    {entries : List (RecoveryCaptureObservation × List (List Nat))}
    (hpass : firstPass 3 [] false raws = .ok entries) {i : Nat}
    {o o' : RecoveryCaptureObservation} (hi : i + 1 = (entries.map (·.1)).length)
    (ho : (secondPass policy (entries.map (·.1)))[i]? = some o)
    (ho' : (entries.map (·.1))[i]? = some o') :
    o = o' ∨ o = asRecovered o' ∧ (o'.state_after_capture = .workerBacklogRecovering ∨
      o'.state_after_capture = .workerBacklogActive) := by
  have hne : entries.map (·.1) ≠ [] := List.ne_nil_of_length_pos (by omega)
  rcases @secondPass_cases policy _ hne with
    ⟨-, hsame⟩ | ⟨hwindow, front, last, hfirst, hfinal⟩
  · rw [hsame] at ho
    exact .inl (Option.some.inj (ho.symm.trans ho'))
  · obtain ⟨-, before, mid, a, b, c, hsplit, hin, -⟩ := recoveredWindow_last3 hwindow
    have hfront : i = front.length := by
      rw [hfirst, List.length_append, List.length_singleton] at hi
      omega
    obtain rfl : asRecovered last = o := by simpa [hfinal, hfront] using ho
    obtain rfl : last = o' := by simpa [hfirst, hfront] using ho'
    obtain rfl : c = last := by
      have hboth : (before ++ mid ++ [a, b]) ++ [c] = front ++ [last] := by
        rw [← hfirst, hsplit]
        simp
      simpa using (List.append_inj' hboth rfl).2
    refine .inr ⟨rfl, @firstPass_last _ _ hpass (before ++ mid) a b c ?_ ?_⟩
    · rw [hsplit, List.append_assoc]
    · exact fun o ho => (hin o ho).usable

/-- **Prefix stability.** An evaluation of more captures agrees with the evaluation of the
first of them on every observation but, where the shorter one ended in RECOVERED, the state
and the reason codes of its last; and its draining windows extend those of the shorter
one.

The capture loop and the first pass read a list from the left, so the run over the longer list
begins with the run over the shorter one (`captureLoop_append`, `firstPass_append`). The second
pass looks at the whole list, but it changes at most the last observation; what it makes of the
last capture of the shorter list is said by `secondPass_last`. -/
theorem recovery_evaluation_prefix_stable {core : CoreEvaluator} {incident_id : PyStr}
    {activation : SequenceConditionEvaluation} {xs ys : List EvidenceBundle}
    {digests more : List PyStr} {short long : RecoveryEvaluation}
    (hshort : evaluateRecovery rt core incident_id activation xs digests policy = .ok short)
    (hlong : evaluateRecovery rt core incident_id activation (xs ++ ys) (digests ++ more) policy
      = .ok long) (hys : ys ≠ []) :
    short.observations.length = xs.length ∧
      long.observations.length = xs.length + ys.length ∧
      (∀ (i : Nat) (o o' : RecoveryCaptureObservation), short.observations[i]? = some o →
        long.observations[i]? = some o' →
        o = o' ∧ o.state_after_capture ≠ .workerBacklogRecovered ∨
          i + 1 = xs.length ∧ o.state_after_capture = .workerBacklogRecovered ∧
            (o'.state_after_capture = .workerBacklogRecovering ∨
              o'.state_after_capture = .workerBacklogActive) ∧
            o = { o' with
              state_after_capture := o.state_after_capture
              state_reason_codes := o.state_reason_codes }) ∧
      short.window.matched_recovering_windows <+: long.window.matched_recovering_windows := by
  obtain ⟨before, captures, entries, hcount, hdigests, hloop, hpass, hobs, hwindows, hxs⟩ :=
    evaluateRecoveryWith_passes hshort
  obtain ⟨all, captures', entries', hcount', hdigests', hloop', hpass', hobs', hwindows', -⟩ :=
    evaluateRecoveryWith_passes hlong
  -- the longer run begins with the shorter one
  obtain ⟨before', after, rfl, hbefore⟩ := parseDigests_append hdigests'
  obtain rfl : before = before' := Except.ok.inj (hdigests.symm.trans hbefore)
  have hlength : before.length = xs.length := (parseDigests_length hdigests).trans hcount
  rw [List.zip_append hlength.symm] at hloop'
  obtain ⟨first, rest, rfl, hfirst⟩ := captureLoop_append hloop'
  obtain rfl : captures = first := Except.ok.inj (hloop.symm.trans hfirst)
  rw [List.map_append] at hpass'
  obtain ⟨head, tail, rfl, hhead⟩ := firstPass_append hpass'
  obtain rfl : entries = head := Except.ok.inj (hpass.symm.trans hhead)
  have hentries : (entries.map (·.1)).length = xs.length := by
    rw [← (firstPass_forall₂ (by decide) hpass).length_eq, List.length_map,
      captureLoop_length hloop, List.length_zip, hlength, Nat.min_self]
  have htotal : ((entries ++ tail).map (·.1)).length = xs.length + ys.length := by
    have hafter : after.length = ys.length := by
      have := parseDigests_length hdigests'
      simp only [List.length_append] at this hcount'
      omega
    rw [← (firstPass_forall₂ (by decide) hpass').length_eq, List.length_append, List.length_map,
      List.length_map, ← List.length_append, captureLoop_length hloop', List.length_append,
      List.length_zip, List.length_zip, hlength, hafter, Nat.min_self, Nat.min_self]
  have hpos : 0 < ys.length := List.length_pos_of_ne_nil hys
  have hne : entries.map (·.1) ≠ [] :=
    List.ne_nil_of_length_pos (hentries ▸ List.length_pos_of_ne_nil hxs)
  have hne' : (entries ++ tail).map (·.1) ≠ [] := List.ne_nil_of_length_pos (by omega)
  refine ⟨by rw [hobs, secondPass_length _ hne, hentries],
    by rw [hobs', secondPass_length _ hne', htotal], ?_, ?_⟩
  · intro i o o' ho ho'
    have hi : i < xs.length := by
      have := (List.getElem?_eq_some_iff.mp ho).1
      rwa [hobs, secondPass_length _ hne, hentries] at this
    -- in the longer evaluation the capture is not the last one
    rw [hobs', secondPass_getElem? _ (by omega), List.map_append,
      List.getElem?_append_left (by omega)] at ho'
    rw [hobs] at ho
    -- and the first pass recovers nothing
    have hnot := FirstPassOf.not_recovered_of_mem (firstPass_forall₂ (by decide) hpass) o'
      (List.mem_of_getElem? ho')
    by_cases hlast : i + 1 = xs.length
    · rcases secondPass_last hpass (hlast.trans hentries.symm) ho ho' with rfl | ⟨rfl, hstate⟩
      · exact .inl ⟨rfl, hnot⟩
      · exact .inr ⟨hlast, rfl, hstate, rfl⟩
    · rw [secondPass_getElem? _ (by omega)] at ho
      obtain rfl := Option.some.inj (ho.symm.trans ho')
      exact .inl ⟨rfl, hnot⟩
  · rw [hwindows, hwindows', List.flatMap_append]
    exact List.prefix_append _ _

/-- The evaluation with a sixth capture. -/
def longerEvaluation : Except OpsExc RecoveryEvaluation :=
  evaluateRecovery recoveryRuntime (Evaluator.coreEvaluator decimalResult recoveryRuntime)
    "incident-1" timedActivation ([16, 31, 46, 61, 76].map drainingBundle ++ [drainingBundle 91])
    (List.replicate 5 (repeatedDigest '0').text ++ [(repeatedDigest '0').text]) .v2

/-- Five captures that end in RECOVERED, and a sixth: the fifth capture is no longer RECOVERED in
the longer evaluation. -/
theorem recovery_evaluation_prefix_stable_sample :
    ∃ short long o o', drainingEvaluation [16, 31, 46, 61, 76] = .ok short ∧
      longerEvaluation = .ok long ∧
      short.observations[4]? = some o ∧ long.observations[4]? = some o' ∧
      o.state_after_capture = .workerBacklogRecovered ∧
      (o'.state_after_capture = .workerBacklogRecovering ∨
        o'.state_after_capture = .workerBacklogActive) ∧
      short.window.matched_recovering_windows <+: long.window.matched_recovering_windows := by
  have hshort : ((drainingEvaluation [16, 31, 46, 61, 76]).map fun evaluation =>
      evaluation.observations[4]?.map (·.state_after_capture)).toOption =
        some (some .workerBacklogRecovered) := by
    rw [drainingEvaluation_eq (by decide)]
    decide +kernel
  have hlong : (longerEvaluation.map fun evaluation => evaluation.observations.length).toOption =
      some 6 := by
    rw [longerEvaluation, evaluateRecovery_congr (fun _ => .ok ⟨[], drainingIds⟩)]
    · decide +kernel
    · intro bundle hbundle
      obtain ⟨s, hs, rfl⟩ : ∃ s ∈ sampleSeconds, drainingBundle s = bundle := List.mem_map.mp hbundle
      exact drainingBundle_core hs
  obtain ⟨short, h, hfifth⟩ := exists_of_map_toOption hshort
  obtain ⟨long, h', hsix⟩ := exists_of_map_toOption hlong
  obtain ⟨o, ho, hrecovered⟩ := Option.map_eq_some_iff.mp hfifth
  obtain ⟨o', ho'⟩ : ∃ o', long.observations[4]? = some o' :=
    ⟨_, List.getElem?_eq_getElem (by omega)⟩
  obtain ⟨-, -, hsame, hwindows⟩ := recovery_evaluation_prefix_stable h h' (List.cons_ne_nil _ _)
  rcases hsame 4 o o' ho ho' with ⟨-, hnot⟩ | ⟨-, -, hstate, -⟩
  · exact absurd hrecovered hnot
  · exact ⟨short, long, o, o', h, h', ho, ho', hrecovered, hstate, hwindows⟩

end EventPipeline.Guarantees
