import EventPipeline.Guarantees.IncidentLifecycle
import EventPipeline.OpsAgent.ConditionEvaluators

/-!
# EventPipeline.Guarantees.RecoveryEvaluation

The integrity latch of a recovery evaluation, and what a RECOVERED verdict stands for.

`captureLoop_latch` carries a broken stream through the capture loop, `firstPass_forall₂`
says what the first pass makes of a raw observation, and `reentry_foldl` what the second
pass has counted. `recovery_evaluation_sound` puts them together.
-/

namespace EventPipeline.Guarantees

open EventPipeline.Python EventPipeline.OpsAgent

variable {rt : OpsRuntime} {read : BundleReader} {policy : RecoveryEvaluationPolicy}

/-! ### Issue codes -/

/-- An issue of `_GLOBAL_INTEGRITY_ISSUES` is among the codes. -/
def GlobalIssue (codes : List PyStr) : Prop := ∃ code ∈ codes, code ∈ globalIntegrityIssues

theorem broken_not_global :
    PyStr.ofString "RECOVERY_SEQUENCE_INTEGRITY_BROKEN" ∉ globalIntegrityIssues := by
  decide

/-- The latch adds no global issue of its own. -/
theorem latched_of_global {broken : Bool} {issues : List PyStr}
    (h : GlobalIssue (latchedIssues broken issues)) : latched broken issues = true := by
  obtain ⟨code, hcode, hglobal⟩ := h
  unfold latchedIssues at hcode
  split_ifs at hcode with hlatched
  · exact hlatched
  · simp only [latched, Bool.or_eq_true, List.any_eq_true, decide_eq_true_eq, not_or] at hlatched
    exact absurd ⟨code, hcode, hglobal⟩ hlatched.2

/-- A latched capture has an issue. -/
theorem latchedIssues_ne_nil {broken : Bool} {issues : List PyStr}
    (h : latched broken issues = true) : (latchedIssues broken issues).isEmpty = false := by
  rw [latchedIssues, if_pos h, List.isEmpty_eq_false_iff_exists_mem]
  exact ⟨PyStr.ofString "RECOVERY_SEQUENCE_INTEGRITY_BROKEN", by simp⟩

/-! ### The capture loop

Once a global issue was found the stream is broken, and it stays so: the rest of the captures is
read, but none of them is usable. -/

variable {setting : CaptureSetting}

/-- After the stream has broken no capture is usable. -/
theorem captureLoop_broken {index : Nat} {state : CaptureState}
    {captures : List (EvidenceBundle × Sha256)}
    {entries : List (RecoverySourceBundleReference × RawObservation)}
    (h : captureLoop rt read setting index state captures = .ok entries)
    (hbroken : state.stream_integrity_broken = true) : ∀ e ∈ entries, e.2.usable = false := by
  induction captures generalizing index state entries with
  | nil =>
      cases h
      simp
  | cons capture captures ih =>
      simp only [captureLoop, bind_ok, pure_ok] at h
      obtain ⟨reading, -, tail, htail, rfl⟩ := h
      intro e he
      rcases List.mem_cons.mp he with rfl | he
      · exact latchedIssues_ne_nil (by simp [latched, hbroken])
      · exact ih htail (by simp [captureStep, latched, hbroken]) e he

/-- A global issue makes its capture and every later one unusable. -/
theorem captureLoop_latch {index : Nat} {state : CaptureState}
    {captures : List (EvidenceBundle × Sha256)}
    {entries : List (RecoverySourceBundleReference × RawObservation)}
    (h : captureLoop rt read setting index state captures = .ok entries) :
    (∀ e ∈ entries, GlobalIssue e.2.issue_codes → e.2.usable = false) ∧
      entries.Pairwise fun e e' => GlobalIssue e.2.issue_codes → e'.2.usable = false := by
  induction captures generalizing index state entries with
  | nil =>
      cases h
      simp
  | cons capture captures ih =>
      simp only [captureLoop, bind_ok, pure_ok] at h
      obtain ⟨reading, -, tail, htail, rfl⟩ := h
      obtain ⟨hself, hlater⟩ := ih htail
      refine ⟨?_, List.pairwise_cons.mpr ⟨?_, hlater⟩⟩
      · intro e he
        rcases List.mem_cons.mp he with rfl | he
        · exact fun hglobal => latchedIssues_ne_nil (latched_of_global hglobal)
        · exact hself e he
      · intro e he hglobal
        exact captureLoop_broken htail (latched_of_global hglobal) e he

theorem captureLoop_length {index : Nat} {state : CaptureState}
    {captures : List (EvidenceBundle × Sha256)}
    {entries : List (RecoverySourceBundleReference × RawObservation)}
    (h : captureLoop rt read setting index state captures = .ok entries) :
    entries.length = captures.length := by
  induction captures generalizing index state entries with
  | nil =>
      cases h
      rfl
  | cons capture captures ih =>
      simp only [captureLoop, bind_ok, pure_ok] at h
      obtain ⟨reading, -, tail, htail, rfl⟩ := h
      rw [List.length_cons, List.length_cons, ih htail]

/-- Every capture reports every problem of the activation, since they are among the issues of a
capture whether the latch is set or not. -/
theorem captureLoop_problems {index : Nat} {state : CaptureState}
    {captures : List (EvidenceBundle × Sha256)}
    {entries : List (RecoverySourceBundleReference × RawObservation)}
    (h : captureLoop rt read setting index state captures = .ok entries) :
    ∀ e ∈ entries, ∀ code ∈ setting.activation_problems, code ∈ e.2.issue_codes := by
  induction captures generalizing index state entries with
  | nil =>
      cases h
      simp
  | cons capture captures ih =>
      simp only [captureLoop, bind_ok, pure_ok] at h
      obtain ⟨reading, -, tail, htail, rfl⟩ := h
      intro e he code hcode
      rcases List.mem_cons.mp he with rfl | he
      · have hissue : code ∈ captureIssues setting state capture.1 capture.2
            (rt.sha256 capture.1) reading := by
          simp [captureIssues, hcode]
        simp only [captureStep, latchedIssues]
        split_ifs
        · exact mem_sortedSet.mpr (List.mem_append_left _ hissue)
        · exact hissue
      · exact ih htail e he code hcode

/-! ### The first pass

The first pass gives each capture the state of the window that ends with it. It knows nothing of
RECOVERED. -/

/-- What the first pass makes of a raw observation. It takes over the usability and the issue
codes, and marks nothing as recovered: that is left to the second pass. -/
structure FirstPassOf (raw : RawObservation) (observation : RecoveryCaptureObservation) : Prop where
  usable : observation.usable = raw.usable
  issue_codes : observation.issue_codes = raw.issue_codes
  unknown : raw.usable = false → observation.state_after_capture = .workerBacklogUnknown
  not_recovered : observation.state_after_capture ≠ .workerBacklogRecovered

theorem windowState_ne_recovered (required_count : Nat) (recovering_seen : Bool)
    (candidate : List RawObservation) :
    (windowState required_count recovering_seen candidate).1 ≠ .workerBacklogRecovered := by
  unfold windowState
  split_ifs <;> simp

theorem windowState_unknown {required_count : Nat} {recovering_seen : Bool}
    {candidate : List RawObservation} {raw : RawObservation} (hraw : raw ∈ candidate)
    (h : raw.usable = false) :
    (windowState required_count recovering_seen candidate).1 = .workerBacklogUnknown := by
  unfold windowState
  rw [if_pos]
  exact List.any_eq_true.mpr ⟨raw, hraw, by simp [h]⟩

theorem mem_lastItems_append {α : Type} {count : Nat} (hcount : 0 < count) (xs : List α) (x : α) :
    x ∈ lastItems count (xs ++ [x]) := by
  have hlength : (xs ++ [x]).length - count ≤ xs.length := by
    simp only [List.length_append, List.length_singleton]
    omega
  rw [lastItems, List.drop_append_of_le_length hlength]
  exact List.mem_append_right _ (List.mem_singleton_self x)

theorem firstPass_forall₂ {required_count : Nat} (hcount : 0 < required_count)
    {seen : List RawObservation} {recovering_seen : Bool} {raws : List RawObservation}
    {entries : List (RecoveryCaptureObservation × List (List Nat))}
    (h : firstPass required_count seen recovering_seen raws = .ok entries) :
    List.Forall₂ FirstPassOf raws (entries.map (·.1)) := by
  induction raws generalizing seen recovering_seen entries with
  | nil =>
      cases h
      exact .nil
  | cons raw raws ih =>
      simp only [firstPass, captureObservation, bind_ok, pure_ok] at h
      obtain ⟨observation, ⟨total_lag, -, rfl⟩, tail, htail, rfl⟩ := h
      refine .cons ⟨rfl, rfl, fun hraw => ?_, ?_⟩ (ih htail)
      · exact windowState_unknown (mem_lastItems_append hcount seen raw) hraw
      · exact windowState_ne_recovered _ _ _

/-! ### The second pass

A run of captures inside the envelope is counted from the first capture that was RECOVERING. What
was counted is a suffix of the list, so that a recovered window is the end of the sequence. -/

/-- A capture inside the RECOVERED envelope of the policy. -/
structure InEnvelope (policy : RecoveryEvaluationPolicy)
    (observation : RecoveryCaptureObservation) : Prop where
  usable : observation.usable = true
  postgres_ready : observation.postgres_ready = some true
  consistent : observation.rate_arithmetic_consistent = some true
  lag : ∃ lag maximum, observation.total_lag_records = some lag ∧
    policy.recovered_total_lag_maximum = some maximum ∧ lag ≤ maximum
  slope : ∃ slope maximum, observation.lag_slope_60s_records_per_second = some slope ∧
    policy.recovered_lag_slope_maximum = some maximum ∧ slope.le maximum = true
  rates : ∃ produce minimum maximum committed,
    observation.produce_rate_60s_records_per_second = some produce ∧
    policy.recovered_actual_produce_rate_minimum = some minimum ∧
    policy.recovered_actual_produce_rate_maximum = some maximum ∧
    observation.committed_offset_rate_60s_records_per_second = some committed ∧
    minimum.le produce = true ∧ produce.le maximum = true ∧ produce.le committed = true

theorem inEnvelope_of_within {observation : RecoveryCaptureObservation}
    (h : withinRecoveredEnvelope observation policy = true) : InEnvelope policy observation := by
  simp only [withinRecoveredEnvelope, Bool.and_eq_true, decide_eq_true_eq] at h
  obtain ⟨⟨⟨⟨⟨⟨-, husable⟩, hready⟩, hconsistent⟩, hlag⟩, hslope⟩, hrates⟩ := h
  refine ⟨husable, hready, hconsistent, ?_, ?_, ?_⟩
  · split at hlag
    · rename_i lag maximum hl hm
      exact ⟨lag, maximum, hl, hm, of_decide_eq_true hlag⟩
    · simp at hlag
  · split at hslope
    · rename_i slope maximum hs hm
      exact ⟨slope, maximum, hs, hm, hslope⟩
    · simp at hslope
  · split at hrates
    · rename_i produce minimum maximum committed hp hmin hmax hc
      simp only [Bool.and_eq_true] at hrates
      exact ⟨produce, minimum, maximum, committed, hp, hmin, hmax, hc, hrates.1.1, hrates.1.2,
        hrates.2⟩
    · simp at hrates

/-- What the second pass has counted: a suffix inside the envelope that begins at or
after a capture that was RECOVERING. -/
structure Reentry (policy : RecoveryEvaluationPolicy)
    (observations : List RecoveryCaptureObservation) (pass : Bool × List Nat) : Prop where
  seen : pass.1 = true → ∃ o ∈ observations, o.state_after_capture = .workerBacklogRecovering
  suffix : ∃ before since, observations = before ++ since ∧ since.length = pass.2.length ∧
    (∀ o ∈ since, InEnvelope policy o) ∧
    (since ≠ [] → ∃ o ∈ before ++ since.take 1, o.state_after_capture = .workerBacklogRecovering)

theorem reentryStep_reentry {observations : List RecoveryCaptureObservation}
    {pass : Bool × List Nat} (h : Reentry policy observations pass)
    (observation : RecoveryCaptureObservation) :
    Reentry policy (observations ++ [observation]) (reentryStep policy pass observation) := by
  -- RECOVERING was seen before, or is the state of this observation
  have hseen : (reentryStep policy pass observation).1 = true →
      ∃ o ∈ observations ++ [observation], o.state_after_capture = .workerBacklogRecovering := by
    intro hstep
    simp only [reentryStep, Bool.or_eq_true, decide_eq_true_eq] at hstep
    rcases hstep with hbefore | hnow
    · obtain ⟨o, ho, hstate⟩ := h.seen hbefore
      exact ⟨o, List.mem_append_left _ ho, hstate⟩
    · exact ⟨observation, by simp, hnow⟩
  refine ⟨hseen, ?_⟩
  by_cases hwithin : ((pass.1 || decide (observation.state_after_capture
      = .workerBacklogRecovering)) && withinRecoveredEnvelope observation policy) = true
  · obtain ⟨before, since, hsplit, hlength, hin, hrecovering⟩ := h.suffix
    simp only [reentryStep, if_pos hwithin] at hseen ⊢
    rw [Bool.and_eq_true] at hwithin
    refine ⟨before, since ++ [observation], by simp [hsplit], by simp [hlength], ?_, fun _ => ?_⟩
    · intro o ho
      rcases List.mem_append.mp ho with ho | ho
      · exact hin o ho
      · rw [List.mem_singleton.mp ho]
        exact inEnvelope_of_within hwithin.2
    · -- the first index after RECOVERING starts the run, the others extend it
      cases since with
      | nil =>
          obtain ⟨o, ho, hstate⟩ := hseen hwithin.1
          exact ⟨o, by simpa [hsplit] using ho, hstate⟩
      | cons first since => simpa using hrecovering (by simp)
  · simp only [reentryStep, if_neg hwithin]
    exact ⟨observations ++ [observation], [], by simp, rfl, by simp, by simp⟩

/-- The second pass over all the observations. -/
theorem reentry_foldl (observations : List RecoveryCaptureObservation) :
    Reentry policy observations (observations.foldl (reentryStep policy) (false, [])) := by
  induction observations using List.reverseRecOn with
  | nil => exact ⟨by simp, [], [], rfl, rfl, by simp, by simp⟩
  | append_singleton observations observation ih =>
      rw [List.foldl_append]
      exact reentryStep_reentry ih observation

/-- What a recovered window stands for: at least three captures at the end of the sequence, all of
them inside the envelope, and one that was RECOVERING at or before the first of them. -/
theorem recoveredWindow_sound {observations : List RecoveryCaptureObservation}
    (h : recoveredWindow policy observations ≠ []) :
    policy = .v2 ∧ ∃ before since, observations = before ++ since ∧ 3 ≤ since.length ∧
      (∀ o ∈ since, InEnvelope policy o) ∧
      ∃ o ∈ before ++ since.take 1, o.state_after_capture = .workerBacklogRecovering := by
  unfold recoveredWindow at h
  by_cases hv2 : policy.isV2 = true
  swap
  · exact absurd (if_neg hv2) h
  rw [if_pos hv2] at h
  obtain rfl := RecoveryEvaluationPolicy.isV2_iff.mp hv2
  simp only [RecoveryEvaluationPolicy.recovered_consecutive_capture_count] at h
  by_cases hcount : 3 ≤ (observations.foldl (reentryStep .v2) (false, [])).2.length
  swap
  · exact absurd (if_neg hcount) h
  obtain ⟨before, since, hsplit, hlength, hin, hrecovering⟩ := (reentry_foldl observations).suffix
  have hthree : 3 ≤ since.length := hlength ▸ hcount
  exact ⟨rfl, before, since, hsplit, hthree, hin,
    hrecovering (List.ne_nil_of_length_pos (Nat.lt_of_lt_of_le (by decide) hthree))⟩

/-- The last three captures of a recovered window are inside the envelope as well, and no later
than the first of them one was RECOVERING. -/
theorem recoveredWindow_last3 {observations : List RecoveryCaptureObservation}
    (h : recoveredWindow policy observations ≠ []) :
    policy = .v2 ∧ ∃ before mid a b c, observations = before ++ (mid ++ [a, b, c]) ∧
      (∀ o ∈ [a, b, c], InEnvelope policy o) ∧
      ∃ o ∈ before ++ mid ++ [a], o.state_after_capture = .workerBacklogRecovering := by
  obtain ⟨hv2, before, since, hsplit, hthree, hin, o, ho, hstate⟩ := recoveredWindow_sound h
  obtain ⟨a, b, c, hlast⟩ : ∃ a b c, since.drop (since.length - 3) = [a, b, c] :=
    List.length_eq_three.mp (by rw [List.length_drop]; omega)
  have hsince : since.take (since.length - 3) ++ [a, b, c] = since := by
    rw [← hlast, List.take_append_drop]
  refine ⟨hv2, before, since.take (since.length - 3), a, b, c, by rw [hsince, hsplit], ?_, o, ?_,
    hstate⟩
  · intro o ho
    exact hin o (List.mem_of_mem_drop (hlast ▸ ho))
  · rw [← hsince] at ho
    cases hmid : since.take (since.length - 3) with
    | nil => simpa [hmid] using ho
    | cons first mid =>
        simp only [hmid, List.cons_append, List.take_succ_cons, List.take_zero, List.mem_append,
          List.mem_cons] at ho ⊢
        tauto

/-! ### The evaluation

The second pass rewrites the last observation at most. All others are those of the first pass. -/

theorem forall₂_getElem? {α β : Type} {R : α → β → Prop} {xs : List α} {ys : List β}
    (h : List.Forall₂ R xs ys) {i : Nat} {y : β} (hy : ys[i]? = some y) :
    ∃ x, xs[i]? = some x ∧ R x y := by
  induction h generalizing i with
  | nil => simp at hy
  | cons hxy _ ih =>
      cases i with
      | zero =>
          obtain rfl := Option.some.inj hy
          exact ⟨_, rfl, hxy⟩
      | succ i => exact ih hy

/-- The latch, on the observations of the first pass. -/
theorem firstPass_latch {index : Nat} {state : CaptureState}
    {captures : List (EvidenceBundle × Sha256)}
    {entries : List (RecoverySourceBundleReference × RawObservation)}
    {observations : List RecoveryCaptureObservation}
    (hloop : captureLoop rt read setting index state captures = .ok entries)
    (hpass : List.Forall₂ FirstPassOf (entries.map (·.2)) observations) {i j : Nat}
    {o o' : RecoveryCaptureObservation} (hi : observations[i]? = some o)
    (hj : observations[j]? = some o') (hij : i ≤ j) (hglobal : GlobalIssue o.issue_codes) :
    o'.usable = false ∧ o'.state_after_capture = .workerBacklogUnknown := by
  obtain ⟨hself, hlater⟩ := captureLoop_latch hloop
  obtain ⟨raw, hraw, hof⟩ := forall₂_getElem? hpass hi
  obtain ⟨raw', hraw', hof'⟩ := forall₂_getElem? hpass hj
  rw [List.getElem?_map, Option.map_eq_some_iff] at hraw hraw'
  obtain ⟨e, he, rfl⟩ := hraw
  obtain ⟨e', he', rfl⟩ := hraw'
  have hunusable : e'.2.usable = false := by
    rw [hof.issue_codes] at hglobal
    rcases hij.lt_or_eq with hlt | rfl
    · obtain ⟨hi', hei⟩ := List.getElem?_eq_some_iff.mp he
      obtain ⟨hj', hej⟩ := List.getElem?_eq_some_iff.mp he'
      have hpair := List.pairwise_iff_getElem.mp hlater i j hi' hj' hlt
      rw [hei, hej] at hpair
      exact hpair hglobal
    · rw [Option.some.inj (he'.symm.trans he)]
      exact hself e (List.mem_of_getElem? he) hglobal
  exact ⟨hof'.usable.trans hunusable, hof'.unknown hunusable⟩

/-- The second pass changes at most the last state, and only of a recovered sequence. -/
theorem secondPass_cases (observations : List RecoveryCaptureObservation)
    (hne : observations ≠ []) :
    (recoveredWindow policy observations = [] ∧ secondPass policy observations = observations) ∨
      (recoveredWindow policy observations ≠ [] ∧ ∃ front last, observations = front ++ [last] ∧
        secondPass policy observations = front ++ [asRecovered last]) := by
  by_cases hwindow : recoveredWindow policy observations = []
  · exact Or.inl ⟨hwindow, if_pos hwindow⟩
  · refine Or.inr ⟨hwindow, observations.dropLast, observations.getLast hne,
      (List.dropLast_append_getLast hne).symm, ?_⟩
    simp [secondPass, if_neg hwindow, List.getLast?_eq_getLast_of_ne_nil hne]

theorem parseDigests_length {values : List PyStr} {digests : List Sha256}
    (h : parseDigests values = .ok digests) : digests.length = values.length := by
  induction values generalizing digests with
  | nil =>
      cases h
      rfl
  | cons value values ih =>
      unfold parseDigests at h
      split_ifs at h with hvalue
      simp only [bind_ok, pure_ok] at h
      obtain ⟨tail, htail, rfl⟩ := h
      rw [List.length_cons, List.length_cons, ih htail]

/-- The second pass leaves everything but the last observation. -/
theorem secondPass_getElem? (observations : List RecoveryCaptureObservation) {i : Nat}
    (hi : i + 1 < observations.length) :
    (secondPass policy observations)[i]? = observations[i]? := by
  have hne : observations ≠ [] := List.ne_nil_of_length_pos (by omega)
  rcases @secondPass_cases policy observations hne with
    ⟨-, hsame⟩ | ⟨-, front, last, hfirst, hfinal⟩
  · rw [hsame]
  · have hfront : i < front.length := by
      rw [hfirst, List.length_append] at hi
      simpa using hi
    rw [hfinal, hfirst, List.getElem?_append_left hfront, List.getElem?_append_left hfront]

theorem secondPass_length (observations : List RecoveryCaptureObservation)
    (hne : observations ≠ []) :
    (secondPass policy observations).length = observations.length := by
  rcases @secondPass_cases policy observations hne with
    ⟨-, hsame⟩ | ⟨-, front, last, hfirst, hfinal⟩
  · rw [hsame]
  · rw [hfinal, hfirst]
    simp

/-- An observation after the second pass is the one of the first pass, or that one as RECOVERED. -/
theorem secondPass_from {first : List RecoveryCaptureObservation} (hne : first ≠ []) {i : Nat}
    {o : RecoveryCaptureObservation} (ho : (secondPass policy first)[i]? = some o) :
    ∃ o', first[i]? = some o' ∧ (o = o' ∨ o = asRecovered o') := by
  rcases @secondPass_cases policy first hne with ⟨-, hsame⟩ | ⟨-, front, last, rfl, hfinal⟩
  · rw [hsame] at ho
    exact ⟨o, ho, Or.inl rfl⟩
  · rw [hfinal] at ho
    by_cases hi : i < front.length
    · rw [List.getElem?_append_left hi] at ho ⊢
      exact ⟨o, ho, Or.inl rfl⟩
    · rw [List.getElem?_append_right (by omega)] at ho ⊢
      obtain ⟨hzero, hlast⟩ := List.getElem?_eq_some_iff.mp ho
      simp only [List.length_singleton, Nat.lt_one_iff] at hzero
      exact ⟨last, by simp [hzero], Or.inr (by simpa [hzero] using hlast.symm)⟩

/-! ### The first pass as a whole

What both passes say about the evaluation rests on four facts about the observations of the first
pass. -/

/-- What the first pass hands over to the second: one observation for each bundle, with the
problems of the sequence in all of them. From the first global issue on, no observation is usable.
-/
structure FirstObservations (problems : List PyStr) (count : Nat)
    (first : List RecoveryCaptureObservation) : Prop where
  length : first.length = count
  problems : ∀ o ∈ first, ∀ code ∈ problems, code ∈ o.issue_codes
  latch : ∀ (i j : Nat) (o o' : RecoveryCaptureObservation), first[i]? = some o →
    first[j]? = some o' → i ≤ j → GlobalIssue o.issue_codes →
    o'.usable = false ∧ o'.state_after_capture = .workerBacklogUnknown
  not_recovered : ∀ o ∈ first, o.state_after_capture ≠ .workerBacklogRecovered

theorem FirstPassOf.not_recovered_of_mem {raws : List RawObservation}
    {first : List RecoveryCaptureObservation} (h : List.Forall₂ FirstPassOf raws first) :
    ∀ o ∈ first, o.state_after_capture ≠ .workerBacklogRecovered := by
  intro o ho
  obtain ⟨i, hi⟩ := List.mem_iff_getElem?.mp ho
  obtain ⟨raw, -, hof⟩ := forall₂_getElem? h hi
  exact hof.not_recovered

theorem firstObservations {setting : CaptureSetting} {start : CaptureState}
    {captures : List (EvidenceBundle × Sha256)}
    {entries : List (RecoverySourceBundleReference × RawObservation)}
    {first : List RecoveryCaptureObservation}
    (hloop : captureLoop rt read setting 0 start captures = .ok entries)
    (hpass : List.Forall₂ FirstPassOf (entries.map (·.2)) first) :
    FirstObservations setting.activation_problems captures.length first where
  length := by rw [← hpass.length_eq, List.length_map, captureLoop_length hloop]
  problems := by
    intro o ho code hcode
    obtain ⟨i, hi⟩ := List.mem_iff_getElem?.mp ho
    obtain ⟨raw, hraw, hof⟩ := forall₂_getElem? hpass hi
    obtain ⟨e, he, rfl⟩ := List.mem_map.mp (List.mem_of_getElem? hraw)
    rw [hof.issue_codes]
    exact captureLoop_problems hloop e he code hcode
  latch := fun i j o o' hi hj hij hglobal => firstPass_latch hloop hpass hi hj hij hglobal
  not_recovered := FirstPassOf.not_recovered_of_mem hpass

section SecondPass

variable {problems : List PyStr} {count : Nat} {first : List RecoveryCaptureObservation}

/-- The last capture of a recovered window is usable, so nothing was latched before it. -/
theorem FirstObservations.clean (h : FirstObservations problems count first)
    (hwindow : recoveredWindow policy first ≠ []) : ∀ o ∈ first, ¬GlobalIssue o.issue_codes := by
  intro o ho hglobal
  obtain ⟨-, before, mid, a, b, c, hsplit, hin, -⟩ := recoveredWindow_last3 hwindow
  have hlast : first[first.length - 1]? = some c := by
    rw [← List.getLast?_eq_getElem?, hsplit]
    simp
  obtain ⟨i, hi⟩ := List.mem_iff_getElem?.mp ho
  have hlt := (List.getElem?_eq_some_iff.mp hi).1
  have hunusable := (h.latch i _ o c hi hlast (by omega) hglobal).1
  rw [(hin c (by simp)).usable] at hunusable
  cases hunusable

/-- The second pass leaves the issue codes alone. -/
theorem secondPass_issue_codes (hne : first ≠ []) {i : Nat} {o : RecoveryCaptureObservation}
    (ho : (secondPass policy first)[i]? = some o) :
    ∃ o', first[i]? = some o' ∧ o.issue_codes = o'.issue_codes := by
  obtain ⟨o', ho', hfrom⟩ := secondPass_from hne ho
  refine ⟨o', ho', ?_⟩
  rcases hfrom with rfl | rfl <;> rfl

/-- The latch after both passes: the second pass keeps the issue codes, and where there is a
recovered window, no observation has a global issue. -/
theorem FirstObservations.secondPass_latch (h : FirstObservations problems count first)
    (hne : first ≠ []) {i j : Nat} {o o' : RecoveryCaptureObservation}
    (hi : (secondPass policy first)[i]? = some o) (hj : (secondPass policy first)[j]? = some o')
    (hij : i ≤ j) (hglobal : GlobalIssue o.issue_codes) :
    o'.usable = false ∧ o'.state_after_capture = .workerBacklogUnknown := by
  rcases @secondPass_cases policy first hne with ⟨-, hsame⟩ | ⟨hwindow, -⟩
  · rw [hsame] at hi hj
    exact h.latch i j o o' hi hj hij hglobal
  · -- a recovered window has no global issue to begin with
    obtain ⟨o₁, ho₁, hcodes⟩ := secondPass_issue_codes hne hi
    exact absurd (hcodes ▸ hglobal) (h.clean hwindow o₁ (List.mem_of_getElem? ho₁))

/-- Only the last observation can be RECOVERED, because the second pass rewrites no other, and the
first marks none. -/
theorem FirstObservations.dropLast_not_recovered (h : FirstObservations problems count first)
    (hne : first ≠ []) : ∀ o ∈ (secondPass policy first).dropLast,
      o.state_after_capture ≠ .workerBacklogRecovered := by
  intro o ho
  rcases @secondPass_cases policy first hne with ⟨-, hsame⟩ | ⟨-, front, last, hfirst, hfinal⟩
  · rw [hsame] at ho
    exact h.not_recovered o (List.dropLast_subset _ ho)
  · rw [hfinal, List.dropLast_concat] at ho
    exact h.not_recovered o (hfirst ▸ List.mem_append_left _ ho)

/-- What stands behind a last observation that is RECOVERED. -/
theorem FirstObservations.recovered (h : FirstObservations problems count first) (hne : first ≠ [])
    {final : RecoveryCaptureObservation} (hfinal : (secondPass policy first).getLast? = some final)
    (hrecovered : final.state_after_capture = .workerBacklogRecovered) :
    policy = .v2 ∧ ∃ before last3, secondPass policy first = before ++ last3 ∧ last3.length = 3 ∧
      (∀ o ∈ last3, InEnvelope policy o) ∧
      ∃ o ∈ before ++ last3.take 1, o.state_after_capture = .workerBacklogRecovering := by
  rcases @secondPass_cases policy first hne with
    ⟨-, hsame⟩ | ⟨hwindow, front, last, hfirst, hsecond⟩
  · -- without a recovered window the first pass stands, which recovers nothing
    rw [hsame] at hfinal
    exact absurd hrecovered (h.not_recovered final (List.mem_of_getLast? hfinal))
  · obtain ⟨hv2, before, mid, a, b, c, hsplit, hin, hrecovering⟩ := recoveredWindow_last3 hwindow
    obtain ⟨rfl, rfl⟩ : before ++ mid ++ [a, b] = front ∧ c = last := by
      have hboth : (before ++ mid ++ [a, b]) ++ [c] = front ++ [last] := by
        rw [← hfirst, hsplit]
        simp
      simpa using List.append_inj' hboth rfl
    refine ⟨hv2, before ++ mid, [a, b, asRecovered c], by rw [hsecond]; simp, rfl, ?_, ?_⟩
    · intro o ho
      simp only [List.mem_cons, List.not_mem_nil, or_false] at ho
      rcases ho with rfl | rfl | rfl
      · exact hin _ (by simp)
      · exact hin _ (by simp)
      · -- the second pass does not touch what the envelope is about
        obtain ⟨husable, hready, hconsistent, hlag, hslope, hrates⟩ := hin c (by simp)
        exact ⟨husable, hready, hconsistent, hlag, hslope, hrates⟩
    · simpa using hrecovering

end SecondPass

/-! ### Whole evaluations -/

/-- What an evaluation is made of: the observations of the two passes, with one for each bundle,
and the state of the last of them. -/
theorem evaluateRecoveryWith_parts {incident_id : PyStr} {activation : SequenceConditionEvaluation}
    {bundles : List EvidenceBundle} {digests : List PyStr} {evaluation : RecoveryEvaluation}
    (h : evaluateRecoveryWith rt read incident_id activation bundles digests policy
      = .ok evaluation) :
    ∃ first final,
      FirstObservations (activationIssues activation incident_id policy) bundles.length first ∧
      evaluation.observations = secondPass policy first ∧
      evaluation.observations.getLast? = some final ∧
      evaluation.state = final.state_after_capture := by
  simp only [evaluateRecoveryWith, bind_ok, ensure_eq_ok] at h
  obtain ⟨_, -, _, -, _, -, _, -, _, hcount, digests', hdigests, reference, -, captures,
    hloop, entries, hpass, h⟩ := h
  have hlength : (bundles.zip digests').length = bundles.length := by
    rw [List.length_zip, parseDigests_length hdigests, hcount, Nat.min_self]
  have hfirst := firstObservations hloop (firstPass_forall₂ (by decide : 0 < 3) hpass)
  rw [hlength] at hfirst
  split at h
  · simp at h
  · rename_i final hfinal
    simp only [bind_ok, pure_ok] at h
    obtain ⟨_, -, rfl⟩ := h
    exact ⟨_, final, hfirst, rfl, hfinal, rfl⟩

/-- **Recovery evaluation.** A global integrity issue makes its capture and every later
one unusable and UNKNOWN, up to the final state; RECOVERED is a final state only; and a
RECOVERED verdict has a draining window behind it and three captures in the envelope.

The facts about the first pass are collected in `FirstObservations`: the latch of the capture
loop, and that no window state is RECOVERED. The second pass changes at most the last
observation, and only where a recovered window ends with it; such a window is usable, so the
latch was never closed before it. -/
theorem recovery_evaluation_sound {core : CoreEvaluator} {incident_id : PyStr}
    {activation : SequenceConditionEvaluation} {bundles : List EvidenceBundle}
    {digests : List PyStr} {evaluation : RecoveryEvaluation}
    (h : evaluateRecovery rt core incident_id activation bundles digests policy
      = .ok evaluation) :
    evaluation.observations.length = bundles.length ∧
      (∀ o ∈ evaluation.observations, ∀ code ∈ activationIssues activation incident_id policy,
        code ∈ o.issue_codes) ∧
      (∀ (i j : Nat) (o o' : RecoveryCaptureObservation), evaluation.observations[i]? = some o →
        evaluation.observations[j]? = some o' → i ≤ j → GlobalIssue o.issue_codes →
        o'.usable = false ∧ o'.state_after_capture = .workerBacklogUnknown ∧
          evaluation.state = .workerBacklogUnknown) ∧
      (∀ o ∈ evaluation.observations.dropLast,
        o.state_after_capture ≠ .workerBacklogRecovered) ∧
      (evaluation.state = .workerBacklogRecovered → policy = .v2 ∧
        ∃ before last3, evaluation.observations = before ++ last3 ∧ last3.length = 3 ∧
          (∀ o ∈ last3, InEnvelope policy o) ∧
          ∃ o ∈ before ++ last3.take 1, o.state_after_capture = .workerBacklogRecovering) := by
  obtain ⟨first, final, hfirst, hobservations, hfinal, hstate⟩ := evaluateRecoveryWith_parts h
  rw [hobservations] at hfinal ⊢
  have hne : first ≠ [] := by
    intro hnil
    simp [hnil, secondPass, recoveredWindow] at hfinal
  refine ⟨(secondPass_length first hne).trans hfirst.length, ?_, ?_,
    hfirst.dropLast_not_recovered hne, ?_⟩
  · intro o ho
    obtain ⟨i, hi⟩ := List.mem_iff_getElem?.mp ho
    obtain ⟨o', ho', hcodes⟩ := secondPass_issue_codes hne hi
    rw [hcodes]
    exact hfirst.problems o' (List.mem_of_getElem? ho')
  · intro i j o o' hi hj hij hglobal
    obtain ⟨husable, hunknown⟩ := hfirst.secondPass_latch hne hi hj hij hglobal
    -- the final state is that of the last capture, which comes after every other one
    have hlt := (List.getElem?_eq_some_iff.mp hi).1
    rw [List.getLast?_eq_getElem?] at hfinal
    have hlast := hfirst.secondPass_latch hne hi hfinal (by omega) hglobal
    exact ⟨husable, hunknown, hstate.trans hlast.2⟩
  · intro hrecovered
    exact hfirst.recovered hne hfinal (hstate.symm.trans hrecovered)

/-! ### A recovered sequence

The sample is evaluated with the condition evaluator of the source, which reads the eight
partitions of every capture. Its answers are computed capture by capture, and the evaluation then
runs with these answers in its place. -/

/-- The loop reads nothing but its captures, so that two readers which agree on these give the
same result. -/
theorem captureLoop_congr {read' : BundleReader} {index : Nat} {state : CaptureState}
    {captures : List (EvidenceBundle × Sha256)}
    (h : ∀ capture ∈ captures, read setting.policy capture.1 = read' setting.policy capture.1) :
    captureLoop rt read setting index state captures =
      captureLoop rt read' setting index state captures := by
  induction captures generalizing index state with
  | nil => rfl
  | cons capture captures ih =>
      obtain ⟨bundle, digest⟩ := capture
      have hrest : ∀ state', captureLoop rt read setting (index + 1) state' captures =
          captureLoop rt read' setting (index + 1) state' captures :=
        fun state' => ih fun c hc => h c (List.mem_cons_of_mem _ hc)
      simp only [captureLoop, h _ List.mem_cons_self, hrest]

/-- An evaluation asks the condition evaluator about nothing but its bundles. -/
theorem evaluateRecovery_congr {core : CoreEvaluator} (core' : CoreEvaluator) {incident_id : PyStr}
    {activation : SequenceConditionEvaluation} {bundles : List EvidenceBundle}
    {digests : List PyStr} (h : ∀ bundle ∈ bundles, core bundle = core' bundle) :
    evaluateRecovery rt core incident_id activation bundles digests policy =
      evaluateRecovery rt core' incident_id activation bundles digests policy := by
  have hread : ∀ bundle ∈ bundles,
      readBundle rt core policy bundle = readBundle rt core' policy bundle := by
    intro bundle hbundle
    simp only [readBundle, kafkaObservation, coreReading, evaluateBundle, h bundle hbundle]
  have hloop : ∀ setting : CaptureSetting, setting.policy = policy → ∀ index state digests,
      captureLoop rt (readBundle rt core) setting index state (bundles.zip digests) =
        captureLoop rt (readBundle rt core') setting index state (bundles.zip digests) := by
    intro setting hpolicy index state digests
    refine captureLoop_congr fun capture hcapture => ?_
    rw [hpolicy]
    exact hread _ (List.of_mem_zip (a := capture.1) (b := capture.2) hcapture).1
  simp only [evaluateRecovery, evaluateRecoveryWith, hloop]

/-- A runtime that tells the activation and its source identity from other artifacts. -/
def recoveryRuntime : OpsRuntime :=
  { sampleOpsRuntime with
    sha256 := fun
      | .sequencePayload _ => repeatedDigest 'a'
      | .conditionIdentity _ => repeatedDigest 'c'
      | _ => repeatedDigest '0'
    urlsplit := fun _ => some ⟨"http", "prometheus", false, some (PyStr.ofString "prometheus"),
      some none, [], [], []⟩ }

/-- A fresh OK item collected at a time. -/
def sampleItem (evidence_id source tool_id semantic name : PyStr) (value : Json)
    (labels : List (PyStr × PyStr)) (time : Aware) : EvidenceItem where
  evidence_id := evidence_id
  status := .ok
  source := source
  tool_id := tool_id
  source_timestamp := some time
  collected_at := time
  freshness := ⟨.fresh, some .zero, some .zero, "source"⟩
  metric := ⟨name, value, none, none, none, none⟩
  labels := labels
  coverage := ⟨none, none, none, [], [], [], [], none⟩
  semantic := ⟨semantic, "notes", none, []⟩
  raw_ref := some (PyStr.ofString "raw")
  raw_sha256 := some (repeatedDigest '9')
  error := none

/-- A Kafka series of two samples, a minute apart. -/
def sampleKafka (name partition : PyStr) (first last : Int) (time : Aware) : EvidenceItem :=
  sampleItem (name ++ partition) "prometheus" "prometheus.query_range.v1" "kafka" name
    (.arr [.obj [("timestamp", .int 0), ("value", .int first)],
      .obj [("timestamp", .int 60), ("value", .int last)]])
    [("partition", partition)] time

/-- The series of a partition whose lag goes from `before` to `after`. -/
def samplePartition (partition : PyStr) (produced before after : Int) (time : Aware) :
    List EvidenceItem :=
  [sampleKafka "kafka_topic_partition_current_offset" partition 1000 (1000 + produced) time,
    sampleKafka "kafka_consumergroup_current_offset" partition (1000 - before)
      (1000 + produced - after) time,
    sampleKafka "kafka_consumergroup_lag" partition before after time]

def sampleEndpoint (collector_source : PyStr) (time : Aware) : EvidenceItem :=
  sampleItem collector_source "collector_configuration" "collector.endpoint.identity.v1"
    "effective_source_endpoint_identity" "source_endpoint_identity"
    (.obj [("base_url", .str "http://prometheus"), ("configuration_source", .str "policy"),
      ("identity_version", .str "ops.endpoint.v1"),
      ("identity_sha256", .str (repeatedDigest '0').text)])
    [("collector_source", collector_source)] time

def sampleComponent : Dict := [("ha_mode", .bool true), ("primary_reachable", .bool true)]

def sampleReadiness (time : Aware) : List EvidenceItem :=
  [sampleItem "readiness" "application" "application.readiness.get.v1" "application_readiness"
      "application_readiness_observation"
      (.obj [("http_status", .int 200), ("body_status", .str "ready"),
        ("body", .obj [("status", .str "ready"), ("reason", .arr []),
          ("postgres", .obj sampleComponent)])])
      [("endpoint", "/health/ready")] time,
    sampleItem "postgres" "application" "application.readiness.get.v1"
      "application_postgres_runtime_observation" "application_postgres_runtime_observation"
      (.obj sampleComponent) [("endpoint", "/health/ready")] time]

/-- A bundle collected some seconds after the epoch: 75 records a second are produced and
76 committed. -/
def sampleBundle (seconds : Int) : EvidenceBundle :=
  let time : Aware := ⟨seconds * 1000000, 0⟩
  { bundle_id := "bundle"
    incident_id := "incident-1"
    cluster_profile := "local-ha"
    scope := ⟨some (PyStr.ofString "kind-messaging-ha"), "messaging-app", "message-ingress",
      "message-worker"⟩
    context := ⟨none, none, none, none, [], none, "collector.v1", "tools.v1",
      "local-ha.evidence.v1"⟩
    collection := ⟨time, time, .complete⟩
    evidence := samplePartition (natStr 0) 4500 80 20 time
      ++ (List.range 7).flatMap (fun n => samplePartition (natStr (n + 1)) 0 0 0 time)
      ++ [sampleEndpoint "prometheus" time, sampleEndpoint "application" time]
      ++ sampleReadiness time }

/-- The sample activation with a Kafka source time stamp. -/
def timedActivation : SequenceConditionEvaluation :=
  { sampleActivation with
    source_bundles := [⟨"incident-1", repeatedDigest 'b', ⟨1000000, 0⟩, some ⟨1000000, 0⟩, []⟩]
    source_bundles_length := by decide }

/-- An item of a Kafka family with thirteen samples that end at a second. -/
def sampleSeries (name semantic : PyStr) (seconds : Int) (partition : PyStr)
    (values : Nat → Int) : EvidenceItem where
  evidence_id := name ++ partition
  status := .ok
  source := "prometheus"
  tool_id := PyStr.ofString "prometheus." ++ name ++ PyStr.ofString ".range.v1"
  source_timestamp := some ⟨seconds * 1000000, 0⟩
  collected_at := ⟨seconds * 1000000, 0⟩
  freshness := ⟨.fresh, some .zero, some (.ofNat 15), "prometheus_timestamp_function"⟩
  metric := ⟨name, .arr ((List.range 13).map fun i => .obj [
      ("timestamp", .int (seconds - 60 + 5 * (i : Nat))), ("value", .int (values i))]),
    some (PyStr.ofString "records"), some (PyStr.ofString "60s"),
    some (PyStr.ofString "raw_range_samples"), some 13⟩
  labels := [("__name__", name), ("topic", "message-ingress"), ("consumergroup", "message-worker"),
    ("job", "kafka-exporter"), ("instance", "exporter-0"), ("partition", partition)]
  coverage := ⟨some 8, some 8, some true, Evaluator.topicPartitions, Evaluator.topicPartitions,
    [], [], none⟩
  semantic := ⟨semantic, "notes", none, []⟩
  raw_ref := some (PyStr.ofString "raw")
  raw_sha256 := some (repeatedDigest '9')
  error := none

/-- The series of a partition, where `produced` and `lag` are by sample. -/
def drainingPartition (seconds : Int) (partition : PyStr) (produced lag : Nat → Int) :
    List EvidenceItem :=
  [{ sampleSeries "kafka_topic_partition_current_offset" "kafka_partition_end_offset_gauge" seconds
      partition (fun i => 1000 + produced i) with
      evidence_id := PyStr.ofString "e" ++ partition },
    { sampleSeries "kafka_consumergroup_current_offset" "kafka_consumer_committed_offset_gauge"
      seconds partition (fun i => 1000 + produced i - lag i) with
      evidence_id := PyStr.ofString "c" ++ partition },
    { sampleSeries "kafka_consumergroup_lag" "kafka_consumer_partition_lag_gauge" seconds
      partition lag with
      evidence_id := PyStr.ofString "l" ++ partition }]

/-- A bundle with the series of every partition: 75 records a second are produced in
partition 0 and 76 committed. -/
def drainingBundle (seconds : Int) : EvidenceBundle :=
  let time : Aware := ⟨seconds * 1000000, 0⟩
  { sampleBundle seconds with
    evidence := drainingPartition seconds (natStr 0) (fun i => 375 * i) (fun i => 80 - 5 * i)
      ++ (List.range 7).flatMap (fun n =>
          drainingPartition seconds (natStr (n + 1)) (fun _ => 0) fun _ => 0)
      ++ [sampleEndpoint "prometheus" time, sampleEndpoint "application" time]
      ++ sampleReadiness time }

/-- The evidence that the core condition of these bundles requires. -/
def drainingIds : List PyStr :=
  [PyStr.ofString "e", PyStr.ofString "c", PyStr.ofString "l"].flatMap fun family =>
    Evaluator.topicPartitions.map fun partition => family ++ partition

/-- The core condition has no issue, and this evidence. -/
def readsClean (reading : Except OpsExc CoreReading) : Bool :=
  match reading with
  | .ok reading => reading.issue_codes = [] ∧ reading.evidence_ids = drainingIds
  | .error _ => false

/-- The seconds of the captures of the samples. -/
def sampleSeconds : List Int := [16, 31, 46, 61, 76, 91]

/-- What `evaluate_bundle` says about the captures. -/
theorem drainingBundle_core {seconds : Int} (h : seconds ∈ sampleSeconds) :
    Evaluator.coreEvaluator decimalResult recoveryRuntime (drainingBundle seconds) =
      .ok ⟨[], drainingIds⟩ := by
  have hall : ∀ seconds ∈ sampleSeconds, readsClean (Evaluator.coreEvaluator decimalResult
      recoveryRuntime (drainingBundle seconds)) = true := by decide +kernel
  have hread := hall seconds h
  unfold readsClean at hread
  split at hread
  · rename_i reading hreading
    obtain ⟨hcodes, hids⟩ := of_decide_eq_true hread
    rw [hreading, ← hcodes, ← hids]
  · cases hread

/-- The evaluation of captures, with the evaluator of the source. -/
def drainingEvaluation (seconds : List Int) : Except OpsExc RecoveryEvaluation :=
  evaluateRecovery recoveryRuntime (Evaluator.coreEvaluator decimalResult recoveryRuntime)
    "incident-1" timedActivation (seconds.map drainingBundle)
    (List.replicate seconds.length (repeatedDigest '0').text) .v2

/-- The evaluation once the core condition of its captures is known. -/
theorem drainingEvaluation_eq {seconds : List Int} (h : ∀ s ∈ seconds, s ∈ sampleSeconds) :
    drainingEvaluation seconds = evaluateRecovery recoveryRuntime (fun _ => .ok ⟨[], drainingIds⟩)
      "incident-1" timedActivation (seconds.map drainingBundle)
      (List.replicate seconds.length (repeatedDigest '0').text) .v2 := by
  refine evaluateRecovery_congr _ fun bundle hbundle => ?_
  obtain ⟨s, hs, rfl⟩ := List.mem_map.mp hbundle
  exact drainingBundle_core (h s hs)

/-- The captures drain, stay in the envelope, and the incident has recovered. -/
theorem recovery_evaluation_sound_sample :
    ∃ evaluation, drainingEvaluation [16, 31, 46, 61, 76] = .ok evaluation ∧
      evaluation.state = .workerBacklogRecovered ∧
      ∃ before last3, evaluation.observations = before ++ last3 ∧ last3.length = 3 ∧
        (∀ o ∈ last3, InEnvelope .v2 o) ∧
        ∃ o ∈ before ++ last3.take 1, o.state_after_capture = .workerBacklogRecovering := by
  have hstate : ((drainingEvaluation [16, 31, 46, 61, 76]).map (·.state)).toOption =
      some .workerBacklogRecovered := by
    rw [drainingEvaluation_eq (by decide)]
    decide +kernel
  obtain ⟨evaluation, h, hrecovered⟩ := exists_of_map_toOption hstate
  obtain ⟨-, -, -, -, hsound⟩ := recovery_evaluation_sound h
  exact ⟨evaluation, h, hrecovered, (hsound hrecovered).2⟩

end EventPipeline.Guarantees
