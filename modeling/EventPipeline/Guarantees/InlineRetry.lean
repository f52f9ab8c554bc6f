import EventPipeline.Concurrency.Runs
import EventPipeline.Worker.Handler

/-!
# EventPipeline.Guarantees.InlineRetry

The retries of one ingress record are bounded.

`handleIngressJob` is run against an environment that chooses every answer by what it has
seen: the clock, the database and Kafka may behave in any way, for ever. The loop still ends
(a `transcript` is a list), after as many calls of `persist_ingress_job` as `retry_count`
leaves tries, and one more. The proof follows the loop: what one pass may do
(`runs_awaitNextRetry`, `runs_markInlineRetry`, `runs_giveUp`), then the induction on the
tries that are left.
-/

namespace EventPipeline.Guarantees

open EventPipeline.Python EventPipeline.Portfolio EventPipeline.Worker EventPipeline.Concurrency
open EventPipeline.Concurrency.Prog

/-- What a run of the worker asked for and was answered. -/
abbrev IngressLog := List (Event IngressOp IngressOp.Res)

namespace InlineRetry

/-! ### Delays

The base delay is configured, and may be anything that a float can be. The clamp to sixty seconds
and the fallback for what is no positive number leave a delay that can be slept. -/

theorem maxDelay_ne_nan : maxInlineRetryDelaySeconds ≠ .nan := by
  simp only [maxInlineRetryDelaySeconds, PyFloat.ofNat, PyFloat.ofRat]
  split <;> simp

/-- Sixty seconds, as a float. -/
theorem maxDelay_eq : maxInlineRetryDelaySeconds =
    .finite false ⟨60 * 2 ^ 47, -47, by decide, by decide, by decide,
      Or.inl (by decide)⟩ := by
  have hval : (Binary64.mk (60 * 2 ^ 47) (-47) (by norm_num) (by norm_num) (by norm_num)
      (Or.inl (by norm_num))).toRat = |((60 : Nat) : ℚ)| := by
    norm_num [Binary64.toRat]
  have hneg : ¬ ((60 : Nat) : ℚ) < 0 := by norm_num
  simp only [maxInlineRetryDelaySeconds, PyFloat.ofNat, PyFloat.ofRat, ← hval,
    Binary64.ofRat_toRat, hneg, decide_false]

/-- The base delay is a positive number, whatever is configured. -/
theorem retryBaseDelay_pos (configured : PyFloat) :
    ∃ mag : Binary64, 0 < mag.man ∧ retryBaseDelay configured = .finite false mag := by
  have hone := PyFloat.ofNat_two_pow (Nat.zero_le 52)
  unfold retryBaseDelay
  split_ifs with h
  · exact ⟨_, by norm_num, hone⟩
  · rw [not_or] at h
    obtain ⟨hfinite, hpos⟩ := h
    cases configured with
    | nan => exact absurd rfl hfinite
    | inf neg => exact absurd rfl hfinite
    | finite neg mag =>
        have hzero : Binary64.zero.toRat = 0 := by simp [Binary64.toRat, Binary64.zero]
        simp only [PyFloat.le, PyFloat.zero, PyFloat.toRat, hzero, decide_eq_true_eq,
          Bool.false_eq_true, if_false, not_le] at hpos
        cases neg with
        | true =>
            have : 0 ≤ mag.toRat := by unfold Binary64.toRat; positivity
            simp only [if_true] at hpos
            linarith
        | false =>
            refine ⟨mag, Nat.pos_of_ne_zero fun hman => ?_, rfl⟩
            simp [Binary64.toRat, hman] at hpos

/-- Every retry waits for more than nothing and for a minute at most. -/
theorem retryDelay_bounds (configured : PyFloat) (retry_count : Nat) :
    PyFloat.zero.lt (retryDelay configured retry_count) = true ∧
      (retryDelay configured retry_count).le maxInlineRetryDelaySeconds = true := by
  obtain ⟨mag, hmag, hbase⟩ := retryBaseDelay_pos configured
  have hexp : min (retry_count - 1) 20 ≤ 52 := (min_le_right _ _).trans (by norm_num)
  have hpos := PyFloat.zero_lt_mul_two_pow hmag hexp
  have hnan : (PyFloat.finite false mag).mul (PyFloat.ofNat (2 ^ min (retry_count - 1) 20))
      ≠ .nan := by
    intro h
    rw [h] at hpos
    simp [PyFloat.lt, PyFloat.le, PyFloat.zero] at hpos
  simp only [retryDelay, hbase]
  refine ⟨?_, PyFloat.minimum_le_right hnan maxDelay_ne_nan⟩
  refine PyFloat.minimum_cases (P := fun x => PyFloat.zero.lt x = true) hpos ?_
  rw [maxDelay_eq]
  exact PyFloat.zero_lt_finite (by norm_num)

/-! ### What a log says

Tries, pauses between two tries and waits at the top of the loop are read off the log. Everything
else that the handler asks for is quiet: it adds to none of them. -/

/-- The jobs `persist_ingress_job` was called with. -/
def persistCalls (log : IngressLog) : List IngressJob :=
  log.filterMap fun event =>
    match event.1 with
    | .persistIngressJob job => some job
    | _ => none

/-- The delays slept between two tries. -/
def retrySleeps (log : IngressLog) : List PyFloat :=
  log.filterMap fun event =>
    match event.1 with
    | .sleep seconds => some seconds
    | _ => none

/-- The delays slept at the top of the loop. -/
def retryWaits (log : IngressLog) : List PyFloat :=
  log.filterMap fun event =>
    match event.1 with
    | .awaitRetry seconds => some seconds
    | _ => none

/-- An exception that left the handler: one that no clause around `persist_ingress_job`
catches, or one that a DLQ publication raised. -/
def Propagated (log : IngressLog) (e : PyExc) : Prop :=
  (∃ job, (⟨.persistIngressJob job, .error e⟩ : Event _ _) ∈ log ∧
    persistFailure e = .uncaught e) ∨
  ∃ key payload, (⟨.publishDlqJob key payload, .error e⟩ : Event _ _) ∈ log

/-- A run that retries `job` at most `tries` times and ends. Each call of `persist_event` but the
last is followed by one sleep, the calls count up from the job's own `retry_count`, and every
delay is positive and at most the maximum. An exception that leaves the run is one of the log. -/
structure BoundedRetry (tries : Nat) (job : IngressJob) (log : IngressLog)
    (out : Except PyExc IngressOutcome) : Prop where
  calls : (persistCalls log).length ≤ tries + 1
  sleeps : (retrySleeps log).length + 1 = (persistCalls log).length
  counts : (persistCalls log).map (·.retry_count) =
    List.range' job.retry_count (persistCalls log).length
  delays : ∀ seconds ∈ retrySleeps log, PyFloat.zero.lt seconds = true ∧
    seconds.le maxInlineRetryDelaySeconds = true
  waits : ∀ seconds ∈ retryWaits log, PyFloat.zero.le seconds = true ∧
    seconds.le maxInlineRetryDelaySeconds = true
  propagated : ∀ e, out = .error e → Propagated log e

section Logs

variable {log log' : IngressLog}

@[simp] theorem persistCalls_append :
    persistCalls (log ++ log') = persistCalls log ++ persistCalls log' :=
  List.filterMap_append

@[simp] theorem retrySleeps_append :
    retrySleeps (log ++ log') = retrySleeps log ++ retrySleeps log' :=
  List.filterMap_append

@[simp] theorem retryWaits_append :
    retryWaits (log ++ log') = retryWaits log ++ retryWaits log' :=
  List.filterMap_append

theorem Propagated.right {e : PyExc} (h : Propagated log' e) : Propagated (log ++ log') e := by
  rcases h with ⟨job, hmem, hcaught⟩ | ⟨key, payload, hmem⟩
  · exact .inl ⟨job, List.mem_append_right _ hmem, hcaught⟩
  · exact .inr ⟨key, payload, List.mem_append_right _ hmem⟩

theorem Propagated.cons {event : Event IngressOp IngressOp.Res} {e : PyExc}
    (h : Propagated log e) : Propagated (event :: log) e :=
  @Propagated.right [event] log e h

end Logs

/-- An operation that is no try, and no pause between two. -/
def Quiet : IngressOp → Prop
  | .persistIngressJob _ | .sleep _ | .awaitRetry _ => False
  | _ => True

/-- A log with nothing but quiet operations has no try and no pause. -/
theorem quiet_log {log : IngressLog} (h : ∀ event ∈ log, Quiet event.1) :
    persistCalls log = [] ∧ retrySleeps log = [] ∧ retryWaits log = [] := by
  simp only [persistCalls, retrySleeps, retryWaits, List.filterMap_eq_nil_iff]
  refine ⟨?_, ?_, ?_⟩ <;>
  · intro event hevent
    have hquiet := h event hevent
    split
    · rename_i heq
      rw [heq] at hquiet
      exact hquiet.elim
    · rfl

/-! ### What one pass of the loop may do

Each part of a pass is quiet, or ends with one of the exceptions that leave the handler. A pass is
then one call and quiet operations, with at most one pause and a retried job. -/

theorem only_updateRequestStatus (request_id : PyStr) (payload : Dict) :
    Only Quiet (updateRequestStatus request_id payload) :=
  ⟨trivial, fun _ => trivial⟩

theorem only_publishDlqJob (key : Nat) (payload : Dict) :
    Only Quiet (publishDlqJob key payload) :=
  ⟨trivial, fun sent => Only.ofExcept sent⟩

theorem only_moveToDlq (job : IngressJob) (reason : PyStr) :
    Only Quiet (moveToDlq job reason) :=
  ⟨trivial, fun _ => (only_publishDlqJob _ _).bind fun _ => only_updateRequestStatus _ _⟩

theorem only_moveInvalidIngressToDlq (rt : Runtime) (raw : KafkaValue) (reason : PyStr) :
    Only Quiet (moveInvalidIngressToDlq rt raw reason) := by
  unfold moveInvalidIngressToDlq
  refine Only.bind ?_ fun request_id => ⟨trivial, fun now =>
    (only_publishDlqJob _ _).bind fun _ => ?_⟩
  · unfold invalidRequestId
    split
    · trivial
    · exact ⟨trivial, fun _ => trivial⟩
  · split
    · exact only_updateRequestStatus _ _
    · trivial

theorem updateRequestStatus_returns {request_id : PyStr} {payload : Dict} {log : IngressLog}
    {out : Except PyExc Unit} (h : Runs (updateRequestStatus request_id payload) log out) :
    out = .ok () := by
  obtain ⟨answer, rest, -, hret⟩ := Runs.call_cases h
  exact (runs_ret_iff.mp hret).2

/-- A publication raises what Kafka answered. -/
theorem publishDlqJob_raises {key : Nat} {payload : Dict} {log : IngressLog} {e : PyExc}
    (h : Runs (publishDlqJob key payload) log (.error e)) : Propagated log e := by
  obtain ⟨sent, rest, rfl, hsent⟩ := Runs.call_cases h
  cases sent with
  | ok _ => cases hsent
  | error e' =>
      cases hsent
      exact .inr ⟨key, payload, List.mem_singleton.mpr rfl⟩

theorem moveToDlq_raises {job : IngressJob} {reason : PyStr} {log : IngressLog} {e : PyExc}
    (h : Runs (moveToDlq job reason) log (.error e)) : Propagated log e := by
  unfold moveToDlq at h
  obtain ⟨now, rest, rfl, hrest⟩ := Runs.call_cases h
  obtain ⟨e', he, hpublish⟩ | ⟨_, before, after, -, hstore, -⟩ := Runs.bind_cases hrest
  · cases he
    exact (publishDlqJob_raises hpublish).cons
  · cases updateRequestStatus_returns hstore

theorem invalidRequestId_returns {source : Dict} {log : IngressLog} {e : PyExc} :
    ¬ Runs (invalidRequestId source) log (.error e) := by
  intro h
  unfold invalidRequestId at h
  split at h
  · cases h
  · obtain ⟨_, _, -, hret⟩ := Runs.call_cases h
    cases hret

theorem moveInvalidIngressToDlq_raises {rt : Runtime} {raw : KafkaValue} {reason : PyStr}
    {log : IngressLog} {e : PyExc}
    (h : Runs (moveInvalidIngressToDlq rt raw reason) log (.error e)) : Propagated log e := by
  unfold moveInvalidIngressToDlq at h
  obtain ⟨e', he, hid⟩ | ⟨request_id, before, after, -, hafter, rfl⟩ := Runs.bind_cases h
  · exact (invalidRequestId_returns hid).elim
  obtain ⟨now, rest, rfl, hrest⟩ := Runs.call_cases hafter
  obtain ⟨e', he, hpublish⟩ | ⟨_, published, stored, -, hstore, -⟩ := Runs.bind_cases hrest
  · cases he
    exact (publishDlqJob_raises hpublish).cons.right
  · split at hstore
    · cases updateRequestStatus_returns hstore
    · cases hstore

/-- The delay that `mark_inline_retry` returns is the delay of the new `retry_count`. -/
theorem runs_markInlineRetry {settings : IngressSettings} {job : IngressJob} {log : IngressLog}
    {out : Except PyExc (PyFloat × PyFloat)} (h : Runs (markInlineRetry settings job) log out) :
    (∀ event ∈ log, Quiet event.1) ∧ ∃ next_retry_at,
      out = .ok (next_retry_at,
        retryDelay settings.ingress_retry_base_delay_seconds (job.retry_count + 1)) := by
  have honly : Only Quiet (markInlineRetry settings job) := by
    unfold markInlineRetry
    refine Only.call_bind trivial fun now => ?_
    dsimp only
    split
    · exact (only_updateRequestStatus _ _).bind fun _ => trivial
    · trivial
  refine ⟨h.only honly, ?_⟩
  unfold markInlineRetry at h
  obtain ⟨now, rest, rfl, hrest⟩ := Runs.call_cases h
  refine ⟨(clockTime now).add
    (retryDelay settings.ingress_retry_base_delay_seconds (job.retry_count + 1)), ?_⟩
  dsimp only at hrest
  split at hrest
  · obtain ⟨e, -, hstore⟩ | ⟨_, before, after, -, hret, -⟩ := Runs.bind_cases hrest
    · cases updateRequestStatus_returns hstore
    · exact (runs_ret_iff.mp hret).2
  · exact (runs_ret_iff.mp hrest).2

/-- The pause at the top of the loop: the clock, and a delay within the limits. -/
theorem runs_awaitNextRetry {job : IngressJob} {log : IngressLog} {out : Except PyExc Unit}
    (h : Runs (awaitNextRetry job) log out) :
    persistCalls log = [] ∧ retrySleeps log = [] ∧ (∀ seconds ∈ retryWaits log,
      PyFloat.zero.le seconds = true ∧ seconds.le maxInlineRetryDelaySeconds = true) ∧
      out = .ok () := by
  unfold awaitNextRetry at h
  split at h
  · obtain ⟨rfl, rfl⟩ := runs_ret_iff.mp h
    simp [persistCalls, retrySleeps, retryWaits]
  · rename_i next_retry_at _
    obtain ⟨now, rest, rfl, hrest⟩ := Runs.call_cases h
    split at hrest
    · obtain ⟨now', rest, rfl, hpause⟩ := Runs.call_cases hrest
      obtain ⟨_, rest, rfl, hret⟩ := runs_op_iff.mp hpause
      obtain ⟨rfl, rfl⟩ := runs_ret_iff.mp hret
      refine ⟨rfl, rfl, ?_, rfl⟩
      intro seconds hseconds
      obtain rfl : seconds = _ := by simpa [retryWaits] using hseconds
      have hnan := PyFloat.zero_maximum_ne_nan (next_retry_at.sub (clockTime now'))
      refine ⟨?_, PyFloat.minimum_le_right hnan maxDelay_ne_nan⟩
      refine PyFloat.minimum_cases (P := fun x => PyFloat.zero.le x = true)
        (PyFloat.zero_le_maximum _) ?_
      rw [maxDelay_eq]
      exact PyFloat.le_of_lt (PyFloat.zero_lt_finite (by norm_num))
    · obtain ⟨rfl, rfl⟩ := runs_ret_iff.mp hrest
      simp [persistCalls, retrySleeps, retryWaits]

/-- A pass that ends the loop: one call, and then quiet operations only. -/
theorem boundedRetry_last {tries : Nat} {job : IngressJob} {before after : IngressLog}
    {response : Except PyExc Dict} {out : Except PyExc IngressOutcome}
    (hbefore : Runs (awaitNextRetry job) before (.ok ()))
    (hafter : ∀ event ∈ after, Quiet event.1)
    (hout : ∀ e, out = .error e → Propagated
      (⟨.persistIngressJob job, response⟩ :: after) e) :
    BoundedRetry tries job
      (before ++ ⟨.persistIngressJob job, response⟩ :: after) out := by
  obtain ⟨hcalls, hsleeps, hwaits, -⟩ := runs_awaitNextRetry hbefore
  obtain ⟨hcalls', hsleeps', hwaits'⟩ := quiet_log hafter
  have hone : persistCalls (before ++ ⟨.persistIngressJob job, response⟩ :: after) = [job] := by
    rw [persistCalls_append, hcalls, List.nil_append]
    exact congrArg (job :: ·) hcalls'
  have hnone : retrySleeps (before ++ ⟨.persistIngressJob job, response⟩ :: after) = [] := by
    rw [retrySleeps_append, hsleeps, List.nil_append]
    exact hsleeps'
  have hsame : retryWaits (before ++ ⟨.persistIngressJob job, response⟩ :: after)
      = retryWaits before := by
    rw [retryWaits_append]
    exact (congrArg (retryWaits before ++ ·) hwaits').trans (List.append_nil _)
  exact {
    calls := by simp [hone]
    sleeps := by simp [hone, hnone]
    counts := by simp [hone]
    delays := by simp [hnone]
    waits := by rwa [hsame]
    propagated := fun e he => (hout e he).right }

/-- A pass that retries, and what follows it. The pass adds one call and one sleep to the log of
the rest, for a job whose count is higher by one. -/
theorem boundedRetry_again {settings : IngressSettings} {tries : Nat} {job : IngressJob}
    {next_retry_at : PyFloat} {before marked rest : IngressLog} {response : Except PyExc Dict}
    {out : Except PyExc IngressOutcome}
    (hbefore : Runs (awaitNextRetry job) before (.ok ()))
    (hmarked : ∀ event ∈ marked, Quiet event.1)
    (hrest : BoundedRetry tries (job.retried next_retry_at) rest out) :
    BoundedRetry (tries + 1) job
      (before ++ ⟨.persistIngressJob job, response⟩ :: (marked ++
        ⟨.sleep (retryDelay settings.ingress_retry_base_delay_seconds (job.retry_count + 1)), ()⟩
          :: rest)) out := by
  obtain ⟨hcalls, hsleeps, hwaits, -⟩ := runs_awaitNextRetry hbefore
  obtain ⟨hcalls', hsleeps', hwaits'⟩ := quiet_log hmarked
  set delay := retryDelay settings.ingress_retry_base_delay_seconds (job.retry_count + 1)
    with hdelay
  set log := before ++ ⟨.persistIngressJob job, response⟩ :: (marked ++ ⟨.sleep delay, ()⟩ :: rest)
    with hlog
  -- the log of this pass adds one call, one pause and its own waits to those of the rest
  have hmore : persistCalls log = job :: persistCalls rest := by
    rw [hlog, persistCalls_append, hcalls, List.nil_append]
    refine congrArg (job :: ·) ?_
    refine (@persistCalls_append marked _).trans ?_
    rw [hcalls', List.nil_append]
    rfl
  have hpause : retrySleeps log = delay :: retrySleeps rest := by
    rw [hlog, retrySleeps_append, hsleeps, List.nil_append]
    refine (@retrySleeps_append marked _).trans ?_
    rw [hsleeps', List.nil_append]
    rfl
  have hwait : retryWaits log = retryWaits before ++ retryWaits rest := by
    rw [hlog, retryWaits_append]
    refine congrArg (retryWaits before ++ ·) ?_
    refine (@retryWaits_append marked _).trans ?_
    rw [hwaits', List.nil_append]
    rfl
  exact {
    calls := by
      have := hrest.calls
      rw [hmore, List.length_cons]
      omega
    sleeps := by
      have := hrest.sleeps
      rw [hmore, hpause, List.length_cons, List.length_cons]
      omega
    counts := by
      rw [hmore, List.map_cons, hrest.counts, List.length_cons, List.range'_succ]
      rfl
    delays := by
      intro seconds hseconds
      rw [hpause, List.mem_cons] at hseconds
      rcases hseconds with rfl | hseconds
      · exact retryDelay_bounds _ _
      · exact hrest.delays seconds hseconds
    waits := by
      intro seconds hseconds
      rw [hwait, List.mem_append] at hseconds
      rcases hseconds with hseconds | hseconds
      · exact hwaits seconds hseconds
      · exact hrest.waits seconds hseconds
    propagated := fun e he => ((hrest.propagated e he).cons.right).cons.right }

/-! ### The loop -/

theorem persistFailure_uncaught {e e' : PyExc} (h : persistFailure e = .uncaught e') :
    e = e' := by
  unfold persistFailure at h
  split at h <;> try cases h
  split at h
  · cases h
  · cases h
    rfl

theorem rejectJob_returns {job : IngressJob} {failed_reason : PyStr} {log : IngressLog}
    {out : Except PyExc IngressOutcome} (h : Runs (rejectJob job failed_reason) log out) :
    (∀ event ∈ log, Quiet event.1) ∧ out = .ok .rejected := by
  refine ⟨h.only ((only_updateRequestStatus _ _).bind fun _ => trivial), ?_⟩
  obtain ⟨e, -, hstore⟩ | ⟨_, _, _, -, hret, -⟩ := Runs.bind_cases h
  · cases updateRequestStatus_returns hstore
  · exact (runs_ret_iff.mp hret).2

theorem giveUp_ends {job : IngressJob} {reason : PyStr} {log : IngressLog}
    {out : Except PyExc IngressOutcome} (h : Runs (giveUp job reason) log out) :
    (∀ event ∈ log, Quiet event.1) ∧ ∀ e, out = .error e → Propagated log e := by
  refine ⟨h.only ((only_moveToDlq _ _).bind fun _ => trivial), ?_⟩
  intro e he
  obtain ⟨e', he', hmove⟩ | ⟨_, _, _, -, hret, -⟩ := Runs.bind_cases h
  · cases he'.symm.trans he
    exact moveToDlq_raises hmove
  · cases (runs_ret_iff.mp hret).2.symm.trans he

/-- What one pass of the loop does: it ends the loop, or retries and goes on. -/
theorem runs_persistPass {settings : IngressSettings} {job : IngressJob}
    {again : Again settings job} {log : IngressLog} {out : Except PyExc IngressOutcome}
    (h : Runs (persistPass settings job again) log out)
    (hagain : ∀ next hlt log', Runs (again next hlt) log' out →
      BoundedRetry (triesLeft settings next) next log' out) :
    BoundedRetry (triesLeft settings job) job log out := by
  unfold persistPass at h
  obtain ⟨e, -, hwait⟩ | ⟨_, before, rest, hbefore, hrest, rfl⟩ := Runs.bind_cases h
  · cases (runs_awaitNextRetry hwait).2.2.2
  obtain ⟨response, after, rfl, hafter⟩ := Runs.call_cases hrest
  -- the three ends of a pass that failed: refuse the job, give it up, or retry it
  have hreject : ∀ reason, Runs (rejectJob job reason) after out →
      BoundedRetry (triesLeft settings job) job
        (before ++ ⟨.persistIngressJob job, response⟩ :: after) out := by
    intro reason hrun
    obtain ⟨hquiet, rfl⟩ := rejectJob_returns hrun
    exact boundedRetry_last hbefore hquiet (by simp)
  have hgiveUp : ∀ reason, Runs (giveUp job reason) after out →
      BoundedRetry (triesLeft settings job) job
        (before ++ ⟨.persistIngressJob job, response⟩ :: after) out := by
    intro reason hrun
    obtain ⟨hquiet, hout⟩ := giveUp_ends hrun
    exact boundedRetry_last hbefore hquiet fun e he => (hout e he).cons
  have hretry : ∀ reason, Runs (retryOrGiveUp settings job reason again) after out →
      BoundedRetry (triesLeft settings job) job
        (before ++ ⟨.persistIngressJob job, response⟩ :: after) out := by
    intro reason hrun
    unfold retryOrGiveUp at hrun
    split at hrun
    · exact hgiveUp reason hrun
    · rename_i hleft
      obtain ⟨e, -, hmark⟩ | ⟨marked, quiet, rest, hmark, hpause, rfl⟩ := Runs.bind_cases hrun
      · obtain ⟨-, _, hret⟩ := runs_markInlineRetry hmark
        cases hret
      obtain ⟨hquiet, next_retry_at, hret⟩ := runs_markInlineRetry hmark
      cases hret
      obtain ⟨_, rest, rfl, hnext⟩ := Runs.call_cases hpause
      rw [triesLeft_eq_succ hleft next_retry_at]
      exact boundedRetry_again hbefore hquiet (hagain _ _ _ hnext)
  cases response with
  | ok _ =>
      obtain ⟨rfl, rfl⟩ := runs_ret_iff.mp hafter
      exact boundedRetry_last hbefore (by simp) (by simp)
  | error e =>
      dsimp only at hafter
      cases hcaught : persistFailure e with
      | unauthorized => exact hreject _ (by simpa only [hcaught] using hafter)
      | invalid message => exact hreject _ (by simpa only [hcaught] using hafter)
      | badData name => exact hgiveUp _ (by simpa only [hcaught] using hafter)
      | sequenceGap => exact hretry _ (by simpa only [hcaught] using hafter)
      | transient name => exact hretry _ (by simpa only [hcaught] using hafter)
      | uncaught e' =>
          obtain rfl : e = e' := persistFailure_uncaught hcaught
          obtain ⟨rfl, rfl⟩ := runs_throw_iff.mp (by simpa only [hcaught] using hafter)
          -- what no clause catches is what persisting raised
          refine boundedRetry_last hbefore (by simp) fun e' he => ?_
          cases he
          exact .inl ⟨job, List.mem_cons_self, hcaught⟩

/-- The loop of one job, by induction on the tries that are left. -/
theorem persistLoop_bounded {settings : IngressSettings} {job : IngressJob} {log : IngressLog}
    {out : Except PyExc IngressOutcome} (h : Runs (persistLoop settings job) log out) :
    BoundedRetry (triesLeft settings job) job log out := by
  induction job using persistLoop.induct settings generalizing log with
  | case1 job ih =>
      rw [persistLoop] at h
      exact runs_persistPass h fun next hlt log' hrun => ih next hlt hrun

end InlineRetry

open InlineRetry in
/-- The retries of one record, against every environment. A record that validation does not
accept, or whose key names another stream, is never persisted. One that it accepts is tried at most
`max(0, ingress_max_retries - retry_count) + 1` times, `retry_count` grows by one from each
try to the next, each pause between two tries is positive and a minute at most, and the
handler ends: with an outcome, or with an exception that persisting raised and no clause
catches, or that a DLQ publication raised.

Outside of the loop nothing is persisted, since the other operations of the handler are quiet
(`quiet_log`). The loop itself is `persistLoop_bounded`, an induction on the tries that are left
in the retry field of the job. -/
theorem handleIngressJob_bounded_retry (rt : Runtime) (settings : IngressSettings)
    (raw : KafkaValue) (kafka_key : KafkaKey)
    (answer : IngressLog → (op : IngressOp) → op.Res) :
    let run := transcript answer [] (handleIngressJob rt settings raw kafka_key)
    match (readIngress rt raw).2 with
    | .error _ => persistCalls run.1 = [] ∧ ∀ e, run.2 = .error e → Propagated run.1 e
    | .ok job =>
        if kafka_key.matches job.room_id then
          BoundedRetry (settings.ingress_max_retries - job.retry_count).toNat job run.1 run.2
        else persistCalls run.1 = [] ∧ ∀ e, run.2 = .error e → Propagated run.1 e := by
  intro run
  have hrun : Runs (handleIngressJob rt settings raw kafka_key) run.1 run.2 :=
    runs_transcript answer [] _
  -- both ways to an invalid record end alike
  have hinvalid : ∀ raw' reason,
      Runs (moveInvalidIngressToDlq rt raw' reason >>= fun _ => .ret IngressOutcome.dlq)
        run.1 run.2 →
      persistCalls run.1 = [] ∧ ∀ e, run.2 = .error e → Propagated run.1 e := by
    intro raw' reason h
    refine ⟨(quiet_log (h.only
      ((only_moveInvalidIngressToDlq rt raw' reason).bind fun _ => trivial))).1, ?_⟩
    intro e he
    obtain ⟨e', he', hmove⟩ | ⟨_, _, _, -, hret, -⟩ := Runs.bind_cases h
    · cases he'.symm.trans he
      exact moveInvalidIngressToDlq_raises hmove
    · cases (runs_ret_iff.mp hret).2.symm.trans he
  unfold handleIngressJob at hrun
  rcases hread : readIngress rt raw with ⟨raw', reason | job⟩
  · rw [hread] at hrun
    exact hinvalid raw' reason hrun
  · rw [hread] at hrun
    dsimp only at hrun ⊢
    split at hrun
    · rename_i hkey
      rw [if_pos hkey]
      exact persistLoop_bounded hrun
    · rename_i hkey
      rw [if_neg hkey]
      exact hinvalid _ _ hrun

end EventPipeline.Guarantees
