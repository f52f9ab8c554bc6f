import EventPipeline.Guarantees.InlineRetry
import EventPipeline.Guarantees.Intake
import EventPipeline.Guarantees.ReplayEligibility
import EventPipeline.Worker.JobWire
import EventPipeline.Worker.System

/-!
# EventPipeline.Guarantees.DeadLetter

A job through the dead-letter queue and back.

`move_to_dlq` writes the job it gives up with the fields of its retries, the replayer edits
that object and sends it to the ingress topic, and the worker validates it anew. The two
halves meet at `IngressJob.toDict`: what the loop may publish is the object of a job that
differs from the accepted one in its retry fields (`persistLoop_letters`), and an object
that holds the fields of a job is read as that job (`validateIngressObject_of_reads`).
`deadLetter_replayed` follows one letter through both services, `replayChain_sound` a record
through any number of them.
-/

namespace EventPipeline.Guarantees

open EventPipeline.Python EventPipeline.Portfolio EventPipeline.Worker EventPipeline.Concurrency
open EventPipeline.Concurrency.Prog

namespace DeadLetter

open InlineRetry

/-! ### Dead letters of a run

The letters are read off the log of a run. Most parts of the handler publish none, whatever they
are answered. -/

/-- What a run published to the dead-letter topic. -/
def letters (log : IngressLog) : List (Nat × Dict) :=
  log.filterMap fun event =>
    match event.1 with
    | .publishDlqJob key payload => some (key, payload)
    | _ => none

/-- The names of database exceptions are names of Python classes, without a NUL. -/
def ClassNames (log : IngressLog) : Prop :=
  ∀ job name, (⟨.persistIngressJob job, .error (.transient name)⟩ : Event _ _) ∈ log ∨
    (⟨.persistIngressJob job, .error (.dataError name)⟩ : Event _ _) ∈ log →
    (PyStr.ofString name).hasNul = false

/-- An operation that is no dead letter. -/
def NoLetter : IngressOp → Prop
  | .publishDlqJob _ _ => False
  | _ => True

section Logs

variable {log log' : IngressLog}

@[simp] theorem letters_append : letters (log ++ log') = letters log ++ letters log' :=
  List.filterMap_append

theorem letters_eq_nil (h : ∀ event ∈ log, NoLetter event.1) : letters log = [] := by
  rw [letters, List.filterMap_eq_nil_iff]
  intro event hevent
  have hno := h event hevent
  split
  · rename_i heq
    rw [heq] at hno
    exact hno.elim
  · rfl

theorem letters_cons (op : IngressOp) (r : op.Res) (h : NoLetter op) :
    letters (⟨op, r⟩ :: log) = letters log := by
  have hone : letters [⟨op, r⟩] = [] := letters_eq_nil (by simpa using h)
  show letters ([⟨op, r⟩] ++ log) = letters log
  rw [letters_append, hone, List.nil_append]

theorem ClassNames.of_subset (h : ClassNames log) (hsub : log' ⊆ log) : ClassNames log' :=
  fun job name hmem => h job name (hmem.imp (fun h => hsub h) fun h => hsub h)

end Logs

/-! ### What one pass may publish -/

theorem noLetter_updateRequestStatus (request_id : PyStr) (payload : Dict) :
    Only NoLetter (updateRequestStatus request_id payload) :=
  ⟨trivial, fun _ => trivial⟩

theorem noLetter_awaitNextRetry (job : IngressJob) : Only NoLetter (awaitNextRetry job) := by
  unfold awaitNextRetry
  split
  · trivial
  · refine Only.call_bind trivial fun now => ?_
    split
    · exact Only.call_bind trivial fun _ => ⟨trivial, fun _ => trivial⟩
    · trivial

theorem noLetter_markInlineRetry (settings : IngressSettings) (job : IngressJob) :
    Only NoLetter (markInlineRetry settings job) := by
  unfold markInlineRetry
  refine Only.call_bind trivial fun now => ?_
  dsimp only
  split
  · exact (noLetter_updateRequestStatus _ _).bind fun _ => trivial
  · trivial

theorem noLetter_rejectJob (job : IngressJob) (reason : PyStr) :
    Only NoLetter (rejectJob job reason) :=
  (noLetter_updateRequestStatus _ _).bind fun _ => trivial

/-- A job that is given up is published once, with its reason and the time. -/
theorem giveUp_letters {job : IngressJob} {reason : PyStr} {log : IngressLog}
    {out : Except PyExc IngressOutcome} (h : Runs (giveUp job reason) log out) :
    ∃ now : Clock, letters log = [(job.room_id, (job.deadLettered reason now.nowIso).toDict)] := by
  have hmove : ∀ {log : IngressLog} {out : Except PyExc Unit}, Runs (moveToDlq job reason) log out →
      ∃ now : Clock, letters log = [(job.room_id, (job.deadLettered reason now.nowIso).toDict)] := by
    intro log out h
    unfold moveToDlq at h
    obtain ⟨now, rest, rfl, hrest⟩ := Runs.call_cases h
    refine ⟨now, ?_⟩
    rw [letters_cons .utcNow now trivial]
    obtain ⟨e, -, hpublish⟩ | ⟨_, published, stored, hpublish, hstore, rfl⟩ := Runs.bind_cases hrest
    · obtain ⟨sent, rest, rfl, hsent⟩ := Runs.call_cases hpublish
      have hnil : letters rest = [] := letters_eq_nil (hsent.only (Only.ofExcept sent))
      show (job.room_id, _) :: letters rest = _
      rw [hnil]
    · obtain ⟨sent, rest, rfl, hsent⟩ := Runs.call_cases hpublish
      have hnil : letters rest = [] := letters_eq_nil (hsent.only (Only.ofExcept sent))
      have hstored : letters stored = [] :=
        letters_eq_nil (hstore.only (noLetter_updateRequestStatus _ _))
      rw [letters_append, hstored, List.append_nil]
      show (job.room_id, _) :: letters rest = _
      rw [hnil]
  obtain ⟨e, -, hmoved⟩ | ⟨_, before, after, hmoved, hret, rfl⟩ := Runs.bind_cases h
  · exact hmove hmoved
  · obtain ⟨rfl, -⟩ := runs_ret_iff.mp hret
    rw [List.append_nil]
    exact hmove hmoved

/-! ### The next retry -/

theorem retryDelay_finite (configured : PyFloat) (retry_count : Nat) :
    ∃ neg mag, retryDelay configured retry_count = .finite neg mag ∧
      mag.toRat ≤ (Binary64.pow2 38 (by decide) (by decide)).toRat := by
  obtain ⟨hpos, hle⟩ := retryDelay_bounds configured retry_count
  rw [maxDelay_eq] at hle
  cases hdelay : retryDelay configured retry_count with
  | nan => simp [hdelay, PyFloat.lt, PyFloat.le, PyFloat.zero] at hpos
  | inf neg => cases neg <;> simp [hdelay, PyFloat.lt, PyFloat.le, PyFloat.zero] at hpos hle
  | finite neg mag =>
      refine ⟨neg, mag, rfl, ?_⟩
      cases neg with
      | true =>
          have hnonneg := mag.toRat_nonneg
          have hzero : Binary64.zero.toRat = 0 := by simp [Binary64.toRat, Binary64.zero]
          simp only [hdelay, PyFloat.lt, PyFloat.le, PyFloat.zero, PyFloat.toRat, hzero,
            Bool.false_eq_true, if_false, if_true, Bool.and_eq_true, decide_eq_true_eq,
            Bool.not_eq_true', decide_eq_false_iff_not, not_le] at hpos
          linarith [hpos.1]
      | false =>
          simp only [hdelay, PyFloat.le, PyFloat.toRat, Bool.false_eq_true, if_false,
            decide_eq_true_eq] at hle
          refine hle.trans ?_
          rw [Binary64.pow2_toRat]
          norm_num [Binary64.toRat]

/-- The time of the next retry can be printed, whatever delay is configured. -/
theorem nextRetryAt_finite (now : Clock) (configured : PyFloat) (retry_count : Nat) :
    ((clockTime now).add (retryDelay configured retry_count)).isFinite = true := by
  obtain ⟨neg, mag, htime, hmag⟩ := now.seconds_finite
  obtain ⟨neg', mag', hdelay, hmag'⟩ := retryDelay_finite configured retry_count
  rw [clockTime, htime, hdelay]
  have hdouble : (Binary64.pow2 38 (by decide) (by decide)).toRat
      + (Binary64.pow2 38 (by decide) (by decide)).toRat
        ≤ (Binary64.pow2 39 (by decide) (by decide)).toRat := by
    rw [Binary64.pow2_toRat, Binary64.pow2_toRat]
    norm_num
  exact PyFloat.add_finite hmag hmag' hdouble

theorem markInlineRetry_finite {settings : IngressSettings} {job : IngressJob} {log : IngressLog}
    {marked : PyFloat × PyFloat} (h : Runs (markInlineRetry settings job) log (.ok marked)) :
    marked.1.isFinite = true := by
  unfold markInlineRetry at h
  obtain ⟨now, rest, rfl, hrest⟩ := Runs.call_cases h
  dsimp only at hrest
  split at hrest
  · obtain ⟨e, he, -⟩ | ⟨_, _, _, -, hret, -⟩ := Runs.bind_cases hrest
    · cases he
    · obtain rfl := Except.ok.inj (runs_ret_iff.mp hret).2
      exact nextRetryAt_finite _ _ _
  · obtain rfl := Except.ok.inj (runs_ret_iff.mp hrest).2
    exact nextRetryAt_finite _ _ _

/-! ### What the loop may publish

The letter that is published is about the job that came in: retries change the counter and the
time of the next one, and nothing else. -/

/-- `job` is `n` after at most `tries` retries. A retry changes the two fields that count it and
nothing else, and the time it sets is finite. -/
structure RetriedFrom (tries : Nat) (n job : IngressJob) : Prop where
  same : job = { n with retry_count := job.retry_count, next_retry_at := job.next_retry_at }
  retry_count : job.retry_count ≤ n.retry_count + tries
  next_retry_at : ∀ f ∈ job.next_retry_at, f.isFinite = true

theorem RetriedFrom.refl {n : IngressJob} (h : ∀ f ∈ n.next_retry_at, f.isFinite = true)
    (tries : Nat) : RetriedFrom tries n n :=
  ⟨rfl, Nat.le_add_right _ _, h⟩

theorem RetriedFrom.of_retried {tries : Nat} {n job : IngressJob} {next_retry_at : PyFloat}
    (h : RetriedFrom tries (n.retried next_retry_at) job) : RetriedFrom (tries + 1) n job where
  same := by
    have := h.same
    rwa [IngressJob.retried] at this
  retry_count := by
    have := h.retry_count
    simp only [IngressJob.retried] at this
    omega
  next_retry_at := h.next_retry_at

/-- What a run that starts with `n` and has `tries` retries left publishes: nothing, or one
letter of `n` after its retries. -/
def Gives (tries : Nat) (n : IngressJob) (published : List (Nat × Dict)) : Prop :=
  published = [] ∨ ∃ job reason, ∃ now : Clock, RetriedFrom tries n job ∧ reason.Clean ∧
    published = [(n.room_id, (job.deadLettered reason now.nowIso).toDict)]

theorem Gives.of_retried {tries : Nat} {n : IngressJob} {next_retry_at : PyFloat}
    {published : List (Nat × Dict)} (h : Gives tries (n.retried next_retry_at) published) :
    Gives (tries + 1) n published := by
  rcases h with rfl | ⟨job, reason, now, hjob, hreason, hpublished⟩
  · exact .inl rfl
  · exact .inr ⟨job, reason, now, hjob.of_retried, hreason, hpublished⟩

/-- A reason made of a fixed text and a class name is clean. -/
theorem reason_clean {head name : String} (hhead : (PyStr.ofString head).Clean)
    (hname : (PyStr.ofString name).hasNul = false) : (PyStr.ofString (head ++ name)).Clean := by
  have hsplit : PyStr.ofString (head ++ name) = PyStr.ofString head ++ PyStr.ofString name := by
    simp [PyStr.ofString]
  rw [hsplit]
  exact PyStr.clean_append.mpr ⟨hhead, hname, PyStr.ofString_hasSurrogate name⟩

theorem persistFailure_badData {e : PyExc} {name : String} (h : persistFailure e = .badData name) :
    e = .dataError name := by
  unfold persistFailure at h
  split at h <;> first | (cases h; rfl) | cases h | (split at h <;> cases h)

/-- The clause of a database error keeps its class name. -/
theorem persistFailure_transient {e : PyExc} {name : String}
    (h : persistFailure e = .transient name) :
    e = .transient name ∨ name = "ReplayClaimInProgress" := by
  unfold persistFailure at h
  split at h
  case h_4 => exact .inl (congrArg PyExc.transient (PersistFailure.transient.inj h))
  case h_5 => exact .inr (PersistFailure.transient.inj h).symm
  all_goals first | cases h | (split at h <;> cases h)

/-- One pass of the loop publishes nothing, gives the job up, or goes on with the next. -/
theorem persistPass_letters {settings : IngressSettings} {n : IngressJob}
    {again : Again settings n} {log : IngressLog} {out : Except PyExc IngressOutcome}
    (h : Runs (persistPass settings n again) log out) (hnames : ClassNames log)
    (hn : ∀ f ∈ n.next_retry_at, f.isFinite = true)
    (hagain : ∀ next hlt log', (∀ f ∈ next.next_retry_at, f.isFinite = true) → ClassNames log' →
      Runs (again next hlt) log' out → Gives (triesLeft settings next) next (letters log')) :
    Gives (triesLeft settings n) n (letters log) := by
  unfold persistPass at h
  obtain ⟨e, -, hwait⟩ | ⟨_, before, rest, hbefore, hrest, rfl⟩ := Runs.bind_cases h
  · exact .inl (letters_eq_nil (hwait.only (noLetter_awaitNextRetry n)))
  -- nothing is published before the database has answered
  have hquiet : letters before = [] :=
    letters_eq_nil (hbefore.only (noLetter_awaitNextRetry n))
  obtain ⟨response, after, rfl, hafter⟩ := Runs.call_cases hrest
  rw [letters_append, hquiet, List.nil_append, letters_cons (.persistIngressJob n) response trivial]
  have hgiveUp : ∀ reason : PyStr, reason.Clean → Runs (giveUp n reason) after out →
      Gives (triesLeft settings n) n (letters after) := by
    intro reason hreason hrun
    obtain ⟨now, hletters⟩ := giveUp_letters hrun
    exact .inr ⟨n, reason, now, .refl hn _, hreason, hletters⟩
  have hreject : ∀ reason, Runs (rejectJob n reason) after out →
      Gives (triesLeft settings n) n (letters after) :=
    fun reason hrun => .inl (letters_eq_nil (hrun.only (noLetter_rejectJob n reason)))
  -- a retry that is left marks the job and goes on with the marked one
  have hretry : ∀ reason : PyStr, reason.Clean →
      Runs (retryOrGiveUp settings n reason again) after out →
      Gives (triesLeft settings n) n (letters after) := by
    intro reason hreason hrun
    unfold retryOrGiveUp at hrun
    split at hrun
    · exact hgiveUp reason hreason hrun
    · rename_i hleft
      obtain ⟨e, -, hmark⟩ | ⟨marked, marking, rest, hmark, hpause, rfl⟩ := Runs.bind_cases hrun
      · exact .inl (letters_eq_nil (hmark.only (noLetter_markInlineRetry settings n)))
      obtain ⟨_, rest, rfl, hnextRun⟩ := Runs.call_cases hpause
      have hmarking : letters marking = [] :=
        letters_eq_nil (hmark.only (noLetter_markInlineRetry settings n))
      have hfinite : ∀ f ∈ (n.retried marked.1).next_retry_at, f.isFinite = true := by
        intro f hf
        obtain rfl : marked.1 = f := by simpa [IngressJob.retried] using hf
        exact markInlineRetry_finite hmark
      rw [letters_append, hmarking, List.nil_append, letters_cons (.sleep _) () trivial,
        triesLeft_eq_succ hleft marked.1]
      refine (hagain _ _ _ hfinite (hnames.of_subset ?_) hnextRun).of_retried
      intro event hevent
      simp [hevent]
  -- one branch for each class of what persisting raised
  cases response with
  | ok _ =>
      obtain ⟨rfl, -⟩ := runs_ret_iff.mp hafter
      exact .inl rfl
  | error e =>
      have hmem : (⟨.persistIngressJob n, .error e⟩ : Event IngressOp IngressOp.Res) ∈
          before ++ ⟨.persistIngressJob n, .error e⟩ :: after := by simp
      dsimp only at hafter
      cases hcaught : persistFailure e with
      | unauthorized => exact hreject _ (by simpa only [hcaught] using hafter)
      | invalid message => exact hreject _ (by simpa only [hcaught] using hafter)
      | badData name =>
          obtain rfl := persistFailure_badData hcaught
          exact hgiveUp (PyStr.ofString ("invalid_persistence_data:" ++ name))
            (reason_clean (by decide) (hnames n name (.inr hmem)))
            (by simpa only [hcaught] using hafter)
      | sequenceGap =>
          exact hretry "room_sequence_gap" (by decide) (by simpa only [hcaught] using hafter)
      | transient name =>
          have hname : (PyStr.ofString name).hasNul = false := by
            rcases persistFailure_transient hcaught with rfl | rfl
            · exact hnames n name (.inl hmem)
            · decide
          exact hretry (PyStr.ofString ("transient_error_max_retries:" ++ name))
            (reason_clean (by decide) hname) (by simpa only [hcaught] using hafter)
      | uncaught e' =>
          obtain ⟨rfl, -⟩ := runs_throw_iff.mp (by simpa only [hcaught] using hafter)
          exact .inl rfl

/-- What the loop publishes, by induction on the tries that are left. -/
theorem persistLoop_letters {settings : IngressSettings} {n : IngressJob} {log : IngressLog}
    {out : Except PyExc IngressOutcome} (h : Runs (persistLoop settings n) log out)
    (hnames : ClassNames log) (hn : ∀ f ∈ n.next_retry_at, f.isFinite = true) :
    Gives (triesLeft settings n) n (letters log) := by
  induction n using persistLoop.induct settings generalizing log with
  | case1 n ih =>
      rw [persistLoop] at h
      exact persistPass_letters h hnames hn fun next hlt log' hfinite hnames' hrun =>
        ih next hlt hrun hnames' hfinite

/-! ### The letter on the wire

Kafka carries bytes. A letter is printed as JSON and read back by the worker or by a replayer, and
the object that arrives holds the fields of the job that was sent. -/

/-- `n` as it is read again after a replay. -/
def replayed (n : IngressJob) (replayed_at : PyStr) : IngressJob :=
  { n with
    retry_count := 0
    next_retry_at := none
    replay_count := n.replay_count + 1
    replayed_at := some replayed_at }

section Letter

variable {rt : Runtime} {n job : IngressJob} {reason failed_at : PyStr} {tries : Nat}

/-- The fields a retry changes are not the checked ones. -/
theorem RetriedFrom.valid (h : RetriedFrom tries n job) (hn : n.Valid rt) :
    (job.deadLettered reason failed_at).Valid rt := by
  rw [h.same]
  exact ⟨hn.request_id, hn.route_length, hn.route, hn.room_id, hn.user_id, hn.schema_version,
    hn.event, hn.body, hn.room_seq, hn.idem_key, hn.replay_count, hn.queued_at, hn.replayed_at,
    hn.payment_id⟩

/-- What a job was read from gives it clean texts and unique keys. -/
structure ReadJob (rt : Runtime) (n : IngressJob) : Prop where
  normalised : n.Normalised rt
  texts : n.Texts
  payload : Json.Unique (.obj n.payload)
  metadata : Json.Unique (.obj n.metadata)

theorem readJob_of_object {d : Dict} (hsound : Json.Sound (.obj d)) (hunique : Json.Unique (.obj d))
    (h : (validateIngressObject rt d).2 = .ok n) : ReadJob rt n where
  normalised := validateIngressObject_normalised h
  texts := validateIngressObject_texts hsound h
  payload := (validateIngressObject_unique hunique h).1
  metadata := (validateIngressObject_unique hunique h).2

theorem RetriedFrom.sendable (h : RetriedFrom tries n job) (hn : ReadJob rt n)
    (hcount : Json.intFits ((n.retry_count + tries : Nat) : Int) = true) (hreason : reason.Clean)
    (hat : failed_at.Clean) : (job.deadLettered reason failed_at).Sendable := by
  have hfits : Json.intFits (job.retry_count : Int) = true := intFits_mono h.retry_count hcount
  have hfinite := h.next_retry_at
  have htexts := hn.texts
  rw [h.same]
  exact {
    request_id := htexts.request_id
    event_type := htexts.event_type
    x_idempotency_key := htexts.x_idempotency_key
    queued_at := htexts.queued_at
    replayed_at := htexts.replayed_at
    payment_id := htexts.payment_id
    payload_unique := hn.payload
    metadata_unique := hn.metadata
    retry_count := hfits
    next_retry_at := hfinite
    failed_reason := fun s hs => by
      obtain rfl : reason = s := by simpa [IngressJob.deadLettered] using hs
      exact hreason
    failed_at := fun s hs => by
      obtain rfl : failed_at = s := by simpa [IngressJob.deadLettered] using hs
      exact hat }

/-- A letter is an object the producer takes. -/
theorem RetriedFrom.wireObject (h : RetriedFrom tries n job) (hn : ReadJob rt n)
    (hcount : Json.intFits ((n.retry_count + tries : Nat) : Int) = true) (hreason : reason.Clean)
    (hat : failed_at.Clean) : WireObject (job.deadLettered reason failed_at).toDict :=
  (h.sendable hn hcount hreason hat).wireObject (h.valid hn.normalised.toValid)

end Letter

/-! ### The replayer's edit

Before a letter is published again the replayer counts the generation, takes the retry fields back
and writes down when it was replayed. The result is the object of a job again. -/

section Replay

variable {rt : Runtime} {d : Dict} {job : IngressJob}

/-- The object of a job carries no marker of an invalid record. -/
theorem toDict_unmarked (job : IngressJob) : isInvalidKafkaPayload (.obj job.toDict) = false := by
  simp [isInvalidKafkaPayload, IngressJob.toDict, Dict.get?_append, get?_optEntry,
    invalidKafkaPayloadMarker]

/-- The replayer takes the object of a job up to its replay limit. -/
theorem replayObject_toDict (hvalid : job.Valid rt) (hwire : WireObject job.toDict)
    (max_count : Int) :
    replayObject max_count job.toDict =
      if max_count ≤ job.replay_count ∨ maxPostgresBigint ≤ job.replay_count then
        .error .skipped_max_replay
      else .ok ⟨job.request_id, job.room_id, job.replay_count, job.toDict⟩ := by
  have hreads := job.toDict_reads
  have hstructure : (validateJsonStructure (.obj job.toDict) maxJsonWireNestingDepth).isOk = true :=
    isOk_iff.mpr (validateJsonStructure_ok.mpr ⟨hwire.wire.1.sound, hwire.wire.1.shallow⟩)
  have haliases : Worker.hasConflictingEventAliases job.toDict = false := by
    simp [Worker.hasConflictingEventAliases, Portfolio.hasConflictingEventAliases, aliasConflict,
      hreads.stream_id, hreads.actor_id, hreads.stream_seq]
  have hroom : fillRoomId job.toDict = job.toDict := by
    simp [fillRoomId, hreads.room_id]
  have hrequest : boundedText 80 (.str job.request_id) = some job.request_id :=
    boundedText_eq_some.mpr ⟨rfl, hvalid.request_id⟩
  have hstream : positiveBigint (.int job.room_id) = some job.room_id :=
    positiveBigint_eq_some.mpr ⟨rfl, hvalid.room_id⟩
  have hcount : nonnegativeBigint (.int job.replay_count) = some job.replay_count :=
    nonnegativeBigint_eq_some.mpr ⟨rfl, hvalid.replay_count⟩
  simp only [replayObject, toDict_unmarked, hstructure, haliases, hroom, hreads.request_id,
    hreads.room_id, hreads.replay_count, Option.bind_some, Option.getD_some, hrequest, hstream,
    hcount, Bool.false_eq_true, not_true_eq_false, if_false]
  by_cases hmax : max_count ≤ job.replay_count
  · rw [if_pos hmax, if_pos (Or.inl hmax)]
  · by_cases hbig : maxPostgresBigint ≤ job.replay_count
    · rw [if_neg hmax, if_pos hbig, if_pos (Or.inr hbig)]
    · rw [if_neg hmax, if_neg hbig, if_neg (not_or.mpr ⟨hmax, hbig⟩)]

/-- The record the replayer sends is an object the producer takes. -/
theorem republished_wireObject {c : ReplayCandidate} {replayed_at : PyStr}
    (h : WireObject c.job_payload) (hcount : c.replay_count < maxPostgresBigint)
    (hat : replayed_at.Clean) : WireObject (c.republished replayed_at) := by
  have hfits : Json.intFits ((c.replay_count + 1 : Nat) : Int) = true := intFits_of_le hcount
  have hzero : Json.intFits 0 = true := by decide
  exact (((h.set (by decide) (.int hfits)).set (by decide) (.text hat)).set (by decide)
    (.int hzero)).set (by decide) .null

/-- The edit leaves the other fields of the object as they are. -/
theorem republished_get? {c : ReplayCandidate} {replayed_at key : PyStr}
    (hkey : key ∉ (["replay_count", "replayed_at", "retry_count", "next_retry_at"] : List PyStr)) :
    (c.republished replayed_at).get? key = c.job_payload.get? key := by
  simp only [List.mem_cons, not_or] at hkey
  obtain ⟨hcount, hat, hretry, hnext, -⟩ := hkey
  -- from the last field written to the first
  rw [ReplayCandidate.republished, Dict.get?_set_of_ne (Ne.symm hnext),
    Dict.get?_set_of_ne (Ne.symm hretry), Dict.get?_set_of_ne (Ne.symm hat),
    Dict.get?_set_of_ne (Ne.symm hcount)]

/-- It holds the fields of the job after the replay. -/
theorem republished_reads {c : ReplayCandidate} {n : IngressJob} {replayed_at : PyStr}
    (hcount : c.replay_count = n.replay_count)
    (h : Worker.Reads c.job_payload { n with
      retry_count := job.retry_count, next_retry_at := job.next_retry_at }) :
    Worker.Reads (c.republished replayed_at) (replayed n replayed_at) where
  request_id := (republished_get? (by simp)).trans h.request_id
  route := (republished_get? (by simp)).trans h.route
  room_id := (republished_get? (by simp)).trans h.room_id
  user_id := (republished_get? (by simp)).trans h.user_id
  room_seq := (republished_get? (by simp)).trans h.room_seq
  schema_version := (republished_get? (by simp)).trans h.schema_version
  event_type := (republished_get? (by simp)).trans h.event_type
  payload := (republished_get? (by simp)).trans h.payload
  metadata := (republished_get? (by simp)).trans h.metadata
  x_idempotency_key := (republished_get? (by simp)).trans h.x_idempotency_key
  -- what a replay sets anew: the two counts, the next try and its own time
  retry_count := by
    rw [ReplayCandidate.republished, Dict.get?_set_of_ne (by simp), Dict.get?_set_self]
    rfl
  replay_count := by
    rw [ReplayCandidate.republished, get?_republished, hcount]
    rfl
  next_retry_at := Dict.get?_set_self _ _ _
  queued_at := (republished_get? (by simp)).trans h.queued_at
  replayed_at := by
    rw [ReplayCandidate.republished, Dict.get?_set_of_ne (by simp),
      Dict.get?_set_of_ne (by simp), Dict.get?_set_self]
    rfl
  payment_id := (republished_get? (by simp)).trans h.payment_id
  stream_id := (republished_get? (by simp)).trans h.stream_id
  actor_id := (republished_get? (by simp)).trans h.actor_id
  stream_seq := (republished_get? (by simp)).trans h.stream_seq

theorem republished_unmarked {c : ReplayCandidate} {replayed_at : PyStr}
    (h : isInvalidKafkaPayload (.obj c.job_payload) = false) :
    isInvalidKafkaPayload (.obj (c.republished replayed_at)) = false := by
  have hmarker : (c.republished replayed_at).get? invalidKafkaPayloadMarker
      = c.job_payload.get? invalidKafkaPayloadMarker := republished_get? (by decide)
  simpa only [isInvalidKafkaPayload, hmarker] using h

theorem replayed_normalised {n : IngressJob} (h : n.Normalised rt)
    (hcount : n.replay_count < maxPostgresBigint) (now : Clock) :
    (replayed n now.nowIso).Normalised rt where
  toValid := { h.toValid with
    replay_count := hcount
    replayed_at := fun t ht => by
      obtain rfl : now.nowIso = t := by simpa [replayed] using ht
      exact isoTimestamp_nowIso rt now }
  retry_count := Nat.zero_le _
  next_retry_at := rfl
  failed_reason := h.failed_reason
  failed_at := h.failed_at

end Replay

/-! ### Runs of the replayer -/

/-- What a run of the replayer asked for and was answered. -/
abbrev ReplayLog := List (Event ReplayOp ReplayOp.Res)

/-- What a run of the replayer sent to the ingress topic. -/
def sends (log : ReplayLog) : List (Nat × Dict) :=
  log.filterMap fun event =>
    match event.1 with
    | .publishIngressJob key payload => some (key, payload)
    | _ => none

@[simp] theorem sends_append (log log' : ReplayLog) :
    sends (log ++ log') = sends log ++ sends log' :=
  List.filterMap_append

/-- The times a run was told are readings of the clock. -/
def Clocked (log : ReplayLog) : Prop :=
  ∀ text, (⟨.nowIso, text⟩ : Event ReplayOp ReplayOp.Res) ∈ log → ∃ now : Clock, text = now.nowIso

/-- The claim of a run was granted. -/
def Granted (log : ReplayLog) : Prop :=
  ∃ r g owner_token, (⟨.claimDlqReplay r g, .ok (.claimed, some owner_token)⟩ :
    Event ReplayOp ReplayOp.Res) ∈ log

/-- A run under a claim sends one record, whatever becomes of it. -/
theorem republish_sends {c : ReplayCandidate} {owner_token : PyStr} {log : ReplayLog}
    {out : Except PyExc Bool} (h : Runs (republish c owner_token) log out) :
    ∃ replayed_at, (⟨.nowIso, replayed_at⟩ : Event ReplayOp ReplayOp.Res) ∈ log ∧
      sends log = [(c.room_id, c.republished replayed_at)] := by
  unfold republish at h
  obtain ⟨replayed_at, rest, rfl, hpublish⟩ := Runs.call_cases h
  obtain ⟨published, rest, rfl, hsettle⟩ := Runs.call_cases hpublish
  refine ⟨replayed_at, List.mem_cons_self, ?_⟩
  cases published with
  | error e =>
      obtain ⟨_, rest, rfl, hret⟩ := Runs.call_cases hsettle
      obtain ⟨rfl, -⟩ := runs_throw_iff.mp hret
      rfl
  | ok _ =>
      obtain ⟨_, rest, rfl, hret⟩ := Runs.call_cases hsettle
      obtain ⟨rfl, -⟩ := runs_ret_iff.mp hret
      rfl

/-- A run on a record that is passed over asks for nothing. -/
theorem replayOne_skipped {rt : Runtime} {max_count : Int} {v : KafkaValue} {skip : ReplaySkip}
    {log : ReplayLog} {out : Except PyExc Bool} (h : replayCandidate rt max_count v = .error skip)
    (hrun : Runs (replayOne rt max_count v) log out) : log = [] ∧ out = .ok false := by
  simp only [replayOne, h] at hrun
  exact runs_ret_iff.mp hrun

/-- A run on a record that is taken claims it, and sends it exactly under a grant. -/
theorem replayOne_sends {rt : Runtime} {max_count : Int} {v : KafkaValue} {c : ReplayCandidate}
    {log : ReplayLog} {out : Except PyExc Bool} (h : replayCandidate rt max_count v = .ok c)
    (hrun : Runs (replayOne rt max_count v) log out) :
    (∃ answer rest, log = ⟨.claimDlqReplay c.request_id c.replay_count, answer⟩ :: rest) ∧
      (¬ Granted log ∧ sends log = [] ∨ Granted log ∧ ∃ replayed_at,
        (⟨.nowIso, replayed_at⟩ : Event ReplayOp ReplayOp.Res) ∈ log ∧
          sends log = [(c.room_id, c.republished replayed_at)]) := by
  simp only [replayOne, h] at hrun
  obtain ⟨answer, rest, rfl, hrest⟩ := Runs.call_cases hrun
  refine ⟨⟨answer, rest, rfl⟩, ?_⟩
  rcases answer with e | ⟨_ | _ | _ | _, _ | owner_token⟩
  case ok.claimed.some =>
    obtain ⟨replayed_at, hmem, hsends⟩ := republish_sends hrest
    exact .inr ⟨⟨_, _, owner_token, List.mem_cons_self⟩, replayed_at,
      List.mem_cons_of_mem _ hmem, hsends⟩
  all_goals
    obtain ⟨rfl, -⟩ : rest = [] ∧ _ := by
      first | exact runs_throw_iff.mp hrest | exact runs_ret_iff.mp hrest
    refine .inl ⟨?_, rfl⟩
    rintro ⟨r, g, owner_token, hmem⟩
    simp at hmem

/-! ### Records

A record is key and value in bytes. `Carries` is about the producer that wrote it, and `Accepts`
about the worker that reads it. -/

/-- A record as a topic holds it. -/
abbrev TopicRecord := ConsumerRecord (Option Bytes)

/-- The record as the ingress consumer delivers it. -/
def delivered (rt : Runtime) (record : TopicRecord) : ConsumerRecord KafkaValue :=
  { record with value := deserializeJson rt record.value }

/-- The record is what the serializers of a producer make of a key and a payload. -/
structure Carries (record : TopicRecord) (key : Nat) (payload : Dict) : Prop where
  key : record.key = utf8Encode (natStr key)
  value : serializeJson (.obj payload) = .ok record.value

/-- The worker reads `n` from the object in the record, under the key of its stream. -/
structure Accepts (rt : Runtime) (record : TopicRecord) (n : IngressJob) : Prop where
  object : ∃ d, deserializeJson rt record.value = .json (.obj d) ∧
    isInvalidKafkaPayload (.obj d) = false ∧ (validateIngressObject rt d).2 = .ok n
  key : record.key = utf8Encode (natStr n.room_id)

section Records

variable {rt : Runtime} {settings : IngressSettings} {record letter target : TopicRecord}
variable {n : IngressJob} {d payload : Dict} {key : Nat}

theorem natStr_key (n : Nat) :
    ∃ bytes, utf8Encode (natStr n) = some bytes ∧ utf8Decode bytes = some (natStr n) := by
  have hascii : (natStr n).Ascii := fun c hc => by
    have := natStr_isDigit hc
    simp only [CodePoint.isDigit, Bool.and_eq_true, decide_eq_true_eq] at this
    omega
  have hround := utf8Decode_utf8Encode hascii
  cases hbytes : utf8Encode (natStr n) with
  | none => simp [hbytes] at hround
  | some bytes => exact ⟨bytes, rfl, by simpa [hbytes] using hround⟩

theorem Carries.delivers (h : Carries record key payload) (hwire : Wire (.obj payload))
    (hunique : Json.Unique (.obj payload)) :
    deserializeJson rt record.value = .json (.obj payload) :=
  deserializeJson_serializeJson rt hwire hunique h.value

theorem Accepts.readJob (h : Accepts rt record n) : ReadJob rt n := by
  obtain ⟨d, hd, -, hjob⟩ := h.object
  obtain ⟨hsound, -, hunique⟩ := deserializeJson_json hd
  exact readJob_of_object hsound hunique hjob

/-- An accepted record enters the loop. -/
theorem Accepts.handle (h : Accepts rt record n) :
    handleIngressRecord rt settings (delivered rt record) =
      persistLoop settings n := by
  obtain ⟨d, hd, hmarker, hjob⟩ := h.object
  obtain ⟨bytes, hbytes, hdecode⟩ := natStr_key n.room_id
  have hread : readIngress rt (.json (.obj d)) =
      (.json (.obj (validateIngressObject rt d).1), .ok n) := by
    simp only [readIngress, hmarker, Bool.false_eq_true, if_false, hjob, Except.mapError]
  have hmatches : (KafkaKey.bytes bytes).matches n.room_id = true := by
    simp [KafkaKey.matches, hdecode]
  simp only [handleIngressRecord, delivered, hd, h.key, hbytes, handleIngressJob, hread, hmatches,
    if_true]

/-- The retries of a job can be printed where the configured limit can. -/
theorem triesLeft_fits (hn : n.retry_count ≤ maxPostgresBigint)
    (h : Json.intFits settings.ingress_max_retries = true) :
    Json.intFits ((n.retry_count + triesLeft settings n : Nat) : Int) = true := by
  by_cases hle : settings.ingress_max_retries ≤ n.retry_count
  · have htries : triesLeft settings n = 0 := by
      unfold triesLeft
      omega
    rw [htries, Nat.add_zero]
    exact intFits_of_le hn
  · have htries : ((n.retry_count + triesLeft settings n : Nat) : Int)
        = settings.ingress_max_retries := by
      unfold triesLeft
      omega
    rwa [htries]

/-- Whatever the loop publishes of a job that was read is one letter the producer takes. -/
theorem ReadJob.gives_letter {log : IngressLog} {out : Except PyExc IngressOutcome}
    (hread : ReadJob rt n) (hfits : Json.intFits settings.ingress_max_retries = true)
    (hrun : Runs (persistLoop settings n) log out) (hnames : ClassNames log)
    (hletter : (key, payload) ∈ letters log) :
    ∃ job reason failed_at, RetriedFrom (triesLeft settings n) n job ∧
      payload = (job.deadLettered reason failed_at).toDict ∧ WireObject payload ∧
      key = n.room_id ∧ letters log = [(key, payload)] := by
  have hfinite : ∀ f ∈ n.next_retry_at, f.isFinite = true := by
    simp [hread.normalised.next_retry_at]
  rcases persistLoop_letters hrun hnames hfinite with hnone | ⟨job, reason, now, hjob, hreason, hone⟩
  · simp [hnone] at hletter
  · rw [hone, List.mem_singleton, Prod.mk.injEq] at hletter
    obtain ⟨rfl, rfl⟩ := hletter
    have hcount := triesLeft_fits hread.normalised.retry_count hfits
    exact ⟨job, reason, now.nowIso, hjob, rfl,
      hjob.wireObject hread hcount hreason now.nowIso_clean, rfl, hone⟩

/-- Whatever the handler publishes of an accepted record is one letter the producer takes. -/
theorem Accepts.gives_letter {log : IngressLog} {out : Except PyExc IngressOutcome}
    (h : Accepts rt record n) (hfits : Json.intFits settings.ingress_max_retries = true)
    (hrun : Runs (handleIngressRecord rt settings (delivered rt record)) log out)
    (hnames : ClassNames log) (hletter : (key, payload) ∈ letters log) :
    ∃ job reason failed_at, RetriedFrom (triesLeft settings n) n job ∧
      payload = (job.deadLettered reason failed_at).toDict ∧ WireObject payload ∧
      key = n.room_id ∧ letters log = [(key, payload)] := by
  rw [h.handle] at hrun
  exact h.readJob.gives_letter hfits hrun hnames hletter

/-- What the replayer sends for a letter is read as the replayed job. -/
theorem RetriedFrom.republished_read {tries : Nat} {job : IngressJob} {reason failed_at : PyStr}
    (hjob : RetriedFrom tries n job) (hn : ReadJob rt n)
    (hcount : n.replay_count < maxPostgresBigint) (now : Clock) :
    (validateIngressObject rt (ReplayCandidate.republished ⟨n.request_id, n.room_id,
      n.replay_count, (job.deadLettered reason failed_at).toDict⟩ now.nowIso)).2 =
        .ok (replayed n now.nowIso) := by
  have hreads : Worker.Reads (job.deadLettered reason failed_at).toDict
      { n with retry_count := job.retry_count, next_retry_at := job.next_retry_at } := by
    have hown := (job.deadLettered reason failed_at).toDict_reads
    rw [hjob.same] at hown ⊢
    exact ⟨hown.request_id, hown.route, hown.room_id, hown.user_id, hown.room_seq,
      hown.schema_version, hown.event_type, hown.payload, hown.metadata, hown.x_idempotency_key,
      hown.retry_count, hown.replay_count, hown.next_retry_at, hown.queued_at, hown.replayed_at,
      hown.payment_id, hown.stream_id, hown.actor_id, hown.stream_seq⟩
  exact validateIngressObject_of_reads (republished_reads rfl hreads)
    (replayed_normalised hn.normalised hcount now)

/-- The record of a replayed letter is accepted as the replayed job. -/
theorem accepts_replayed {tries : Nat} {job : IngressJob} {reason failed_at : PyStr} {now : Clock}
    (hn : ReadJob rt n) (hjob : RetriedFrom tries n job)
    (hwire : WireObject (job.deadLettered reason failed_at).toDict)
    (hcount : n.replay_count < maxPostgresBigint)
    (htarget : Carries target n.room_id (ReplayCandidate.republished ⟨n.request_id, n.room_id,
      n.replay_count, (job.deadLettered reason failed_at).toDict⟩ now.nowIso)) :
    Accepts rt target (replayed n now.nowIso) := by
  obtain ⟨hsent, hunique⟩ := (republished_wireObject
    (c := ⟨n.request_id, n.room_id, n.replay_count, _⟩) hwire hcount now.nowIso_clean).wire
  exact ⟨⟨_, htarget.delivers hsent hunique, republished_unmarked (toDict_unmarked _),
    hjob.republished_read hn hcount now⟩, htarget.key⟩

end Records

/-! ### Trips

A trip goes once around: the worker gives up on a job, a replayer takes the letter, and the worker
reads what was published. The chain of trips is what the induction of `replayChain_sound` is on.
-/

/-- A record that was dead-lettered and sent again: the worker handled `source` and
published a letter, and a replay of that letter, by the replayer or by hand, sent `target`. -/
inductive Trip (rt : Runtime) (settings : IngressSettings) (max_count : Int)
    (source target : TopicRecord) : Prop
  | automatic {log : IngressLog} {out : Except PyExc IngressOutcome} {key key' : Nat}
      {payload payload' : Dict} {letter : TopicRecord} {log' : ReplayLog}
      {out' : Except PyExc Bool}
      (handled : Runs (handleIngressRecord rt settings (delivered rt source)) log out)
      (names : ClassNames log) (published : (key, payload) ∈ letters log)
      (held : Carries letter key payload)
      (replayed : Runs (replayOne rt max_count (deserializeJson rt letter.value)) log' out')
      (clocked : Clocked log') (sent : (key', payload') ∈ sends log')
      (arrived : Carries target key' payload')
  | manual {log : IngressLog} {out : Except PyExc IngressOutcome} {key key' : Nat}
      {payload payload' : Dict} {letter : TopicRecord} {log' : ReplayLog}
      {out' : Except ApiExc DlqReplayResponse} {pyRepr : Json → Option PyStr}
      {item : DlqRecord} {asked : PyStr}
      (handled : Runs (handleIngressRecord rt settings (delivered rt source)) log out)
      (names : ClassNames log) (published : (key, payload) ∈ letters log)
      (held : Carries letter key payload)
      (listed : item.value = deserializeJson rt letter.value)
      (replayed : Runs (replayIngressDlqEvent max_count asked
        (summarizeDlqItem pyRepr max_count item)) log' out')
      (clocked : Clocked log') (sent : (key', payload') ∈ sends log')
      (arrived : Carries target key' payload')

/-- `k` trips, one after the other. -/
inductive ReplayChain (rt : Runtime) (settings : IngressSettings) (max_count : Int) :
    Nat → TopicRecord → TopicRecord → Prop
  | refl (record : TopicRecord) : ReplayChain rt settings max_count 0 record record
  | tail {k : Nat} {first record next : TopicRecord}
      (before : ReplayChain rt settings max_count k first record)
      (last : Trip rt settings max_count record next) :
      ReplayChain rt settings max_count (k + 1) first next

/-- `m` is the event of `n`; its counters and the times of its retry and replay may differ. -/
def SameEvent (n m : IngressJob) : Prop :=
  m = { n with
    retry_count := m.retry_count
    next_retry_at := m.next_retry_at
    replay_count := m.replay_count
    replayed_at := m.replayed_at }

section Trips

variable {rt : Runtime} {settings : IngressSettings} {max_count : Int}
variable {record letter target : TopicRecord} {n : IngressJob}

/-- A manual claim sends nothing, and only a replayable item is granted one. -/
theorem claimManualReplay_sends {item : DlqItem} {log : ReplayLog}
    {out : Except ApiExc (Nat × PyStr)} (h : Runs (claimManualReplay max_count item) log out) :
    sends log = [] ∧ ∀ granted, out = .ok granted → item.replayable = true := by
  unfold claimManualReplay at h
  split_ifs at h with hreplayable
  · obtain ⟨rfl, rfl⟩ := runs_throw_iff.mp h
    exact ⟨rfl, by simp⟩
  · have htrue : item.replayable = true := by simpa using hreplayable
    refine ⟨?_, fun _ _ => htrue⟩
    dsimp only at h
    split at h
    · obtain ⟨rfl, -⟩ := runs_throw_iff.mp h
      rfl
    · obtain ⟨answer, rest, rfl, hrest⟩ := Runs.call_cases h
      -- whatever the database answers, the claim is the only operation
      have hnil : rest = [] := by
        rcases answer with e | ⟨_ | _ | _ | _, _ | owner_token⟩
        case ok.claimed.some => exact (runs_ret_iff.mp hrest).1
        all_goals exact (runs_throw_iff.mp hrest).1
      rw [hnil]
      rfl

/-- What the replay of an item sends is its edited payload, below the guard. -/
theorem replayDlqPayload_sends {item : DlqItem} {log : ReplayLog}
    {out : Except ApiExc DlqReplayResponse} {key : Nat} {payload : Dict} (asked : PyStr)
    (hrun : Runs (replayDlqPayload max_count item) log out) (hsent : (key, payload) ∈ sends log) :
    ∃ stream_id replay_count replayed_at,
      safeOptionalPositiveInt (selectedEventField item.payload "stream_id" "room_id")
          = some stream_id ∧
        belowReplayGuard max_count ((item.payload.get? "replay_count").getD (.int 0))
          = some replay_count ∧
        (⟨.nowIso, replayed_at⟩ : Event ReplayOp ReplayOp.Res) ∈ log ∧ key = stream_id ∧
        payload = ReplayCandidate.republished ⟨asked, stream_id, replay_count, item.payload⟩
          replayed_at := by
  -- a run that is refused before the clock is read has sent nothing
  have hrefused : ∀ {e : ApiExc},
      ¬ Runs (Prog.throw e : Replay ApiExc DlqReplayResponse) log out := by
    intro e hthrow
    obtain ⟨rfl, -⟩ := runs_throw_iff.mp hthrow
    simp [sends] at hsent
  unfold replayDlqPayload at hrun
  split at hrun
  · exact absurd hrun hrefused
  split at hrun
  · exact absurd hrun hrefused
  rename_i stream_id hstream
  split at hrun
  · exact absurd hrun hrefused
  rename_i replay_count hcount
  obtain ⟨replayed_at, rest, rfl, hpublish⟩ := Runs.call_cases hrun
  obtain ⟨published, rest, rfl, hanswer⟩ := Runs.call_cases hpublish
  have hrest : rest = [] := by
    cases published with
    | error e => exact (runs_throw_iff.mp hanswer).1
    | ok _ => exact (runs_ret_iff.mp hanswer).1
  subst hrest
  obtain ⟨rfl, rfl⟩ : key = stream_id ∧ payload = _ := by simpa [sends] using hsent
  exact ⟨_, replay_count, replayed_at, hstream, hcount, by simp, rfl, rfl⟩

/-- What a manual replay sends is the edited payload of its item, below the guard. -/
theorem replayIngressDlqEvent_sends {asked : PyStr} {item : DlqItem} {log : ReplayLog}
    {out : Except ApiExc DlqReplayResponse} {key : Nat} {payload : Dict}
    (hrun : Runs (replayIngressDlqEvent max_count asked item) log out)
    (hsent : (key, payload) ∈ sends log) :
    item.replayable = true ∧ ∃ stream_id replay_count replayed_at,
      safeOptionalPositiveInt (selectedEventField item.payload "stream_id" "room_id")
          = some stream_id ∧
        belowReplayGuard max_count ((item.payload.get? "replay_count").getD (.int 0))
          = some replay_count ∧
        (⟨.nowIso, replayed_at⟩ : Event ReplayOp ReplayOp.Res) ∈ log ∧ key = stream_id ∧
        payload = ReplayCandidate.republished ⟨asked, stream_id, replay_count, item.payload⟩
          replayed_at := by
  unfold replayIngressDlqEvent at hrun
  obtain ⟨e, -, hfailed⟩ | ⟨granted, before, after, hgranted, hafter, rfl⟩ := Runs.bind_cases hrun
  · simp [(claimManualReplay_sends hfailed).1] at hsent
  obtain ⟨hbefore, hreplayable⟩ := claimManualReplay_sends hgranted
  refine ⟨hreplayable granted rfl, ?_⟩
  obtain ⟨e, -, hfailed⟩ | ⟨result, during, settled, hduring, hsettled, rfl⟩ :=
    Runs.bind_cases hafter
  · obtain ⟨_, hout, -⟩ := Runs.attempt_cases hfailed
    cases hout
  -- releasing or marking the claim sends nothing
  have hsettled : sends settled = [] := by
    cases result with
    | error e =>
        obtain ⟨_, rest, rfl, hret⟩ := Runs.call_cases hsettled
        obtain ⟨rfl, -⟩ := runs_throw_iff.mp hret
        rfl
    | ok response =>
        obtain ⟨_, rest, rfl, hret⟩ := Runs.call_cases hsettled
        obtain ⟨rfl, -⟩ := runs_ret_iff.mp hret
        rfl
  have hwithin : (key, payload) ∈ sends during := by
    rwa [sends_append, sends_append, hbefore, hsettled, List.nil_append, List.append_nil] at hsent
  obtain ⟨inner, -, hreplay⟩ := Runs.attempt_cases hduring
  obtain ⟨stream_id, replay_count, replayed_at, hstream, hcount, hmem, hkey, hpayload⟩ :=
    replayDlqPayload_sends asked hreplay hwithin
  have hclock : (⟨.nowIso, replayed_at⟩ : Event ReplayOp ReplayOp.Res) ∈
      before ++ (during ++ settled) :=
    List.mem_append_right _ (List.mem_append_left _ hmem)
  exact ⟨stream_id, replay_count, replayed_at, hstream, hcount, hclock, hkey, hpayload⟩

theorem RetriedFrom.letter_fields {tries : Nat} {job : IngressJob} (h : RetriedFrom tries n job)
    (reason failed_at : PyStr) :
    (job.deadLettered reason failed_at).request_id = n.request_id ∧
      (job.deadLettered reason failed_at).room_id = n.room_id ∧
      (job.deadLettered reason failed_at).replay_count = n.replay_count :=
  ⟨(congrArg IngressJob.request_id h.same).trans rfl, (congrArg IngressJob.room_id h.same).trans rfl,
    (congrArg IngressJob.replay_count h.same).trans rfl⟩

/-- The replayer takes the letter of a job up to the replay limit of the job. -/
theorem RetriedFrom.candidate (max_count : Int) {tries : Nat} {job : IngressJob}
    {reason failed_at : PyStr} (h : RetriedFrom tries n job) (hn : ReadJob rt n)
    (hwire : WireObject (job.deadLettered reason failed_at).toDict) :
    replayCandidate rt max_count (.json (.obj (job.deadLettered reason failed_at).toDict)) =
      if max_count ≤ n.replay_count ∨ maxPostgresBigint ≤ n.replay_count then
        .error .skipped_max_replay
      else .ok ⟨n.request_id, n.room_id, n.replay_count,
        (job.deadLettered reason failed_at).toDict⟩ := by
  have hobject := replayObject_toDict (h.valid hn.normalised.toValid) hwire max_count
  obtain ⟨hrequest, hroom, hcount⟩ := h.letter_fields reason failed_at
  rw [hrequest, hroom, hcount] at hobject
  exact hobject

/-- One trip leads to a record that is accepted as the replayed job, below the limit. -/
theorem Trip.step (h : Trip rt settings max_count record target) (haccepts : Accepts rt record n)
    (hfits : Json.intFits settings.ingress_max_retries = true) :
    (n.replay_count : Int) < max_count ∧ ∃ now : Clock,
      Accepts rt target (replayed n now.nowIso) := by
  have hread := haccepts.readJob
  cases h with
  | automatic handled names published held hreplayed clocked sent arrived =>
      obtain ⟨job, reason, failed_at, hjob, rfl, hwire, rfl, -⟩ :=
        haccepts.gives_letter hfits handled names published
      rw [held.delivers hwire.wire.1 hwire.wire.2] at hreplayed
      have hcandidate := hjob.candidate max_count hread hwire
      split_ifs at hcandidate with hlimit
      · -- at the limit nothing is sent, but something was
        obtain ⟨rfl, -⟩ := replayOne_skipped hcandidate hreplayed
        simp [sends] at sent
      · rw [not_or, not_le, not_le] at hlimit
        obtain ⟨-, ⟨-, hnone⟩ | ⟨-, replayed_at, hmem, hone⟩⟩ := replayOne_sends hcandidate hreplayed
        · simp [hnone] at sent
        · obtain ⟨now, hnow⟩ := clocked replayed_at hmem
          rw [hone, hnow, List.mem_singleton, Prod.mk.injEq] at sent
          obtain ⟨rfl, rfl⟩ := sent
          exact ⟨hlimit.1, now, accepts_replayed hread hjob hwire hlimit.2 arrived⟩
  | manual handled names published held listed hreplayed clocked sent arrived =>
      obtain ⟨job, reason, failed_at, hjob, rfl, hwire, rfl, -⟩ :=
        haccepts.gives_letter hfits handled names published
      rw [held.delivers hwire.wire.1 hwire.wire.2] at listed
      -- the endpoint reads the listed object, which is that of the letter
      obtain ⟨hreplayable, stream_id, replay_count, replayed_at, hstream, hcount, hmem, hkey, rfl⟩ :=
        replayIngressDlqEvent_sends hreplayed sent
      obtain ⟨d, r, s, g, hdict, -, hitem, -, -⟩ := summarizeDlqItem_replayable hreplayable
      obtain rfl : (job.deadLettered reason failed_at).toDict = d := by
        rw [listed] at hdict
        exact Option.some.inj hdict
      obtain ⟨now, hnow⟩ := clocked replayed_at hmem
      have hreads := (job.deadLettered reason failed_at).toDict_reads
      obtain ⟨-, hroom, hreplays⟩ := hjob.letter_fields reason failed_at
      rw [hitem.payload, selectedEventField, hreads.stream_id, hreads.room_id,
        safeOptionalPositiveInt_eq] at hstream
      rw [hitem.payload, hreads.replay_count, Option.getD_some, hreplays] at hcount
      obtain ⟨hn, hbelow, hbig⟩ := belowReplayGuard_eq_some.mp hcount
      -- the count and the stream it selects are those of the job
      obtain rfl : n.replay_count = replay_count := by
        simpa using hn
      obtain rfl : n.room_id = stream_id := by
        have := (positiveBigint_eq_some.mp hstream).1
        simpa [hroom] using this
      rw [hkey, hitem.payload, hnow] at arrived
      exact ⟨hbelow, now, accepts_replayed hread hjob hwire hbig arrived⟩

/-! ### A trip that happens

The two results would hold of a program that never replays. An environment in which the database
refuses the job and everything else succeeds makes a trip. -/

/-- The record a producer makes of a key and a payload. -/
def recordOf (key : Nat) (payload : Dict) : TopicRecord where
  topic := "message-ingress"
  partition := 0
  offset := 0
  key := utf8Encode (natStr key)
  value := (serializeJson (.obj payload)).toOption.join

theorem carries_recordOf (key : Nat) {payload : Dict} (h : Wire (.obj payload)) :
    Carries (recordOf key payload) key payload := by
  obtain ⟨value, hvalue⟩ := serializeJson_ok.mpr h
  refine ⟨rfl, ?_⟩
  rw [recordOf, hvalue]
  rfl

/-- What the handler does where the database refuses the values of `n`. -/
def refusedLog (n : IngressJob) (now : Clock) : IngressLog :=
  [⟨.persistIngressJob n, .error (.dataError "NumericValueOutOfRange")⟩, ⟨.utcNow, now⟩,
    ⟨.publishDlqJob n.room_id
      (n.deadLettered "invalid_persistence_data:NumericValueOutOfRange" now.nowIso).toDict, .ok ()⟩,
    ⟨.storeRequestStatus n.request_id (failedDlqStatus n
      "invalid_persistence_data:NumericValueOutOfRange" now.nowIso), .ok []⟩]

theorem refusedLog_names (n : IngressJob) (now : Clock) : ClassNames (refusedLog n now) := by
  intro job name hmem
  simp only [refusedLog, List.mem_cons, List.not_mem_nil, or_false, Sigma.mk.injEq, reduceCtorEq,
    false_and, IngressOp.persistIngressJob.injEq] at hmem
  obtain rfl : name = "NumericValueOutOfRange" := by
    rcases hmem with ⟨rfl, hanswer⟩ | ⟨rfl, hanswer⟩ <;> simpa using eq_of_heq hanswer
  decide

theorem refusedLog_runs (settings : IngressSettings) (haccepts : Accepts rt record n)
    (now : Clock) :
    Runs (handleIngressRecord rt settings (delivered rt record)) (refusedLog n now)
      (.ok .dlq) := by
  rw [haccepts.handle, persistLoop]
  simp only [persistPass, awaitNextRetry, haccepts.readJob.normalised.next_retry_at]
  -- the four operations of the log, one after the other
  iterate 4 apply Runs.op
  exact .ret _

/-- What the replayer does where everything succeeds. -/
def grantedLog (c : ReplayCandidate) (now : Clock) : ReplayLog :=
  [⟨.claimDlqReplay c.request_id c.replay_count, .ok (.claimed, some "owner")⟩,
    ⟨.nowIso, now.nowIso⟩, ⟨.publishIngressJob c.room_id (c.republished now.nowIso), .ok ()⟩,
    ⟨.markDlqReplayPublished c.request_id c.replay_count "owner", .ok true⟩]

theorem grantedLog_runs {v : KafkaValue} {c : ReplayCandidate}
    (h : replayCandidate rt max_count v = .ok c) (now : Clock) :
    Runs (replayOne rt max_count v) (grantedLog c now) (.ok true) := by
  simp only [replayOne, h]
  iterate 4 apply Runs.op
  exact .ret _

theorem grantedLog_clocked (c : ReplayCandidate) (now : Clock) : Clocked (grantedLog c now) := by
  intro text hmem
  simp only [grantedLog, List.mem_cons, List.not_mem_nil, or_false, Sigma.mk.injEq, reduceCtorEq,
    false_and, false_or, true_and] at hmem
  exact ⟨now, eq_of_heq hmem⟩

/-- An accepted record below the replay limit can make a trip. -/
theorem exists_trip (max_count : Int) (haccepts : Accepts rt record n)
    (hfits : Json.intFits settings.ingress_max_retries = true)
    (hlimit : (n.replay_count : Int) < max_count) (hbig : n.replay_count < maxPostgresBigint)
    (now : Clock) : ∃ target, Trip rt settings max_count record target := by
  have hrun := refusedLog_runs settings haccepts now
  have hmem : (n.room_id, (n.deadLettered "invalid_persistence_data:NumericValueOutOfRange"
      now.nowIso).toDict) ∈ letters (refusedLog n now) := List.mem_singleton.mpr rfl
  have hnames := refusedLog_names n now
  have hread := haccepts.readJob
  have hwire : WireObject (n.deadLettered "invalid_persistence_data:NumericValueOutOfRange"
      now.nowIso).toDict := by
    obtain ⟨-, -, -, -, -, hwire, -⟩ := haccepts.gives_letter hfits hrun hnames hmem
    exact hwire
  have hself : RetriedFrom 0 n n := .refl (by simp [hread.normalised.next_retry_at]) 0
  have hcandidate := hself.candidate max_count hread hwire
  rw [if_neg (not_or.mpr ⟨not_le.mpr hlimit, not_le.mpr hbig⟩)] at hcandidate
  have hheld := carries_recordOf n.room_id hwire.wire.1
  have hreplay := grantedLog_runs hcandidate now
  rw [← hheld.delivers hwire.wire.1 hwire.wire.2] at hreplay
  have hsent := republished_wireObject
    (c := ⟨n.request_id, n.room_id, n.replay_count, _⟩) hwire hbig now.nowIso_clean
  exact ⟨_, .automatic hrun hnames hmem hheld hreplay (grantedLog_clocked _ now)
    (List.mem_singleton.mpr rfl) (carries_recordOf n.room_id hsent.wire.1)⟩

end Trips

end DeadLetter

/-! ### The results -/

section Results

open DeadLetter

variable {rt : Runtime} {settings : IngressSettings} {record : TopicRecord} {n : IngressJob}

/-- **A dead letter comes back as its event.** Whatever the database, Kafka and the clock do
while the worker handles an accepted record, it publishes at most one letter, under the key of
the stream; the producer takes it, and its bytes are read back as the same object. The replayer
passes over that letter at the replay limit; below it, it claims the request, sends nothing
unless the claim is granted, and then sends one record, which the producer takes and the worker
accepts as the same job with one more replay.

The letter is the object of a job that differs from the accepted one in its retry fields
(`Accepts.gives_letter`), so the replayer reads the identity of the accepted job from it
(`RetriedFrom.candidate`), and what the replayer sends holds the fields of that job
(`accepts_replayed`). -/
theorem deadLetter_replayed (haccepts : Accepts rt record n)
    (hfits : Json.intFits settings.ingress_max_retries = true) {log : IngressLog}
    {out : Except PyExc IngressOutcome}
    (hrun : Runs (handleIngressRecord rt settings (delivered rt record)) log out)
    (hnames : ClassNames log) {key : Nat} {payload : Dict} (hletter : (key, payload) ∈ letters log) :
    letters log = [(n.room_id, payload)] ∧ ∃ value, serializeJson (.obj payload) = .ok value ∧
      deserializeJson rt value = .json (.obj payload) ∧
      ∀ (max_count : Int) (log' : ReplayLog) (out' : Except PyExc Bool),
        Runs (replayOne rt max_count (deserializeJson rt value)) log' out' →
        if max_count ≤ n.replay_count ∨ maxPostgresBigint ≤ n.replay_count then
          log' = [] ∧ out' = .ok false
        else
          (∃ answer rest, log' = ⟨.claimDlqReplay n.request_id n.replay_count, answer⟩ :: rest) ∧
          (¬ Granted log' ∧ sends log' = [] ∨ Granted log' ∧ ∃ payload',
            sends log' = [(n.room_id, payload')] ∧ (Clocked log' → ∃ now : Clock, ∃ value',
              serializeJson (.obj payload') = .ok value' ∧
                ∀ target : TopicRecord, DeadLetter.Carries target n.room_id payload' →
                  Accepts rt target (replayed n now.nowIso))) := by
  have hread := haccepts.readJob
  obtain ⟨job, reason, failed_at, hjob, rfl, hwire, rfl, hone⟩ :=
    haccepts.gives_letter hfits hrun hnames hletter
  obtain ⟨value, hvalue⟩ := serializeJson_ok.mpr hwire.wire.1
  have hback := deserializeJson_serializeJson rt hwire.wire.1 hwire.wire.2 hvalue
  refine ⟨hone, value, hvalue, hback, ?_⟩
  intro max_count log' out' hreplay
  rw [hback] at hreplay
  -- what the replayer makes of the letter: a candidate below the limit, nothing from it on
  have hcandidate := hjob.candidate max_count hread hwire
  split_ifs at hcandidate ⊢ with hlimit
  · exact replayOne_skipped hcandidate hreplay
  · rw [not_or, not_le, not_le] at hlimit
    obtain ⟨hclaim, ⟨hdenied, hnone⟩ | ⟨hgranted, replayed_at, hmem, hsends⟩⟩ :=
      replayOne_sends hcandidate hreplay
    · exact ⟨hclaim, .inl ⟨hdenied, hnone⟩⟩
    · refine ⟨hclaim, .inr ⟨hgranted, _, hsends, fun hclocked => ?_⟩⟩
      obtain ⟨now, hnow⟩ := hclocked replayed_at hmem
      rw [hnow]
      obtain ⟨value', hvalue'⟩ := serializeJson_ok.mpr
        (republished_wireObject (c := ⟨n.request_id, n.room_id, n.replay_count, _⟩) hwire hlimit.2
          now.nowIso_clean).wire.1
      exact ⟨now, value', hvalue', fun target htarget =>
        accepts_replayed hread hjob hwire hlimit.2 htarget⟩

/-- A record of the small system. -/
def letterRecord : TopicRecord := recordOf 7 (sampleObject "r1" .null .null)

theorem letterRecord_accepted :
    ∃ n, Accepts .sample letterRecord n ∧ n.replay_count = 0 := by
  have hread : ((validateIngressObject .sample (sampleObject "r1" .null .null)).2.toOption.map
      fun n => (n.room_id, n.replay_count)) = some (7, 0) := by decide +kernel
  obtain ⟨n, hn, hcounts⟩ := Option.map_eq_some_iff.mp hread
  obtain ⟨hroom, hcount⟩ := Prod.mk.inj hcounts
  have hok : (validateIngressObject .sample (sampleObject "r1" .null .null)).2 = .ok n := by
    cases h : (validateIngressObject .sample (sampleObject "r1" .null .null)).2 with
    | error e => simp [h, Except.toOption] at hn
    | ok m => simpa [h, Except.toOption] using hn
  have hstructure : (validateJsonStructure (.obj (sampleObject "r1" .null .null))
      maxJsonWireNestingDepth).isOk = true := by decide +kernel
  obtain ⟨hsound, hshallow⟩ := validateJsonStructure_ok.mp (isOk_iff.mp hstructure)
  have hwire : Wire (.obj (sampleObject "r1" .null .null)) := ⟨hsound, hshallow, by decide⟩
  have hunique := sampleObject_unique "r1" .null .null (by simp [Json.Unique])
    (by simp [Json.Unique])
  have hcarries : DeadLetter.Carries letterRecord 7 (sampleObject "r1" .null .null) :=
    carries_recordOf 7 hwire
  exact ⟨n, ⟨⟨_, hcarries.delivers hwire hunique, by decide, hok⟩, by rw [hcarries.key, hroom]⟩,
    hcount⟩

/-- A clock at the epoch. -/
def epochClock : Clock := ⟨0, by decide⟩

/-- The sample job is refused by the database, and the replayer takes its letter. -/
theorem letterRecord_refused :
    ∃ n payload, Accepts .sample letterRecord n ∧ n.replay_count = 0 ∧
      Runs (handleIngressRecord .sample ⟨0, PyFloat.ofNat 1⟩ (delivered .sample letterRecord))
        (refusedLog n epochClock) (.ok .dlq) ∧
      (n.room_id, payload) ∈ letters (refusedLog n epochClock) ∧
      replayCandidate .sample 3 (.json (.obj payload)) =
        .ok ⟨n.request_id, n.room_id, n.replay_count, payload⟩ := by
  obtain ⟨n, haccepts, hcount⟩ := letterRecord_accepted
  have hrun := refusedLog_runs ⟨0, PyFloat.ofNat 1⟩ haccepts epochClock
  have hmem : (n.room_id, (n.deadLettered "invalid_persistence_data:NumericValueOutOfRange"
      epochClock.nowIso).toDict) ∈ letters (refusedLog n epochClock) :=
    List.mem_singleton.mpr rfl
  obtain ⟨-, -, -, -, -, hwire, -⟩ :=
    haccepts.gives_letter (by decide) hrun (refusedLog_names n epochClock) hmem
  have hlimit : ¬ ((3 : Int) ≤ n.replay_count ∨ maxPostgresBigint ≤ n.replay_count) := by
    rw [hcount]
    decide
  -- no retry is configured, so the letter is that of the job itself
  have hself : RetriedFrom 0 n n :=
    .refl (by simp [haccepts.readJob.normalised.next_retry_at]) 0
  have hcandidate := hself.candidate 3 haccepts.readJob hwire
  rw [if_neg hlimit] at hcandidate
  exact ⟨n, _, haccepts, hcount, hrun, hmem, hcandidate⟩

theorem deadLetter_replayed_sample :
    ∃ n payload value log', Accepts .sample letterRecord n ∧
      letters (refusedLog n epochClock) = [(n.room_id, payload)] ∧
      serializeJson (.obj payload) = .ok value ∧
      deserializeJson .sample value = .json (.obj payload) ∧
      Runs (replayOne .sample 3 (deserializeJson .sample value)) log' (.ok true) ∧
      ∃ payload', sends log' = [(n.room_id, payload')] ∧ ∃ now : Clock,
        ∀ target : TopicRecord, DeadLetter.Carries target n.room_id payload' →
          Accepts .sample target (replayed n now.nowIso) := by
  obtain ⟨n, payload, haccepts, hcount, hrun, hmem, hcandidate⟩ := letterRecord_refused
  obtain ⟨hone, value, hvalue, hback, hreplays⟩ :=
    deadLetter_replayed haccepts (by decide) hrun (refusedLog_names n epochClock) hmem
  have hreplay := grantedLog_runs hcandidate epochClock
  rw [← hback] at hreplay
  have hresult := hreplays 3 _ _ hreplay
  have hlimit : ¬ ((3 : Int) ≤ n.replay_count ∨ maxPostgresBigint ≤ n.replay_count) := by
    rw [hcount]
    decide
  rw [if_neg hlimit] at hresult
  obtain ⟨-, ⟨hdenied, -⟩ | ⟨-, payload', hsends, haccepted⟩⟩ := hresult
  · exact absurd ⟨_, _, _, List.mem_cons_self⟩ hdenied
  · obtain ⟨now, _, -, htarget⟩ := haccepted (grantedLog_clocked _ epochClock)
    exact ⟨n, payload, value, _, haccepts, hone, hvalue, hback, hreplay, payload', hsends, now,
      htarget⟩

/-- **The dead-letter round trip preserves the event.** Normalisation gives its own output back:
the object of an accepted job is accepted as that job. What the handler sends to the dead letters
through `move_to_dlq`, for any reason and after any retries, has the key of the stream and is read
back from its bytes. Below the replay limit a granted replay sends it once, under the same key, and
the worker reads what was sent as the same job with no retries and one replay more.

Only the loop calls `move_to_dlq`, and the loop is entered with an object that is not marked, under
a key that is that of its stream or unset. -/
theorem deadLetter_roundTrip {bytes : Option Bytes} {d : Dict}
    (hdecoded : deserializeJson rt bytes = .json (.obj d))
    (haccepted : (validateIngressObject rt d).2 = .ok n) :
    (validateIngressObject rt n.toDict).2 = .ok n ∧
      ∀ {settings : IngressSettings} {kafka_key : KafkaKey} {log : IngressLog}
        {out : Except PyExc IngressOutcome} {key : Nat} {payload : Dict},
        Json.intFits settings.ingress_max_retries = true →
        isInvalidKafkaPayload (.obj d) = false → kafka_key.matches n.room_id = true →
        Runs (handleIngressJob rt settings (.json (.obj d)) kafka_key) log out →
        ClassNames log → (key, payload) ∈ letters log →
        key = n.room_id ∧ ∃ value, serializeJson (.obj payload) = .ok value ∧
          deserializeJson rt value = .json (.obj payload) ∧
          ∀ (max_count : Int) (log' : ReplayLog) (out' : Except PyExc Bool),
            (n.replay_count : Int) < max_count →
            Runs (replayOne rt max_count (deserializeJson rt value)) log' out' →
            Granted log' → Clocked log' →
            ∃ (now : Clock) (payload' : Dict) (value' : Option Bytes),
              sends log' = [(n.room_id, payload')] ∧ serializeJson (.obj payload') = .ok value' ∧
                deserializeJson rt value' = .json (.obj payload') ∧
                (validateIngressObject rt payload').2 = .ok (replayed n now.nowIso) := by
  obtain ⟨hsound, -, hunique⟩ := deserializeJson_json hdecoded
  have hread := readJob_of_object hsound hunique haccepted
  refine ⟨validateIngressObject_of_reads n.toDict_reads hread.normalised, ?_⟩
  intro settings kafka_key log out key payload hfits hmarker hkey hrun hnames hletter
  have hjobRead : readIngress rt (.json (.obj d)) =
      (.json (.obj (validateIngressObject rt d).1), .ok n) := by
    simp only [readIngress, hmarker, Bool.false_eq_true, if_false, haccepted, Except.mapError]
  simp only [handleIngressJob, hjobRead, hkey, if_true] at hrun
  -- the letter, and what its bytes are read as
  obtain ⟨job, reason, failed_at, hjob, rfl, hwire, rfl, -⟩ :=
    hread.gives_letter hfits hrun hnames hletter
  obtain ⟨value, hvalue⟩ := serializeJson_ok.mpr hwire.wire.1
  have hback := deserializeJson_serializeJson rt hwire.wire.1 hwire.wire.2 hvalue
  refine ⟨rfl, value, hvalue, hback, ?_⟩
  intro max_count log' out' hlimit hreplay hgranted hclocked
  rw [hback] at hreplay
  have hcandidate := hjob.candidate max_count hread hwire
  split_ifs at hcandidate with hskipped
  · -- a count that no column holds is skipped, and nothing is granted
    obtain ⟨rfl, -⟩ := replayOne_skipped hcandidate hreplay
    obtain ⟨_, _, _, hmem⟩ := hgranted
    cases hmem
  · have hbig := not_le.mp (not_or.mp hskipped).2
    obtain ⟨-, ⟨hdenied, -⟩ | ⟨-, replayed_at, hmem, hsends⟩⟩ :=
      replayOne_sends hcandidate hreplay
    · exact absurd hgranted hdenied
    · obtain ⟨now, hnow⟩ := hclocked replayed_at hmem
      rw [hnow] at hsends
      obtain ⟨hsent, hkeys⟩ := (republished_wireObject
        (c := ⟨n.request_id, n.room_id, n.replay_count, _⟩) hwire hbig now.nowIso_clean).wire
      obtain ⟨value', hvalue'⟩ := serializeJson_ok.mpr hsent
      exact ⟨now, _, value', hsends, hvalue', deserializeJson_serializeJson rt hsent hkeys hvalue',
        hjob.republished_read hread hbig now⟩

/-- The sample event is refused, claimed and sent again. -/
theorem deadLetter_roundTrip_sample :
    ∃ n payload value payload', ∃ now : Clock,
      (validateIngressObject .sample n.toDict).2 = .ok n ∧
      (n.room_id, payload) ∈ letters (refusedLog n epochClock) ∧
      deserializeJson .sample value = .json (.obj payload) ∧
      sends (grantedLog ⟨n.request_id, n.room_id, n.replay_count, payload⟩ epochClock)
        = [(n.room_id, payload')] ∧
      (validateIngressObject .sample payload').2 = .ok (replayed n now.nowIso) := by
  obtain ⟨n, payload, haccepts, hcount, hrun, hmem, hcandidate⟩ := letterRecord_refused
  obtain ⟨d, hdecoded, hmarker, haccepted⟩ := haccepts.object
  obtain ⟨bytes, hbytes, hkey⟩ := natStr_key n.room_id
  obtain ⟨hidempotent, hletters⟩ := deadLetter_roundTrip hdecoded haccepted
  simp only [handleIngressRecord, delivered, hdecoded, haccepts.key, hbytes] at hrun
  obtain ⟨-, value, -, hback, hreplays⟩ := hletters (by decide) hmarker
    (by simp [KafkaKey.matches, hkey]) hrun (refusedLog_names n epochClock) hmem
  have hreplay := grantedLog_runs hcandidate epochClock
  rw [← hback] at hreplay
  obtain ⟨now, payload', -, hsends, -, -, hagain⟩ := hreplays 3 _ _ (by rw [hcount]; decide)
    hreplay ⟨_, _, _, List.mem_cons_self⟩ (grantedLog_clocked _ epochClock)
  exact ⟨n, payload, value, payload', now, hidempotent, hmem, hback, hsends, hagain⟩

/-- **However often a record is dead-lettered and replayed**, by the replayer or by hand, it
is accepted as the event it was, with one replay more for each trip, and there are no more
trips than the replay limit leaves. By induction on the chain: what a trip starts from is an
accepted record, and `Trip.step` gives the record it ends with. -/
theorem replayChain_sound {max_count : Int} {k : Nat} {target : TopicRecord}
    (hchain : ReplayChain rt settings max_count k record target) (haccepts : Accepts rt record n)
    (hfits : Json.intFits settings.ingress_max_retries = true) :
    ∃ m, Accepts rt target m ∧ SameEvent n m ∧ m.replay_count = n.replay_count + k ∧
      (0 < k → m.replay_count ≤ max_count) := by
  induction hchain with
  | refl record => exact ⟨n, haccepts, rfl, rfl, by simp⟩
  | tail before last ih =>
      obtain ⟨m, hm, hsame, hcount, -⟩ := ih haccepts
      obtain ⟨hbelow, now, hnext⟩ := last.step hm hfits
      refine ⟨_, hnext, ?_, ?_, fun _ => ?_⟩
      · rw [SameEvent] at hsame ⊢
        rw [hsame]
        rfl
      · simp only [replayed, hcount]
        omega
      · simp only [replayed]
        omega

/-- A record that goes to the dead letters twice and comes back twice. -/
theorem replayChain_sound_sample :
    ∃ n target m, Accepts .sample letterRecord n ∧
      ReplayChain .sample ⟨0, PyFloat.ofNat 1⟩ 3 2 letterRecord target ∧
      Accepts .sample target m ∧ SameEvent n m ∧ m.replay_count = 2 := by
  obtain ⟨n, haccepts, hcount⟩ := letterRecord_accepted
  have hfits : Json.intFits (⟨0, PyFloat.ofNat 1⟩ : IngressSettings).ingress_max_retries = true := by
    decide
  obtain ⟨first, hfirst⟩ := exists_trip 3 haccepts hfits (by rw [hcount]; decide)
    (by rw [hcount]; decide) epochClock
  -- what came back from the first trip is an accepted record again
  obtain ⟨-, now, hagain⟩ := hfirst.step haccepts hfits
  have honce : (replayed n now.nowIso).replay_count = 1 := by
    show n.replay_count + 1 = 1
    rw [hcount]
  obtain ⟨second, hsecond⟩ := exists_trip 3 hagain hfits (by rw [honce]; decide)
    (by rw [honce]; decide) epochClock
  have hchain : ReplayChain .sample ⟨0, PyFloat.ofNat 1⟩ 3 2 letterRecord second :=
    .tail (.tail (.refl letterRecord) hfirst) hsecond
  obtain ⟨m, hm, hsame, hreplays, -⟩ := replayChain_sound hchain haccepts hfits
  exact ⟨n, second, m, haccepts, hchain, hm, hsame, by rw [hreplays, hcount]⟩

end Results

end EventPipeline.Guarantees
