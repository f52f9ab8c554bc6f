import EventPipeline.Worker.DlqReplayer

/-!
# EventPipeline.Guarantees.ReplayEligibility

Which dead-lettered records the operator may replay by hand, and which ones the
automatic replayer replays.

Both sides run the same checks on an object (`SharedChecks`); the summary also asks for
the owner and the retry counter (`ManualChecks`), which the replayer never reads, and
the replayer decodes a string value once more, which the summary takes for malformed.
`replayEligibility_agrees` says that these are all the records on which they differ.
-/

namespace EventPipeline.Guarantees

open EventPipeline.Python EventPipeline.Portfolio EventPipeline.Worker EventPipeline.Concurrency

/-! ### What a replay claims and publishes

The two replays are programs over one set of operations. What they claim and what they publish is
read off the operations they perform, under any answers. -/

/-- The request and the generation of a claim. -/
def claimIn : ReplayOp → Option (PyStr × Nat)
  | .claimDlqReplay request_id replay_generation => some (request_id, replay_generation)
  | _ => none

/-- The key and the replay count of a publication. -/
def publicationIn : ReplayOp → Option (Nat × Option Json)
  | .publishIngressJob key payload => some (key, payload.get? "replay_count")
  | _ => none

section Runs

variable {ε α : Type} (answer : (o : ReplayOp) → o.Res)

/-- The claims a replay asks for. -/
def claims (p : Replay ε α) : List (PyStr × Nat) := (Prog.trace answer p).1.filterMap claimIn

/-- The records a replay publishes. -/
def publications (p : Replay ε α) : List (Nat × Option Json) :=
  (Prog.trace answer p).1.filterMap publicationIn

/-- Every claim is granted. -/
def GrantsEveryClaim : Prop :=
  ∀ r g, ∃ owner_token, answer (.claimDlqReplay r g) = .ok (.claimed, some owner_token)

end Runs

/-- The replay reaches `claim_dlq_replay`. -/
def ReachesClaim {ε α : Type} (p : Replay ε α) : Prop := ∀ answer, claims answer p ≠ []

/-- The manual replay of a record, asked for under the request id of its summary. -/
def manualReplay (pyRepr : Json → Option PyStr) (max_count : Int) (record : DlqRecord) :
    Replay ApiExc DlqReplayResponse :=
  let item := summarizeDlqItem pyRepr max_count record
  replayIngressDlqEvent max_count (item.request_id.getD []) item

/-- The summary marks the record replayable, and the replay endpoint refuses it neither
before the claim nor before the publication. -/
def ManuallyReplayable (pyRepr : Json → Option PyStr) (max_count : Int) (record : DlqRecord) :
    Prop :=
  (summarizeDlqItem pyRepr max_count record).replayable = true ∧
    ReachesClaim (manualReplay pyRepr max_count record) ∧
    ∀ answer, GrantsEveryClaim answer → publications answer (manualReplay pyRepr max_count record) ≠ []

/-- The two replays agree on a record: the same records are eligible, and an eligible
one is claimed and published alike, whatever the database and Kafka answer. -/
structure ReplaysAgree (rt : Runtime) (pyRepr : Json → Option PyStr) (max_count : Int)
    (record : DlqRecord) : Prop where
  eligible : ManuallyReplayable pyRepr max_count record ↔
    ReachesClaim (replayOne rt max_count record.value)
  alike : ReachesClaim (replayOne rt max_count record.value) → ∀ answer,
    claims answer (manualReplay pyRepr max_count record) =
        claims answer (replayOne rt max_count record.value) ∧
      publications answer (manualReplay pyRepr max_count record) =
        publications answer (replayOne rt max_count record.value)

/-! ### The checks

The checks of both sides are about the object of the record. Those that both make are collected in
one predicate, and those of the summary in another. -/

/-- What both sides check of an object of request `r`, stream `s` and replay count `n`. -/
structure SharedChecks (max_count : Int) (d : Dict) (r : PyStr) (s n : Nat) : Prop where
  unmarked : isInvalidKafkaPayload (.obj d) = false
  structured : validateJsonStructure (.obj d) maxJsonWireNestingDepth = .ok ()
  aliases : Portfolio.hasConflictingEventAliases d = false
  request_id : (d.get? "request_id").bind (boundedText 80) = some r
  stream_id : positiveBigint (selectedEventField d "stream_id" "room_id") = some s
  replay_count : nonnegativeBigint ((d.get? "replay_count").getD (.int 0)) = some n
  below_max : (n : Int) < max_count
  below_bigint : n < maxPostgresBigint

/-- An object passes the checks both sides share. -/
def Shared (max_count : Int) (d : Dict) : Prop := ∃ r s n, SharedChecks max_count d r s n

/-- What only the summary checks. -/
structure ManualChecks (d : Dict) : Prop where
  user_id : (positiveBigint (selectedEventField d "actor_id" "user_id")).isSome
  retry_count : (nonnegativeBigint ((d.get? "retry_count").getD (.int 0))).isSome

/-- The record is not one the replayer takes and the summary refuses: an object that
passes the shared checks passes the summary's own, and no string holds the text of an
object that passes the shared checks. -/
def CheckedAlike (rt : Runtime) (max_count : Int) : KafkaValue → Prop
  | .json (.str text) =>
      ∀ d, loads ⟨rt.recursionLimit, true⟩ text = .ok (.obj d) → ¬ Shared max_count d
  | value => ∀ d, value.asDict = some d → Shared max_count d → ManualChecks d

section Checks

variable {rt : Runtime} {pyRepr : Json → Option PyStr} {max_count : Int} {d : Dict}
variable {record : DlqRecord} {r : PyStr} {s n : Nat}

theorem positiveBigint_of_alias {c l : Json} (htype : c.sameType l = true)
    (heq : c.pyEq l = true) : positiveBigint c = positiveBigint l := by
  cases c <;> cases l <;> simp_all [Json.sameType, positiveBigint, Json.pyEq, Json.eqItem,
    Json.number?]

/-- The replayer's `room_id` is the summary's stream: the two names do not contradict each other,
so it makes no difference which is read first. -/
theorem fillRoomId_stream (haliases : Portfolio.hasConflictingEventAliases d = false) :
    ((fillRoomId d).get? "room_id").bind positiveBigint =
      positiveBigint (selectedEventField d "stream_id" "room_id") := by
  have hpair : aliasConflict d "stream_id" "room_id" = false := by
    simp only [Portfolio.hasConflictingEventAliases, Bool.or_eq_false_iff] at haliases
    exact haliases.1.1
  unfold fillRoomId selectedEventField
  unfold aliasConflict at hpair
  cases hroom : d.get? "room_id" with
  | none =>
      cases hstream : d.get? "stream_id" with
      | none => simp [hroom, positiveBigint]
      | some v => simp [Dict.get?_set_self]
  | some l =>
      cases hstream : d.get? "stream_id" with
      | none => simp [hroom]
      | some c =>
          simp only [hstream, hroom, Bool.not_eq_false', Bool.and_eq_true] at hpair
          simp [hroom, positiveBigint_of_alias hpair.1 hpair.2]

theorem fillRoomId_get? {key : PyStr} (h : PyStr.ofString "room_id" ≠ key) :
    (fillRoomId d).get? key = d.get? key := by
  unfold fillRoomId
  split
  · exact Dict.get?_set_of_ne h d _
  · rfl

/-- The replayer takes an object exactly when it passes the shared checks. -/
theorem replayObject_eq_ok {c : ReplayCandidate} :
    replayObject max_count d = .ok c ↔
      SharedChecks max_count d c.request_id c.room_id c.replay_count ∧
        c.job_payload = fillRoomId d := by
  -- filling in the room leaves the other fields of the record alone
  have hrequest : (fillRoomId d).get? "request_id" = d.get? "request_id" :=
    fillRoomId_get? (by simp)
  have hreplay : (fillRoomId d).get? "replay_count" = d.get? "replay_count" :=
    fillRoomId_get? (by simp)
  constructor
  · intro h
    unfold replayObject at h
    split_ifs at h with hmarked hstructure haliases
    -- the aliases agree, so that the room is the stream
    have hroom := fillRoomId_stream (Bool.eq_false_iff.mpr haliases)
    simp only [hrequest, hreplay] at h
    split at h
    · rename_i r s hr hs
      split at h
      · cases h
      · rename_i n hn
        split_ifs at h with hmax hbig
        obtain rfl := Except.ok.inj h
        exact ⟨⟨Bool.eq_false_iff.mpr hmarked, isOk_iff.mp hstructure,
          Bool.eq_false_iff.mpr haliases, hr, hroom ▸ hs, hn, not_le.mp hmax, not_le.mp hbig⟩, rfl⟩
    · cases h
  · rintro ⟨h, hpayload⟩
    have hroom := (fillRoomId_stream h.aliases).trans h.stream_id
    have hstructure := isOk_iff.mpr h.structured
    have haliases : Worker.hasConflictingEventAliases d = false := h.aliases
    have hmax : ¬ max_count ≤ (c.replay_count : Int) := by have := h.below_max; omega
    have hbig : ¬ maxPostgresBigint ≤ c.replay_count := by have := h.below_bigint; omega
    unfold replayObject
    simp only [h.unmarked, hstructure, haliases, hrequest, hreplay, h.request_id, hroom,
      h.replay_count, hmax, hbig, not_true_eq_false, if_false, Bool.false_eq_true]
    rw [← hpayload]

/-- What stands for a malformed value is itself marked. -/
theorem unrepresentable_marked (v : KafkaValue) :
    isInvalidKafkaPayload (.obj (unrepresentable pyRepr v)) = true := by
  simp [isInvalidKafkaPayload, unrepresentable]

/-- An unmarked summary is that of an object of sound structure. -/
theorem summaryValue_unmarked {v : KafkaValue}
    (h : isInvalidKafkaPayload (.obj (summaryValue pyRepr v).1) = false) :
    v.asDict = some (summaryValue pyRepr v).1 ∧ (summaryValue pyRepr v).2 = false ∧
      validateJsonStructure (.obj (summaryValue pyRepr v).1) maxJsonWireNestingDepth = .ok () := by
  have hmarked : isInvalidKafkaPayload (.obj (unrepresentable pyRepr v)) = true :=
    unrepresentable_marked v
  unfold summaryValue at h ⊢
  cases hdict : v.asDict with
  | none =>
      simp only [hdict, Option.getD_none] at h
      split_ifs at h <;> simp [hmarked] at h
  | some d =>
      simp only [hdict, Option.getD_some] at h ⊢
      split_ifs at h ⊢ with hstructure
      · exact ⟨rfl, rfl, isOk_iff.mp hstructure⟩
      · simp [hmarked] at h

theorem summaryValue_of_shared {v : KafkaValue} (hdict : v.asDict = some d)
    (h : SharedChecks max_count d r s n) : summaryValue pyRepr v = (d, false) := by
  have hstructure := isOk_iff.mpr h.structured
  simp only [summaryValue, hdict, Option.getD_some, hstructure, if_true]

/-- What the summary says of a record it marks replayable: the id of the request, the generation
and the payload are those of the dict `d`, and its stream id and its counter are integers of the
right range. -/
structure Summarised (item : DlqItem) (d : Dict) (r : PyStr) (s n : Nat) : Prop where
  replayable : item.replayable = true
  request_id : item.request_id = some r
  replay_count : item.replay_count = n
  payload : item.payload = d
  stream_id : positiveBigint (selectedEventField d "stream_id" "room_id") = some s
  counter : nonnegativeBigint ((d.get? "replay_count").getD (.int 0)) = some n

/-- A record the summary marks replayable passes every check of both sides, but for the
largest counter of all. -/
theorem summarizeDlqItem_replayable
    (h : (summarizeDlqItem pyRepr max_count record).replayable = true) :
    ∃ d r s n, record.value.asDict = some d ∧ ManualChecks d ∧
      Summarised (summarizeDlqItem pyRepr max_count record) d r s n ∧ (n : Int) < max_count ∧
      (n < maxPostgresBigint → SharedChecks max_count d r s n) := by
  have hparts := h
  simp only [summarizeDlqItem, Bool.and_eq_true, Bool.not_eq_true', Bool.or_eq_false_iff,
    decide_eq_true_eq, invalidCounter_eq_false, safeOptionalPositiveInt_eq,
    Option.isNone_eq_false_iff, Option.isSome_iff_exists] at hparts
  obtain ⟨⟨⟨⟨⟨⟨⟨-, hmarked⟩, haliases⟩, r, hr⟩, s, hs⟩, u, hu⟩, ⟨m, hm⟩, n, hn⟩, hmax⟩ := hparts
  obtain ⟨hdict, -, hstructure⟩ := summaryValue_unmarked hmarked
  have hcount := safeInt_of_nonnegative hn
  rw [hcount] at hmax
  refine ⟨_, r, s, n, hdict, ⟨?_, ?_⟩, ⟨h, hr, hcount, rfl, hs, hn⟩, hmax, fun hbig => ?_⟩
  · rw [hu]; rfl
  · rw [hm]; rfl
  · exact ⟨hmarked, hstructure, haliases, hr, hs, hn, hmax, hbig⟩

/-- A record that passes every check of both sides is marked replayable. -/
theorem summarizeDlqItem_of_shared (hdict : record.value.asDict = some d)
    (h : SharedChecks max_count d r s n) (hmanual : ManualChecks d) :
    Summarised (summarizeDlqItem pyRepr max_count record) d r s n := by
  have hvalue : summaryValue pyRepr record.value = (d, false) := summaryValue_of_shared hdict h
  obtain ⟨u, hu⟩ := Option.isSome_iff_exists.mp hmanual.user_id
  obtain ⟨m, hm⟩ := Option.isSome_iff_exists.mp hmanual.retry_count
  have hcount := safeInt_of_nonnegative h.replay_count
  refine ⟨?_, ?_, ?_, ?_, h.stream_id, h.replay_count⟩
  · simp only [summarizeDlqItem, hvalue, h.unmarked, h.aliases, h.request_id,
      safeOptionalPositiveInt_eq, h.stream_id, hu, hcount, invalidCounter, hm, h.replay_count,
      Option.isNone_some, Bool.or_false, Bool.not_false, Bool.true_and, decide_eq_true_eq]
    exact h.below_max
  · simp only [summarizeDlqItem, hvalue, h.request_id]
  · simp only [summarizeDlqItem, hvalue, hcount]
  · simp only [summarizeDlqItem, hvalue]

end Checks

/-! ### The runs

Once the record is known to be taken a run is short: one claim, and under a grant one publication.
-/

section Traces

variable {rt : Runtime} {pyRepr : Json → Option PyStr} {max_count : Int} {d : Dict}
variable {record : DlqRecord} {r : PyStr} {s n : Nat}

/-- The publication a granted claim leads to. -/
def publishedUnder (answer : (o : ReplayOp) → o.Res) (r : PyStr) (s n : Nat) :
    List (Nat × Option Json) :=
  match answer (.claimDlqReplay r n) with
  | .ok (.claimed, some _) => [(s, some (.int (n + 1 : Nat)))]
  | _ => []

theorem publishedUnder_of_granted {answer : (o : ReplayOp) → o.Res} (h : GrantsEveryClaim answer) :
    publishedUnder answer r s n ≠ [] := by
  obtain ⟨owner_token, htoken⟩ := h r n
  simp [publishedUnder, htoken]

/-- The replay count of a republished object. -/
theorem get?_republished (d : Dict) (count : Json) (replayed_at : PyStr) :
    Dict.get? ((((d.set "replay_count" count).set "replayed_at" (.str replayed_at)).set
      "retry_count" (.int 0)).set "next_retry_at" .null) "replay_count" = some count := by
  rw [Dict.get?_set_of_ne (by simp), Dict.get?_set_of_ne (by simp), Dict.get?_set_of_ne (by simp),
    Dict.get?_set_self]

/-- A record the replayer takes is claimed once, and published once under a grant. -/
theorem replayOne_runs {c : ReplayCandidate} {v : KafkaValue}
    (h : replayCandidate rt max_count v = .ok c) (answer : (o : ReplayOp) → o.Res) :
    claims answer (replayOne rt max_count v) = [(c.request_id, c.replay_count)] ∧
      publications answer (replayOne rt max_count v) =
        publishedUnder answer c.request_id c.room_id c.replay_count := by
  simp only [claims, publications, replayOne, h, Prog.call_bind, Prog.trace, publishedUnder,
    List.filterMap_cons, claimIn, publicationIn]
  generalize answer (.claimDlqReplay c.request_id c.replay_count) = granted
  rcases granted with e | ⟨_ | _ | _ | _, _ | owner_token⟩
  case ok.claimed.some =>
    simp only [republish, Prog.call_bind, Prog.trace, List.filterMap_cons, claimIn,
      publicationIn, ReplayCandidate.republished, get?_republished]
    generalize answer (.publishIngressJob c.room_id _) = published
    cases published <;> exact ⟨rfl, rfl⟩
  all_goals exact ⟨rfl, rfl⟩

/-- A record the replayer passes over is not claimed. -/
theorem replayOne_skips {skip : ReplaySkip} {v : KafkaValue}
    (h : replayCandidate rt max_count v = .error skip) (answer : (o : ReplayOp) → o.Res) :
    claims answer (replayOne rt max_count v) = [] := by
  simp only [claims, replayOne, h]
  rfl

/-- A record the summary marks replayable is claimed once, and published once under a
grant. -/
theorem replayIngressDlqEvent_runs {item : DlqItem} (h : Summarised item d r s n)
    (hmax : (n : Int) < max_count) (hbig : n < maxPostgresBigint) (q : PyStr)
    (answer : (o : ReplayOp) → o.Res) :
    claims answer (replayIngressDlqEvent max_count q item) = [(r, n)] ∧
      publications answer (replayIngressDlqEvent max_count q item) =
        publishedUnder answer r s n := by
  have hguard : belowReplayGuard max_count (.int item.replay_count) = some n :=
    belowReplayGuard_eq_some.mpr ⟨by rw [h.replay_count], hmax, hbig⟩
  have hcounter : belowReplayGuard max_count ((d.get? "replay_count").getD (.int 0)) = some n :=
    belowReplayGuard_eq_some.mpr ⟨(nonnegativeBigint_eq_some.mp h.counter).1, hmax, hbig⟩
  simp only [claims, publications, replayIngressDlqEvent, claimManualReplay, h.replayable,
    Bool.true_eq_false, if_false, hguard, h.request_id, Option.getD_some, Prog.call_bind,
    Prog.op_bind, Prog.trace, publishedUnder, List.filterMap_cons, claimIn, publicationIn]
  generalize answer (.claimDlqReplay r n) = granted
  rcases granted with e | ⟨_ | _ | _ | _, _ | owner_token⟩
  case ok.claimed.some =>
    simp only [Prog.pure_eq, Prog.ret_bind, replayDlqPayload, h.replayable, Bool.true_eq_false,
      if_false, h.payload, safeOptionalPositiveInt_eq, h.stream_id, hcounter, Prog.call_bind,
      Prog.attempt, Prog.op_bind, Prog.trace, List.filterMap_cons, claimIn, publicationIn,
      get?_republished]
    generalize answer (.publishIngressJob s _) = published
    cases published <;> exact ⟨rfl, rfl⟩
  all_goals exact ⟨rfl, rfl⟩

/-- The guards of the manual replay refuse what the summary blocks, and the largest
counter. -/
theorem replayIngressDlqEvent_refused {item : DlqItem} (q : PyStr)
    (h : item.replayable = false ∨ (maxPostgresBigint : Int) ≤ item.replay_count)
    (answer : (o : ReplayOp) → o.Res) :
    claims answer (replayIngressDlqEvent max_count q item) = [] := by
  simp only [claims, replayIngressDlqEvent, claimManualReplay]
  split_ifs with hreplayable
  · rfl
  · have hguard : belowReplayGuard max_count (.int item.replay_count) = none := by
      have hle := h.resolve_left hreplayable
      simp only [belowReplayGuard]
      rw [if_neg]
      omega
    simp only [hguard]
    rfl

end Traces

/-! ### The agreement -/

section Agreement

variable {rt : Runtime} {pyRepr : Json → Option PyStr} {max_count : Int} {d : Dict}
variable {record : DlqRecord} {r : PyStr} {s n : Nat}

/-- Some answers, so that what holds under all answers is not empty. -/
def refuseAll : (o : ReplayOp) → o.Res
  | .claimDlqReplay _ _ => .ok (.in_progress, none)
  | .nowIso => []
  | .publishIngressJob _ _ => .ok ()
  | .releaseDlqReplayClaim _ _ _ => .ok ()
  | .markDlqReplayPublished _ _ _ => .ok true

/-- The replayer reaches the claim exactly with a payload that passes the shared
checks. -/
theorem reachesClaim_replayOne {v : KafkaValue} :
    ReachesClaim (replayOne rt max_count v) ↔
      ∃ d, replayPayload rt v = some (.obj d) ∧ Shared max_count d := by
  constructor
  · intro h
    cases hcandidate : replayCandidate rt max_count v with
    | error skip => exact absurd (replayOne_skips hcandidate refuseAll) (h refuseAll)
    | ok c =>
        unfold replayCandidate at hcandidate
        split at hcandidate
        · rename_i d hd
          exact ⟨d, hd, _, _, _, (replayObject_eq_ok.mp hcandidate).1⟩
        · cases hcandidate
  · rintro ⟨d, hd, r, s, n, hshared⟩ answer
    have hcandidate : replayCandidate rt max_count v = .ok ⟨r, s, n, fillRoomId d⟩ := by
      rw [replayCandidate, hd]
      exact replayObject_eq_ok.mpr ⟨hshared, rfl⟩
    rw [(replayOne_runs hcandidate answer).1]
    simp

/-- The endpoint replays exactly the objects that pass every check of both sides. -/
theorem manuallyReplayable_iff :
    ManuallyReplayable pyRepr max_count record ↔
      ∃ d, record.value.asDict = some d ∧ Shared max_count d ∧ ManualChecks d := by
  constructor
  · rintro ⟨hreplayable, hclaim, -⟩
    obtain ⟨d, r, s, n, hdict, hmanual, hitem, hmax, hshared⟩ :=
      summarizeDlqItem_replayable hreplayable
    refine ⟨d, hdict, ⟨r, s, n, hshared (not_le.mp fun hbig => ?_)⟩, hmanual⟩
    have hle : (maxPostgresBigint : Int) ≤
        (summarizeDlqItem pyRepr max_count record).replay_count := by
      rw [hitem.replay_count]
      exact_mod_cast hbig
    exact hclaim refuseAll (replayIngressDlqEvent_refused _ (Or.inr hle) refuseAll)
  · rintro ⟨d, hdict, ⟨r, s, n, hshared⟩, hmanual⟩
    have hitem : Summarised (summarizeDlqItem pyRepr max_count record) d r s n :=
      summarizeDlqItem_of_shared hdict hshared hmanual
    have hruns := replayIngressDlqEvent_runs hitem hshared.below_max hshared.below_bigint
    refine ⟨hitem.replayable, fun answer => ?_, fun answer hgrants => ?_⟩
    · rw [manualReplay, (hruns _ answer).1]
      simp
    · rw [manualReplay, (hruns _ answer).2]
      exact publishedUnder_of_granted hgrants

/-- The payload the replayer reads is the object the summary reads, unless the value is
a string. -/
theorem replayPayload_asDict {v : KafkaValue} (hv : ∀ text, v ≠ .json (.str text)) :
    replayPayload rt v = some (.obj d) ↔ v.asDict = some d := by
  match v with
  | .invalid marker => simp [replayPayload, KafkaValue.asDict]
  | .json (.obj d) => simp [replayPayload, KafkaValue.asDict]
  | .json (.str text) => exact absurd rfl (hv text)
  | .json .null => simp [replayPayload, KafkaValue.asDict]
  | .json (.bool b) => simp [replayPayload, KafkaValue.asDict]
  | .json (.int z) => simp [replayPayload, KafkaValue.asDict]
  | .json (.float f) => simp [replayPayload, KafkaValue.asDict]
  | .json (.arr xs) => simp [replayPayload, KafkaValue.asDict]

/-- A string value is no object to the summary. -/
theorem checkedAlike_iff :
    CheckedAlike rt max_count record.value ↔
      ∀ d, replayPayload rt record.value = some (.obj d) → Shared max_count d →
        record.value.asDict = some d ∧ ManualChecks d := by
  by_cases hstring : ∃ text, record.value = .json (.str text)
  · obtain ⟨text, htext⟩ := hstring
    rw [htext]
    simp only [CheckedAlike, replayPayload, KafkaValue.asDict, reduceCtorEq, false_and]
    cases loads ⟨rt.recursionLimit, true⟩ text with
    | error e => simp [Except.toOption]
    | ok v => simp [Except.toOption]
  · have hother : ∀ text, record.value ≠ .json (.str text) := fun text h => hstring ⟨text, h⟩
    have halike : CheckedAlike rt max_count record.value ↔
        ∀ d, record.value.asDict = some d → Shared max_count d → ManualChecks d := by
      unfold CheckedAlike
      split
      · rename_i text htext
        exact absurd htext (hother text)
      · rfl
    rw [halike]
    constructor
    · intro h d hd hshared
      have hdict := (replayPayload_asDict hother).mp hd
      exact ⟨hdict, h d hdict hshared⟩
    · intro h d hdict hshared
      exact (h d ((replayPayload_asDict hother).mpr hdict) hshared).2

/-- **Manual and automatic replay agree** on a record exactly when it is checked alike:
then the same records are eligible, and an eligible one is claimed under one request
and generation, and published under one key with one replay count.

Both paths come down to one predicate on the object of the record, `Shared`: the automatic
path reaches its claim exactly with it (`reachesClaim_replayOne`), the manual one needs it of the
decoded object and its own checks besides (`manuallyReplayable_iff`). Where the two agree the rest
is running both programs on the same answers. -/
theorem replayEligibility_agrees (rt : Runtime) (pyRepr : Json → Option PyStr) (max_count : Int)
    (record : DlqRecord) :
    ReplaysAgree rt pyRepr max_count record ↔ CheckedAlike rt max_count record.value := by
  rw [checkedAlike_iff]
  constructor
  · rintro ⟨heligible, -⟩ d hd hshared
    have hreaches := reachesClaim_replayOne.mpr ⟨d, hd, hshared⟩
    obtain ⟨d', hdict, -, hmanual⟩ := manuallyReplayable_iff.mp (heligible.mpr hreaches)
    -- the manual path decodes no text: for any other record both read one object
    have hsame : d' = d := by
      have hother : ∀ text, record.value ≠ .json (.str text) := by
        intro text htext
        rw [htext] at hdict
        cases hdict
      have hd' : replayPayload rt record.value = some (.obj d') :=
        (replayPayload_asDict hother).mpr hdict
      exact Json.obj.inj (Option.some.inj (hd'.symm.trans hd))
    exact hsame ▸ ⟨hdict, hmanual⟩
  · intro h
    refine ⟨?_, ?_⟩
    · -- eligibility: the shared checks, which the condition makes the manual ones
      rw [manuallyReplayable_iff, reachesClaim_replayOne]
      constructor
      · rintro ⟨d, hdict, hshared, -⟩
        have hother : ∀ text, record.value ≠ .json (.str text) := by
          intro text htext
          rw [htext] at hdict
          cases hdict
        exact ⟨d, (replayPayload_asDict hother).mpr hdict, hshared⟩
      · rintro ⟨d, hd, hshared⟩
        obtain ⟨hdict, hmanual⟩ := h d hd hshared
        exact ⟨d, hdict, hshared, hmanual⟩
    · intro hreaches answer
      -- the claims: both programs are run on the same answer
      obtain ⟨d, hd, r, s, n, hshared⟩ := reachesClaim_replayOne.mp hreaches
      obtain ⟨hdict, hmanual⟩ := h d hd ⟨r, s, n, hshared⟩
      have hitem : Summarised (summarizeDlqItem pyRepr max_count record) d r s n :=
        summarizeDlqItem_of_shared hdict hshared hmanual
      have hruns := replayIngressDlqEvent_runs hitem hshared.below_max hshared.below_bigint
        ((summarizeDlqItem pyRepr max_count record).request_id.getD []) answer
      have hcandidate : replayCandidate rt max_count record.value = .ok ⟨r, s, n, fillRoomId d⟩ := by
        rw [replayCandidate, hd]
        exact replayObject_eq_ok.mpr ⟨hshared, rfl⟩
      have hauto := replayOne_runs hcandidate answer
      exact ⟨hruns.1.trans hauto.1.symm, hruns.2.trans hauto.2.symm⟩

/-- A record without an owner. -/
def ownerlessRecord (rt : Runtime) : DlqRecord where
  topic := .str "message-ingress-dlq"
  partition := .int 0
  offset := .int 7
  timestamp := .null
  key := .str "1"
  value := deserializeJson rt (utf8Encode "\x7b\"request_id\": \"req-replay\", \"room_id\": 1\x7d")

/-- The automatic replayer replays a record without an owner, which the summary blocks. -/
theorem replayEligibility_ownerless :
    ¬ ReplaysAgree .sample (fun _ => none) 3 (ownerlessRecord .sample) := by
  rintro ⟨heligible, -⟩
  have htaken : (replayCandidate .sample 3 (ownerlessRecord .sample).value).isOk = true := by
    decide +kernel
  have hblocked :
      (summarizeDlqItem (fun _ => none) 3 (ownerlessRecord .sample)).replayable = false := by
    decide +kernel
  cases hcandidate : replayCandidate .sample 3 (ownerlessRecord .sample).value with
  | error skip => simp [hcandidate, Except.isOk, Except.toBool] at htaken
  | ok c =>
      have hreaches : ReachesClaim (replayOne .sample 3 (ownerlessRecord .sample).value) := by
        intro answer
        rw [(replayOne_runs hcandidate answer).1]
        simp
      obtain ⟨hreplayable, -⟩ := heligible.mpr hreaches
      exact absurd (hblocked.symm.trans hreplayable) (by simp)

end Agreement

end EventPipeline.Guarantees
