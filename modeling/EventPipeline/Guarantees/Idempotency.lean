import EventPipeline.Worker.System

/-!
# EventPipeline.Guarantees.Idempotency

One message for one idempotency key of one actor on one route, under any
interleaving: whoever commits first stores the response, and everybody after that
returns it and changes nothing but a status row.
-/

namespace EventPipeline.Guarantees

open EventPipeline.Python EventPipeline.Portfolio EventPipeline.Postgres
open EventPipeline.Concurrency EventPipeline.Worker

variable {rt : Runtime} {hash : PyStr → Int}

/-- A step of a run of the worker. -/
abbrev WorkerTransition (rt : Runtime) :=
  Transition Stmt Stmt.Res PyExc Answer (Task rt) Tables Ext Write Lock

/-- `route, user_id, x_idempotency_key`. -/
structure KeyTriple where
  route : PyStr
  user_id : Nat
  key : PyStr

/-- The idempotency row of a triple. -/
def KeyTriple.row (T : KeyTriple) : IdempotencyKey := (idempotencyRoute T.route T.user_id, T.key)

/-- The job carries the triple. -/
def KeyTriple.CarriedBy (T : KeyTriple) (job : IngressJob) : Prop :=
  job.route = T.route ∧ job.user_id = T.user_id ∧ job.x_idempotency_key = some T.key

instance (T : KeyTriple) (job : IngressJob) : Decidable (T.CarriedBy job) :=
  inferInstanceAs (Decidable (_ ∧ _ ∧ _))

/-- The messages one step adds for a job that carries the triple. -/
def insertedBy (T : KeyTriple) (t : WorkerTransition rt) : List MessageRow :=
  match t.event with
  | .committed (.persist v) _ =>
      if T.CarriedBy v.job then t.after.db.messages.drop t.before.db.messages.length else []
  | _ => []

/-- A job that carries the triple has returned the stored message and changed neither
messages nor counters nor the outbox. -/
structure Repeats (stored : Json) (response : Dict) (t t' : Tables) : Prop where
  response : ∃ m ∈ t.messages, stored = .obj (messageRowResponse m) ∧
    ∀ persisted_at,
      (committedResponse persisted_at response).get? "id" = some (.int m.id) ∧
      (committedResponse persisted_at response).get? "room_id" = some (.int m.room_id) ∧
      (committedResponse persisted_at response).get? "room_seq" = some (.int m.room_seq)
  messages : t'.messages = t.messages
  sequences : t'.room_sequences = t.room_sequences
  outbox : t'.notification_outbox = t.notification_outbox

theorem KeyTriple.CarriedBy.key_eq {T : KeyTriple} {v : ValidatedJob rt} (h : T.CarriedBy v.job) :
    v.job.idempotencyKey = some T.key ∧ v.job.scopedKey T.key = T.row := by
  obtain ⟨hroute, huser, hkey⟩ := h
  have hne := (v.normalised.idem_key T.key hkey).1
  refine ⟨by simp [IngressJob.idempotencyKey, hkey, hne], ?_⟩
  rw [IngressJob.scopedKey, hroute, huser, KeyTriple.row]

theorem get?_filter_ne {d : Dict} {key key' : PyStr} (h : key ≠ key') :
    Dict.get? (d.filter fun p => p.1 ≠ key') key = Dict.get? d key := by
  induction d with
  | nil => rfl
  | cons p d ih =>
      obtain ⟨k, v⟩ := p
      by_cases hk : k = key'
      · have hne : ¬k = key := fun hk' => h (hk'.symm.trans hk)
        rw [List.filter_cons, if_neg (by simp [hk]), ih, Dict.get?_cons, if_neg hne]
      · rw [List.filter_cons, if_pos (by simp [hk]), Dict.get?_cons, Dict.get?_cons, ih]

/-- The caller sees the message of the response. -/
theorem committedResponse_get? {response : Dict} {m : MessageRow} (h : Responds response m)
    (persisted_at : PyStr) :
    (committedResponse persisted_at response).get? "id" = some (.int m.id) ∧
      (committedResponse persisted_at response).get? "room_id" = some (.int m.room_id) ∧
      (committedResponse persisted_at response).get? "room_seq" = some (.int m.room_seq) := by
  have hget : ∀ key : PyStr, key ≠ "_idempotency_hit" → key ≠ "persisted_at" →
      (committedResponse persisted_at response).get? key
        = Dict.get? (messageRowResponse m) key := by
    intro key hhit hat
    rw [committedResponse, get?_filter_ne hhit]
    exact (h.set_persisted_at _).get? hat hhit
  refine ⟨?_, ?_, ?_⟩ <;> rw [hget _ (by simp) (by simp)] <;> simp [messageRowResponse]

/-! ### One step -/

/-- A commit of a job that carries a triple: the response is repeated, or nothing was
stored before and at most one message was added, which is stored now. -/
theorem persist_commit {T : KeyTriple} {v : ValidatedJob rt} {a : Answer}
    {s s' : WorkerSystem rt} (hcarries : T.CarriedBy v.job)
    (hgood : (pipeline hash).Good (fun _ => True) (TaskPost (fun _ => True) hash) TaskRefused s)
    (hstep : Step (engine hash) (program rt) s (.committed (.persist v) a) s') :
    (∃ response stored, a = .response response ∧ s.db.idempotency_keys T.row = some stored ∧
        Repeats stored response s.db s'.db) ∨
      (s.db.idempotency_keys T.row = none ∧
        (s'.db.messages = s.db.messages ∨
          ((∃ row, s'.db.messages = s.db.messages ++ [row]) ∧
            s'.db.idempotency_keys T.row ≠ none))) := by
  obtain ⟨view, hdb, -, hpost, hafter, -⟩ := hgood.commit_post hstep
  obtain ⟨hkey, hrow⟩ := hcarries.key_eq
  cases a with
  | relayed worked => exact hpost.elim
  | stored => exact hpost.elim
  | response response =>
      rw [← hdb, hafter]
      have hnoRow : NoResponse hash v.job view → view.db.idempotency_keys T.row = none :=
        fun hnone => hrow ▸ (hnone T.key hkey).1
      -- the ways a persist can end, of which only a fresh message adds a row
      cases hpost with
      | hit key m st hstored hresponds hst hw =>
          left
          obtain rfl : key = T.key := Option.some.inj (hstored.key_eq.symm.trans hkey)
          obtain ⟨hsame, hseq⟩ := sameRows_status hash hst view.db
          rw [hw]
          exact ⟨response, _, rfl, hrow ▸ hstored.stored,
            ⟨m, hstored.mem, rfl, committedResponse_get? hresponds⟩, hsame.messages, hseq,
            hsame.outbox⟩
      | existing m st hnone hm hrid hroom huser hresponds hst hw =>
          right
          rw [hw]
          exact ⟨hnoRow hnone, Or.inl (sameRows_status hash hst view.db).1.messages⟩
      | ownDuplicate n seq m st hnone hn hlock hseq hlt hm hrid hroom hmseq hok hresponds hst hw =>
          right
          rw [hw]
          exact ⟨hnoRow hnone, Or.inl (sameRows_sequence hash hst v.job.room_id n view.db).messages⟩
      | fresh n row st o hnone hfresh hmok hresponds hst hfor hpub hw =>
          right
          have hadds := addsRow_fresh hash hst n row o view.db
          rw [hw]
          refine ⟨hnoRow hnone, Or.inr ⟨⟨row, hadds.messages⟩, ?_⟩⟩
          rw [hadds.idempotency, hkey]
          simp [hrow]

/-- A step only grows the committed tables. -/
theorem step_grows {s s' : WorkerSystem rt} {e : WorkerEvent rt}
    (hgood : (pipeline hash).Good (fun _ => True) (TaskPost (fun _ => True) hash) TaskRefused s)
    (hstep : Step (engine hash) (program rt) s e s') :
    s.db.messages ⊆ s'.db.messages ∧
      ∀ key v, s.db.idempotency_keys key = some v → s'.db.idempotency_keys key = some v := by
  by_cases he : ∃ l a, e = .committed l a
  · obtain ⟨l, a, rfl⟩ := he
    obtain ⟨view, hdb, hext, hpost, hafter, -⟩ := hgood.commit_post hstep
    have hinv : Inv view.db view.ext := by rw [hdb, hext]; exact hgood.inv
    obtain ⟨-, hgrows⟩ := taskPost_justifies l a view hinv hpost
    have hgrows : Grows view.db view.ext ((engine hash).applyAll view.writes view.db) view.ext :=
      hgrows
    rw [← hdb, hafter]
    exact ⟨hgrows.messages, hgrows.idempotency⟩
  · rw [Protocol.step_db hstep fun l a heq => he ⟨l, a, heq⟩]
    exact ⟨fun _ h => h, fun _ _ h => h⟩

/-! ### Every run

What is counted over the history is carried along a run: as long as nothing was added the row may
be missing, and with the one message that was added its row is stored, from then on and for good.
-/

/-- The messages added so far for a triple, and whether its row is stored. -/
structure Counted (T : KeyTriple) (inserted : List MessageRow) (t : Tables) : Prop where
  atMostOne : inserted.length ≤ 1
  stored : inserted ≠ [] → t.idempotency_keys T.row ≠ none

/-- One step adds a message for the triple only when none was added. -/
theorem counted_step {T : KeyTriple} {inserted : List MessageRow} {t : WorkerTransition rt}
    (h : Counted T inserted t.before.db)
    (hgood : (pipeline hash).Good (fun _ => True) (TaskPost (fun _ => True) hash) TaskRefused t.before)
    (hstep : Step (engine hash) (program rt) t.before t.event t.after) :
    Counted T (inserted ++ insertedBy T t) t.after.db := by
  have hkeep : t.before.db.idempotency_keys T.row ≠ none →
      t.after.db.idempotency_keys T.row ≠ none := by
    intro hne
    obtain ⟨v, hv⟩ := Option.ne_none_iff_exists'.mp hne
    rw [(step_grows hgood hstep).2 _ v hv]
    simp
  -- a step that inserts nothing keeps the row of the key
  have hnothing : insertedBy T t = [] → Counted T (inserted ++ insertedBy T t) t.after.db := by
    intro hnil
    rw [hnil, List.append_nil]
    exact ⟨h.atMostOne, fun hne => hkeep (h.stored hne)⟩
  obtain ⟨before, event, after⟩ := t
  cases event with
  | committed l a =>
      cases l with
      | persist v =>
          by_cases hcarries : T.CarriedBy v.job
          · have hadded : insertedBy T ⟨before, .committed (.persist v) a, after⟩
                = after.db.messages.drop before.db.messages.length := if_pos hcarries
            rcases persist_commit hcarries hgood hstep with
              ⟨response, stored, -, -, hrepeats⟩ | ⟨hnone, hsame | ⟨⟨row, hrow⟩, hstored⟩⟩
            · exact hnothing (by rw [hadded, hrepeats.messages, List.drop_length])
            · exact hnothing (by rw [hadded, hsame, List.drop_length])
            · -- a message before this one would have stored its response
              have hnil : inserted = [] := by
                by_contra hne
                exact h.stored hne hnone
              rw [hadded, hrow, List.drop_left, hnil]
              exact ⟨by simp, fun _ => hstored⟩
          · exact hnothing (if_neg hcarries)
      | _ => exact hnothing rfl
  | _ => exact hnothing rfl

theorem counted_run {T : KeyTriple} {rooms users : Nat → Bool} {members : Nat → Nat → Bool}
    {h : List (WorkerTransition rt)} {s : WorkerSystem rt}
    (hrun : WorkerRun rt hash (emptySystem rt rooms users members) h s) :
    Counted T (h.flatMap (insertedBy T)) s.db := by
  induction hrun with
  | nil => exact ⟨by simp, by simp⟩
  | @snoc h s e s' hrun hstep ih =>
      rw [List.flatMap_append, List.flatMap_singleton]
      have hgood : (pipeline hash).Good (fun _ => True) (TaskPost (fun _ => True) hash) TaskRefused s :=
        workerRun_good hrun fun _ _ => trivial
      exact counted_step (t := ⟨s, e, s'⟩) ih hgood hstep

/-- A stored response passes its own validator again for the owner and the room of
its message. -/
def ValidatesAgain (t : Tables) : Prop :=
  ∀ key stored, t.idempotency_keys key = some stored → ∃ m ∈ t.messages, ScopedTo key m ∧
    validatedIdempotencyResponse (some stored) m.user_id m.room_id
      = some (messageRowResponse m)

theorem validatesAgain_of_inv {t : Tables} {x : Ext} (h : Inv t x) : ValidatesAgain t := by
  intro key stored hstored
  obtain ⟨m, hm, hscoped, rfl⟩ := h.idempotency key stored hstored
  refine ⟨m, hm, hscoped, ?_⟩
  exact validatedIdempotencyResponse_messageRowResponse (h.messages m hm)

/-- **One message for one key.** From empty tables, whatever transactions do among
each other: jobs that carry a triple insert at most one message, a job that carries
it and commits when its row is stored repeats the stored response, and every stored
response is accepted again.

At most one insert is counted along the run (`counted_run`): it holds the lock of the key, and the
key row it writes in the same transaction turns every later job away. What such a job answers is a
postcondition of its program, read off at its commit (`persist_commit`). -/
theorem idempotencyKey_unique {rooms users : Nat → Bool} {members : Nat → Nat → Bool}
    {h : List (WorkerTransition rt)} {s : WorkerSystem rt}
    (hrun : WorkerRun rt hash (emptySystem rt rooms users members) h s) :
    (∀ T : KeyTriple, (h.flatMap (insertedBy T)).length ≤ 1) ∧
      (∀ T : KeyTriple, ∀ t ∈ h, ∀ v a stored, t.event = .committed (.persist v) a →
        T.CarriedBy v.job → t.before.db.idempotency_keys T.row = some stored →
        ∃ response, a = .response response ∧
          Repeats stored response t.before.db t.after.db) ∧
      ValidatesAgain s.db := by
  refine ⟨fun T => (counted_run hrun).atMostOne, ?_, validatesAgain_of_inv (workerRun_inv hrun)⟩
  intro T t ht v a stored hevent hcarries hstored
  obtain ⟨h', -, hrun', hstep⟩ := hrun.of_mem ht
  have hgood : (pipeline hash).Good (fun _ => True) (TaskPost (fun _ => True) hash) TaskRefused
      t.before :=
    workerRun_good hrun' fun _ _ => trivial
  rw [hevent] at hstep
  rcases persist_commit hcarries hgood hstep with ⟨response, st, ha, hst, hrepeats⟩ | ⟨hnone, -⟩
  · obtain rfl : st = stored := Option.some.inj (hst.symm.trans hstored)
    exact ⟨response, ha, hrepeats⟩
  · exact absurd hstored (by simp [hnone])

/-- An event with the idempotency key `k`. -/
def keyedJob (request_id : PyStr)
    (haccepted : (validateIngressObject .sample
      (sampleObject request_id .null (.str "k"))).2.isOk) : ValidatedJob .sample :=
  .ofObject _ (sampleObject_unique request_id .null (.str "k") (by simp [Json.Unique])
    (by simp [Json.Unique]))
    haccepted

/-- Two requests with one key, one after the other. -/
def sampleRepeat : List (Action (Task .sample) Choice) :=
  wholeTransaction 0 (.persist (keyedJob "r1" (by decide +kernel))) 11 ++
    wholeTransaction 1 (.persist (keyedJob "r2" (by decide +kernel))) 4

theorem idempotencyKey_unique_sample :
    ∃ s : WorkerSystem .sample,
      (s.db.messages.map (·.request_id)) = [PyStr.ofString "r1"] ∧ ValidatesAgain s.db := by
  have hplay : ((play (engine fun _ => 0) (program .sample) sampleRepeat sampleSim).map fun p =>
      p.2.db.messages.map (·.request_id)) = some [PyStr.ofString "r1"] := by decide +kernel
  obtain ⟨p, hp, hstate⟩ := Option.map_eq_some_iff.mp hplay
  obtain ⟨h, hrun, -⟩ := sampleRun hp
  exact ⟨p.2.toSystem, hstate, (idempotencyKey_unique hrun).2.2⟩

end EventPipeline.Guarantees
