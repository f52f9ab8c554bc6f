import EventPipeline.Concurrency.Simulator
import EventPipeline.Worker.PersistSpec

/-!
# EventPipeline.Worker.System

The worker's transactions together: any number of persist, status, relay and
notification transactions over one database, interleaved statement by statement.

`Task` names what a transaction does. Each task has a postcondition that justifies
its commit, so by `Protocol.reachable` every reachable database satisfies the
invariant, whoever ran, blocked, failed or died in between.
-/

namespace EventPipeline.Worker

open EventPipeline.Python EventPipeline.Portfolio EventPipeline.Postgres
open EventPipeline.Concurrency

/-! ### Tasks -/

/-- What a transaction of the worker is for. -/
inductive Task (rt : Runtime)
  | persist (job : ValidatedJob rt)
  | status (request_id : PyStr) (payload : Dict)
  | relay
  | notification (raw : KafkaValue)
  | notificationBatch (raws : List KafkaValue)

/-- What a task's transaction returns. -/
inductive Answer
  | response (response : Dict)
  | relayed (worked : Bool)
  | stored

/-- The transaction of a task. -/
def program (rt : Runtime) : Task rt → Transaction Answer
  | .persist v => do
      let response ← persistIngressJob v.job
      return .response response
  | .status request_id payload => do
      let _ ← storeRequestStatus request_id payload
      return .stored
  | .relay => do
      let worked ← relayOnce
      return .relayed worked
  | .notification raw => do
      handleNotificationJob rt raw
      return .stored
  | .notificationBatch raws => do
      processNotificationBatch rt raws
      return .stored

/-- The system of all tasks. -/
abbrev WorkerSystem (rt : Runtime) :=
  System Stmt Stmt.Res PyExc Answer (Task rt) Tables Ext Write Lock

/-- The steps of the system. -/
abbrev WorkerEvent (rt : Runtime) := Event Stmt Stmt.Res PyExc Answer (Task rt)

/-- A run of the system. -/
abbrev WorkerRun (rt : Runtime) (hash : PyStr → Int) (s₀ : WorkerSystem rt)
    (h : List (Transition Stmt Stmt.Res PyExc Answer (Task rt) Tables Ext Write Lock))
    (s : WorkerSystem rt) : Prop :=
  Run (engine hash) (program rt) s₀ h s

/-! ### What a persist commit does to the tables

Three of the four ends add no message, and change at most one counter and one status. The fourth
adds a message with everything that belongs to it. -/

section Effect

variable {rt : Runtime} {hash : PyStr → Int} {job : IngressJob}

/-- A commit that adds no message: at most the counter of one room and a status. -/
structure SameRows (t t' : Tables) : Prop where
  messages : t'.messages = t.messages
  outbox : t'.notification_outbox = t.notification_outbox
  attempts : t'.notification_attempts = t.notification_attempts
  idempotency : t'.idempotency_keys = t.idempotency_keys

theorem SameRows.inv {t t' : Tables} {x : Ext} (h : SameRows t t') (hinv : Inv t x) : Inv t' x :=
  hinv.of_tables h.messages h.outbox h.attempts h.idempotency

/-- A status write leaves every owned status to its owner. -/
theorem keepsOwners_putStatus {t t' : Tables} {request_id : PyStr} {owner : Nat} {status : Json}
    (hmay : MayOwn request_id owner t)
    (hstatuses : t'.request_statuses =
      Function.update t.request_statuses request_id (some ⟨some owner, status⟩)) :
    KeepsOwners t t' := by
  intro other another howned
  obtain ⟨row, hrow, huser⟩ := howned
  rw [OwnedBy, hstatuses]
  by_cases hsame : other = request_id
  · subst hsame
    -- the row that is overwritten was the new owner's already
    rcases hmay row hrow with hnone | hown
    · rw [hnone] at huser
      cases huser
    · exact ⟨_, Function.update_self .., hown.symm.trans huser⟩
  · exact ⟨row, by rwa [Function.update_of_ne hsame], huser⟩

theorem StatusWrite.keepsOwners {owner : Nat} {st : Write} {v : TxView} {t' : Tables}
    (h : StatusWrite job owner st v)
    (hstatuses : t'.request_statuses = (st.apply v.db).request_statuses) :
    KeepsOwners v.db t' := by
  obtain ⟨status, rfl, -⟩ := h.written
  exact keepsOwners_putStatus h.mayOwn hstatuses

/-- A commit of a status alone. -/
theorem grows_status (hash : PyStr → Int) {owner : Nat} {st : Write} {v : TxView}
    (h : StatusWrite job owner st v) (x : Ext) :
    Grows v.db x ((engine hash).applyAll [st] v.db) x := by
  have howners : KeepsOwners v.db ((engine hash).applyAll [st] v.db) := h.keepsOwners rfl
  have hregistry := sameRegistry_applyAll hash [st] v.db
  obtain ⟨status, rfl, -⟩ := h.written
  exact .of_sameMessages hregistry rfl (fun _ => Nat.le_refl _) rfl howners x

theorem lastSeq_putSequence {t t' : Tables} {room n : Nat}
    (h : t'.room_sequences = Function.update t.room_sequences room (some n))
    (hn : n = t.lastSeq room + 1) (other : Nat) : t.lastSeq other ≤ t'.lastSeq other := by
  rw [Tables.lastSeq, Tables.lastSeq, h, Function.update_apply]
  split_ifs with hsame
  · subst hsame
    rw [hn]
    exact Nat.le_succ _
  · exact Nat.le_refl _

/-- A commit of a counter and a status: no message is added, the counter of one room is higher by
one, and no status changes its owner. -/
theorem grows_sequence (hash : PyStr → Int) {owner : Nat} {st : Write} {v : TxView}
    (h : StatusWrite job owner st v) {room n : Nat} (hn : n = v.db.lastSeq room + 1) (x : Ext) :
    Grows v.db x ((engine hash).applyAll [.putSequence room n, st] v.db) x := by
  have howners : KeepsOwners v.db ((engine hash).applyAll [.putSequence room n, st] v.db) := by
    refine h.keepsOwners ?_
    obtain ⟨status, rfl, -⟩ := h.written
    rfl
  have hregistry := sameRegistry_applyAll hash [.putSequence room n, st] v.db
  obtain ⟨status, rfl, -⟩ := h.written
  exact .of_sameMessages hregistry rfl (lastSeq_putSequence rfl hn) rfl howners x

theorem sameRows_status (hash : PyStr → Int) {owner : Nat} {st : Write} {v : TxView}
    (h : StatusWrite job owner st v) (t : Tables) :
    SameRows t ((engine hash).applyAll [st] t) ∧
      ((engine hash).applyAll [st] t).room_sequences = t.room_sequences := by
  obtain ⟨status, rfl, -⟩ := h.written
  exact ⟨⟨rfl, rfl, rfl, rfl⟩, rfl⟩

theorem sameRows_sequence (hash : PyStr → Int) {owner : Nat} {st : Write} {v : TxView}
    (h : StatusWrite job owner st v) (room n : Nat) (t : Tables) :
    SameRows t ((engine hash).applyAll [.putSequence room n, st] t) := by
  obtain ⟨status, rfl, -⟩ := h.written
  exact ⟨rfl, rfl, rfl, rfl⟩

/-- The rows a fresh event adds. -/
structure AddsRow (job : IngressJob) (n : Nat) (row : MessageRow) (o : OutboxRow)
    (t t' : Tables) : Prop where
  messages : t'.messages = t.messages ++ [row]
  outbox : t'.notification_outbox = t.notification_outbox ++ [o]
  attempts : t'.notification_attempts = t.notification_attempts
  sequences : t'.room_sequences = Function.update t.room_sequences job.room_id (some n)
  idempotency : t'.idempotency_keys = match job.idempotencyKey with
    | some key => Function.update t.idempotency_keys (job.scopedKey key)
        (some (.obj (messageRowResponse row)))
    | none => t.idempotency_keys

theorem addsRow_fresh (hash : PyStr → Int) {owner : Nat} {st : Write} {v : TxView}
    (h : StatusWrite job owner st v) (n : Nat) (row : MessageRow) (o : OutboxRow) (t : Tables) :
    AddsRow job n row o t ((engine hash).applyAll
      ([.putSequence job.room_id n, .insertMessage row]
        ++ rememberWrites job (messageRowResponse row) ++ [st, .insertOutbox o]) t) := by
  obtain ⟨status, rfl, -⟩ := h.written
  unfold rememberWrites
  cases hkey : job.idempotencyKey with
  | none => exact ⟨rfl, rfl, rfl, rfl, by rw [hkey]; rfl⟩
  | some key => exact ⟨rfl, rfl, rfl, rfl, by rw [hkey]; rfl⟩

theorem statuses_fresh (hash : PyStr → Int) (job : IngressJob) (st : Write) (n : Nat) (row : MessageRow)
    (o : OutboxRow) (t : Tables) :
    ((engine hash).applyAll ([.putSequence job.room_id n, .insertMessage row]
        ++ rememberWrites job (messageRowResponse row) ++ [st, .insertOutbox o]) t).request_statuses
      = (st.apply t).request_statuses := by
  unfold rememberWrites
  cases job.idempotencyKey <;> cases st <;> rfl

variable {α L : Type} {ok : Event Stmt Stmt.Res PyExc α L → Prop} {l : L} {v : TxView}

theorem FreshRow.room_id {n : Nat} {row : MessageRow} (h : FreshRow job n row v) :
    row.room_id = job.room_id := by
  obtain ⟨id, created_at, -, rfl⟩ := h.row_eq
  rfl

theorem FreshRow.user_id {n : Nat} {row : MessageRow} (h : FreshRow job n row v) :
    row.user_id = job.user_id := by
  obtain ⟨id, created_at, -, rfl⟩ := h.row_eq
  rfl

theorem FreshRow.request_id {n : Nat} {row : MessageRow} (h : FreshRow job n row v) :
    row.request_id = job.request_id := by
  obtain ⟨id, created_at, -, rfl⟩ := h.row_eq
  rfl

theorem FreshRow.room_seq {n : Nat} {row : MessageRow} (h : FreshRow job n row v) :
    row.room_seq = n := by
  obtain ⟨id, created_at, -, rfl⟩ := h.row_eq
  rfl

/-- The job's scoped key is a key of the job's own messages. -/
theorem scopedTo_of_job (hjob : job.Valid rt) {row : MessageRow} (hroom : row.room_id = job.room_id)
    (huser : row.user_id = job.user_id) (key : PyStr) : ScopedTo (job.scopedKey key) row := by
  obtain ⟨r, hr, hstream, -⟩ := hjob.route
  exact ⟨job.route, r, key, hr, hstream.trans hroom.symm, by rw [huser]; rfl⟩

/-- A persist commit keeps the invariant, with one case for each of its ends. Only the last adds a
message, with its outbox row and, where there is a key, its response. -/
theorem PersistPost.justified {response : Dict} (h : PersistPost ok l hash job response v)
    (hjob : job.Valid rt) (hinv : Inv v.db v.ext) :
    Inv ((engine hash).applyAll v.writes v.db) v.ext ∧
      Grows v.db v.ext ((engine hash).applyAll v.writes v.db) v.ext := by
  cases h with
  | hit key m st hm hresponds hst hw =>
      have hsame := (sameRows_status hash hst v.db).1
      rw [hw]
      exact ⟨hsame.inv hinv, grows_status hash hst v.ext⟩
  | existing m st hnone hm hrid hroom huser hresponds hst hw =>
      have hsame := (sameRows_status hash hst v.db).1
      rw [hw]
      exact ⟨hsame.inv hinv, grows_status hash hst v.ext⟩
  | ownDuplicate n seq m st hnone hn hlock hseq hlt hm hrid hroom hmseq hok hresponds hst hw =>
      have hsame := sameRows_sequence hash hst job.room_id n v.db
      rw [hw]
      exact ⟨hsame.inv hinv, grows_sequence hash hst hn v.ext⟩
  | fresh n row st o hnone hrow hmok hresponds hst hfor hpub hw =>
      have hadds := addsRow_fresh hash hst n row o v.db
      have howners := hst.keepsOwners (statuses_fresh hash job st n row o v.db)
      have hregistry : SameRegistry v.db _ := sameRegistry_applyAll hash v.writes v.db
      rw [hw] at hregistry ⊢
      generalize (engine hash).applyAll _ v.db = t' at hadds howners hregistry ⊢
      -- the only new key is that of the job, and it holds the response of the row
      have hkeys : ∀ key value, t'.idempotency_keys key = some value →
          v.db.idempotency_keys key = some value ∨
            (ScopedTo key row ∧ value = .obj (messageRowResponse row)) := by
        intro key value hvalue
        cases hkey : job.idempotencyKey with
        | none =>
            rw [hadds.idempotency, hkey] at hvalue
            exact Or.inl hvalue
        | some key' =>
            rw [hadds.idempotency, hkey] at hvalue
            simp only [Function.update_apply] at hvalue
            split_ifs at hvalue with heq
            · obtain rfl := Option.some.inj hvalue
              exact Or.inr ⟨heq ▸ scopedTo_of_job hjob hrow.room_id hrow.user_id key', rfl⟩
            · exact Or.inl hvalue
      refine ⟨hinv.insert hadds.messages hadds.outbox hadds.attempts hkeys hmok hrow.id_fresh
        hrow.request_fresh hrow.id_lt hfor, hregistry, ?_, ?_, ?_, ?_, howners, Ext.Le.refl _⟩
      · exact hadds.messages ▸ List.prefix_append _ _
      · exact lastSeq_putSequence hadds.sequences hrow.counter
      · intro m hm
        rw [hadds.messages] at hm
        refine (List.mem_append.mp hm).imp_right fun hnew => ?_
        obtain rfl := List.mem_singleton.mp hnew
        have hnext := hrow.counter
        rw [hrow.room_id, hrow.room_seq]
        omega
      · intro key value hvalue
        cases hkey : job.idempotencyKey with
        | none => rw [hadds.idempotency, hkey]; exact hvalue
        | some key' =>
            -- the key of the job was free, so that no response is replaced
            have hne : key ≠ job.scopedKey key' := by
              rintro rfl
              rw [(hnone key' hkey).1] at hvalue
              exact absurd hvalue (by simp)
            rw [hadds.idempotency, hkey]
            simp only [Function.update_apply, hne, if_false]
            exact hvalue

end Effect

/-! ### A status of its own -/

section Status

variable {hash : PyStr → Int} {α L : Type} {ok : Event Stmt Stmt.Res PyExc α L → Prop} {l : L}
variable {v v' : TxView} {request_id : PyStr} {payload : Dict}

/-- A status transaction has written the row of its request, which its owner may
write. -/
structure StatusPost (request_id : PyStr) (payload : Dict) (owner : Nat) (v : TxView) :
    Prop where
  written : ∃ status, normalizedRequestStatus request_id payload = .ok (owner, status) ∧
    v.writes = [.putStatus request_id ⟨some owner, .obj status⟩]
  mayOwn : MayOwn request_id owner v.db
  lock : Lock.status request_id ∈ v.locks

theorem StatusPost.of_rely {owner : Nat} (h : StatusPost request_id payload owner v)
    (hr : (pipeline hash).Rely v v') : StatusPost request_id payload owner v' := by
  obtain ⟨status, hnormalised, hw⟩ := h.written
  exact ⟨⟨status, hnormalised, hr.writes.trans hw⟩, h.mayOwn.of_same (hr.same _ h.lock),
    hr.locks ▸ h.lock⟩

/-- **One status.** The transaction writes the normalised status if the owner of the request
allows it, and raises otherwise. -/
theorem ensures_storeRequestStatus (hready : (pipeline hash).Ready v) (hw : v.writes = []) :
    (pipeline hash).Ensures ok l (fun _ v' => ∃ owner, StatusPost request_id payload owner v')
      (storeRequestStatus request_id payload) v := by
  refine Protocol.ends_ofExcept _ fun normalised hnormalised => ?_
  obtain ⟨owner, status⟩ := normalised
  refine Protocol.ends_call _ hready ?_
  intro v₁ hr₁ hready₁ held now c written ws ls x hexec _ _
  have hw₁ := hr₁.writes.trans hw
  obtain ⟨rfl, hx, -, -, ⟨rfl, rfl, hown⟩ | ⟨rfl, rfl, -⟩⟩ := exec_upsertRequestStatus hexec
  · obtain rfl : x = v₁.ext := hx
    rw [visible_nil hw₁] at hown
    refine ⟨by simp [pipeline, discipline, Write.keys], fun _ =>
      Protocol.ends_ret _ fun v' hr => ⟨owner, StatusPost.of_rely ?_ hr⟩⟩
    exact ⟨⟨status, hnormalised, by simp [Engine.extend, hw₁]⟩, hown, by simp [Engine.extend]⟩
  · exact ⟨by simp, fun _ => Protocol.ends_throw _⟩

/-- A status commit keeps the invariant: it touches no message, and the status had no other owner.
-/
theorem StatusPost.justified {owner : Nat} (h : StatusPost request_id payload owner v)
    (hinv : Inv v.db v.ext) :
    Inv ((engine hash).applyAll v.writes v.db) v.ext ∧
      Grows v.db v.ext ((engine hash).applyAll v.writes v.db) v.ext := by
  obtain ⟨status, -, hw⟩ := h.written
  have hregistry := sameRegistry_applyAll hash v.writes v.db
  rw [hw] at hregistry ⊢
  exact ⟨hinv.of_tables rfl rfl rfl rfl, .of_sameMessages hregistry rfl (fun _ => Nat.le_refl _) rfl
    (keepsOwners_putStatus h.mayOwn rfl) v.ext⟩

end Status

/-! ### The relay -/

section Relay

variable {hash : PyStr → Int} {α L : Type} {ok : Event Stmt Stmt.Res PyExc α L → Prop} {l : L}
variable {v v' : TxView}

/-- A relay transaction has changed at most one outbox row, which is still the row of
its message. -/
def RelayPost (v : TxView) : Prop :=
  v.writes = [] ∨ ∃ m ∈ v.db.messages, ∃ row, OutboxFor v.ext m row ∧ v.writes = [.putOutbox row]

theorem RelayPost.of_rely (h : RelayPost v) (hr : (pipeline hash).Rely v v') : RelayPost v' := by
  rcases h with hw | ⟨m, hm, row, hfor, hw⟩
  · exact Or.inl (hr.writes.trans hw)
  · exact Or.inr ⟨m, hr.grows.messages hm, row, hfor.of_le hr.grows.ext, hr.writes.trans hw⟩

theorem outboxRow_eq_some {t : Tables} {id : Nat} {o : OutboxRow} (h : t.outboxRow id = some o) :
    o ∈ t.notification_outbox ∧ o.message_id = id := by
  have hp := List.find?_some h
  simp only [decide_eq_true_eq] at hp
  exact ⟨List.mem_of_find?_eq_some h, hp⟩

/-- An update of the locked row of message `m` that keeps it the row of `m`. -/
theorem ensures_updateOutbox {s : Stmt} {f : s.Res → Transaction Bool} {m : MessageRow}
    (change : Nat → OutboxRow → OutboxRow) (hready : (pipeline hash).Ready v)
    (hm : m ∈ v.db.messages) (hw : v.writes = [])
    (hexec : ∀ env u ws ls x, (engine hash).exec s env = .done u ws ls x →
      ∃ u', execUpdateOutbox m.id (change env.now) env = .done u' ws ls x)
    (hchange : ∀ now x o, v.ext.Le x → OutboxFor x m o → OutboxFor x m (change now o))
    (hret : ∀ r, ∃ b, f r = .ret b) (hasks : ∀ t, Asks s t) :
    (pipeline hash).Ensures ok l (fun _ => RelayPost) (execute s >>= f) v := by
  refine Protocol.ends_call _ hready ?_ (fun _ _ _ _ _ => trivial) fun v' _ _ => hasks v'.db
  intro v₁ hr₁ hready₁ held now c u ws ls x hdone _ _
  obtain ⟨u', hupdate⟩ := hexec _ _ _ _ _ hdone
  have hw₁ := hr₁.writes.trans hw
  obtain ⟨b, hb⟩ := hret u
  rw [hb]
  obtain ⟨hx, ⟨-, rfl, rfl⟩ | ⟨o, ho, rfl, rfl, -⟩⟩ := execUpdateOutbox_done hupdate
  · refine ⟨by simp, fun _ => Protocol.ends_ret _ fun v' hr => RelayPost.of_rely ?_ hr⟩
    exact Or.inl (by simp [Engine.extend, hw₁])
  · obtain rfl : x = v₁.ext := hx
    obtain ⟨homem, hoid⟩ := outboxRow_eq_some ho
    rw [visible_nil hw₁] at homem
    obtain ⟨m', hm', hfor⟩ := hready₁.inv.exists_message homem
    obtain rfl : m = m' := hready₁.inv.eq_of_id (hr₁.grows.messages hm) hm'
      (hoid.symm.trans hfor.message_id)
    have hfor' := hchange now v₁.ext o hr₁.grows.ext hfor
    refine ⟨?_, fun _ => Protocol.ends_ret _ fun v' hr => RelayPost.of_rely ?_ hr⟩
    · simp only [List.mem_singleton, forall_eq, pipeline, discipline, Write.keys,
        hfor'.message_id]
      simp
    · exact Or.inr ⟨m, hr₁.grows.messages hm, _, hfor', by simp [Engine.extend, hw₁]⟩

/-- **One relay.** The row that is taken belongs to a message, is published with the payload of
that message, and is then marked with what Kafka answered. -/
theorem ensures_relayOnce (hready : (pipeline hash).Ready v) (hw : v.writes = []) :
    (pipeline hash).Ensures ok l (fun _ => RelayPost) relayOnce v := by
  refine Protocol.ends_call _ hready ?_
  intro v₁ hr₁ hready₁ held now c row ws ls x hexec _ _
  have hw₁ := hr₁.writes.trans hw
  -- nothing is pending, or the row is locked and its message is there
  obtain ⟨rfl, hx, ⟨rfl, rfl, -⟩ | ⟨o, rfl, rfl, ho, -⟩⟩ := exec_selectPendingOutbox hexec
  · obtain rfl : x = v₁.ext := hx
    refine ⟨by simp, fun _ => Protocol.ends_ret _ fun v' hr => RelayPost.of_rely ?_ hr⟩
    exact Or.inl (by simp [Engine.extend, hw₁])
  · obtain rfl : x = v₁.ext := hx
    refine ⟨by simp, fun hready₂ => ?_⟩
    obtain ⟨m, hm, hfor⟩ := hready₁.inv.exists_message (by rwa [visible_nil hw₁] at ho)
    have hw₂ : (Engine.extend v₁ [] [.outbox o.message_id] v₁.ext).writes = [] := by
      simp [Engine.extend, hw₁]
    have hm₂ : m ∈ (Engine.extend v₁ [] [.outbox o.message_id] v₁.ext).db.messages := hm
    generalize Engine.extend v₁ [] [.outbox o.message_id] v₁.ext = v₂ at hready₂ hw₂ hm₂ ⊢
    refine Protocol.ends_call _ hready₂ ?_ (fun _ _ _ _ _ => trivial) fun v' hr' _ =>
      ⟨m, hr'.grows.messages hm₂, hfor.room_id, hfor.payload⟩
    intro v₃ hr₃ hready₃ held now c sent ws ls x hexec _ _
    obtain ⟨rfl, rfl, hsent⟩ := exec_publishNotification hexec
    have hm₃ : m ∈ v₃.db.messages := hr₃.grows.messages hm₂
    have hw₃ : (Engine.extend v₃ [] [] x).writes = [] := by
      simp [Engine.extend, hr₃.writes.trans hw₂]
    refine ⟨by simp, fun hready₄ => ?_⟩
    have hid := hfor.message_id
    -- the row is updated to what Kafka answered
    cases sent with
    | error exc =>
        refine ensures_updateOutbox (.failed exc.name (retryDelaySeconds o.attempts)) hready₄ hm₃
          hw₃ (fun env u ws ls x h => ?_) ?_ (fun r => ⟨true, rfl⟩) fun _ => trivial
        · rw [exec_updateOutboxFailed, hid] at h
          exact ⟨u, h⟩
        · exact fun now x o _ hfor =>
            ⟨hfor.message_id, hfor.room_id, hfor.payload, hfor.published⟩
    | ok u =>
        obtain ⟨-, hne⟩ | ⟨rfl, -⟩ := hsent
        · exact absurd rfl hne
        refine ensures_updateOutbox .published hready₄ hm₃ hw₃ (fun env u ws ls x h => ?_) ?_
          (fun r => ⟨true, rfl⟩) fun _ => trivial
        · rw [exec_updateOutboxPublished, hid] at h
          exact ⟨u, h⟩
        · intro now x o' hle hfor'
          refine ⟨hfor'.message_id, hfor'.room_id, hfor'.payload, fun _ => ?_⟩
          -- the acknowledged publication was that of this row
          show (o'.room_id, o'.payload) ∈ x.acknowledged
          rw [hfor'.room_id, hfor'.payload, ← hfor.room_id, ← hfor.payload]
          exact hle.acknowledged (List.mem_append_right _ (List.mem_singleton_self _))

/-- A relay commit keeps the invariant: it changes how an outbox row was published, and the row is
still that of its message. -/
theorem RelayPost.justified (h : RelayPost v) (hinv : Inv v.db v.ext) :
    Inv ((engine hash).applyAll v.writes v.db) v.ext ∧
      Grows v.db v.ext ((engine hash).applyAll v.writes v.db) v.ext := by
  rcases h with hw | ⟨m, hm, row, hfor, hw⟩
  · rw [hw]
    exact ⟨hinv, Grows.of_le (Ext.Le.refl _)⟩
  · rw [hw]
    refine ⟨hinv.putOutbox rfl rfl rfl rfl fun m' hm' hid => ?_, .of_sameMessages
      (sameRegistry_applyAll hash _ _) rfl (fun _ => Nat.le_refl _) rfl (fun _ _ h => h) _⟩
    rw [hinv.eq_of_id hm' hm (hid.trans hfor.message_id)]
    exact hfor

end Relay

/-! ### Notification attempts -/

section Attempts

variable {rt : Runtime} {hash : PyStr → Int} {α L : Type}
variable {ok : Event Stmt Stmt.Res PyExc α L → Prop} {l : L} {v v' : TxView}

/-- A notification transaction has added attempts for different messages that had
none. -/
structure AddsAttempts (rows : List AttemptRow) (v : TxView) : Prop where
  writes : v.writes = rows.map .insertAttempt
  nodup : (rows.map (·.message_id)).Nodup
  fresh : ∀ a ∈ rows, ∀ b ∈ v.db.notification_attempts, b.message_id ≠ a.message_id
  target : ∀ a ∈ rows, ∃ m ∈ v.db.messages, m.id = a.message_id ∧ m.room_id = a.room_id
  locks : ∀ a ∈ rows, Lock.attempt a.message_id ∈ v.locks

theorem AddsAttempts.of_rely {rows : List AttemptRow} (h : AddsAttempts rows v)
    (hr : (pipeline hash).Rely v v') : AddsAttempts rows v' where
  writes := hr.writes.trans h.writes
  nodup := h.nodup
  fresh a ha := by
    have hsame : (v.db.notification_attempts.filter fun b => b.message_id = a.message_id)
        = v'.db.notification_attempts.filter fun b => b.message_id = a.message_id :=
      hr.same (.attempt a.message_id) (h.locks a ha)
    have hnil : (v.db.notification_attempts.filter fun b => b.message_id = a.message_id) = [] := by
      simpa [List.filter_eq_nil_iff] using h.fresh a ha
    rw [hsame] at hnil
    simpa [List.filter_eq_nil_iff] using hnil
  target a ha := by
    obtain ⟨m, hm, hrest⟩ := h.target a ha
    exact ⟨m, hr.grows.messages hm, hrest⟩
  locks a ha := hr.locks ▸ h.locks a ha

theorem distinctTargets_subset (rows : List AttemptRow) : distinctTargets rows ⊆ rows := by
  induction rows with
  | nil => exact fun _ h => h
  | cons a rest ih =>
      rw [distinctTargets]
      exact List.cons_subset_cons a fun b hb => ih (List.mem_of_mem_filter hb)

theorem distinctTargets_pairwise (rows : List AttemptRow) :
    (distinctTargets rows).Pairwise fun a b =>
      ¬(b.message_id = a.message_id ∧ b.room_id = a.room_id) := by
  induction rows with
  | nil => exact .nil
  | cons a rest ih =>
      rw [distinctTargets]
      refine .cons (fun b hb => ?_) (ih.filter _)
      exact of_decide_eq_true (List.mem_filter.mp hb).2

/-- The targets of a batch are messages. -/
theorem target_of_mem_batch {rows : List AttemptRow} {t : Tables} {a : AttemptRow}
    (h : a ∈ batchTargets rows t) :
    ∃ m ∈ t.messages, m.id = a.message_id ∧ m.room_id = a.room_id := by
  have htarget := (List.mem_filter.mp (distinctTargets_subset _ h)).2
  simpa [hasTarget] using htarget

/-- Two targets of a batch are different messages: targets are distinct pairs of a message and a
room, and a message has one room. -/
theorem batchTargets_nodup {rows : List AttemptRow} {t : Tables} {x : Ext} (hinv : Inv t x) :
    ((batchTargets rows t).map (·.message_id)).Nodup := by
  refine List.pairwise_map.mpr ((distinctTargets_pairwise _).imp_of_mem ?_)
  intro a b ha hb hdistinct hid
  obtain ⟨m, hm, hma, hra⟩ := target_of_mem_batch ha
  obtain ⟨m', hm', hmb, hrb⟩ := target_of_mem_batch hb
  obtain rfl := hinv.eq_of_id hm hm' (hma.trans (hid.trans hmb.symm))
  exact hdistinct ⟨hid.symm, hrb.symm.trans hra⟩

/-- One insert of attempts: rows for messages that exist and had no attempt, each written under
the lock of its message. -/
theorem ensures_insertAttempts {s : Stmt} {β : Type} {f : s.Res → Transaction β}
    (rows : List AttemptRow) (hready : (pipeline hash).Ready v) (hw : v.writes = [])
    (hexec : ∀ env u ws ls x, (engine hash).exec s env = .done u ws ls x →
      ∃ targets, execInsertAttempts rows env = .done targets ws ls x)
    (hret : ∀ r, (∃ b, f r = .ret b) ∨ ∃ e, f r = .throw e) (hasks : ∀ t, Asks s t) :
    (pipeline hash).Ensures ok l (fun _ v => ∃ rows, AddsAttempts rows v) (execute s >>= f) v := by
  refine Protocol.ends_call _ hready ?_ (fun _ _ _ _ _ => trivial) fun v' _ _ => hasks v'.db
  intro v₁ hr₁ hready₁ held now c u ws ls x hdone _ _
  have hw₁ := hr₁.writes.trans hw
  obtain ⟨targets, hinsert⟩ := hexec _ _ _ _ _ hdone
  obtain ⟨hx, -, rfl, rfl, -⟩ := execInsertAttempts_done hinsert
  obtain rfl : x = v₁.ext := hx
  have hview : (engine hash).visible v₁ = v₁.db := visible_nil hw₁
  refine ⟨?_, fun _ => ?_⟩
  · -- a row is written under the lock of its message
    intro w hw k hk
    obtain ⟨a, ha, rfl⟩ := List.mem_map.mp hw
    obtain rfl : k = .attempt a.message_id := by
      simpa [pipeline, discipline, Write.keys] using hk
    exact List.mem_append_right _ (List.mem_map_of_mem ha)
  · -- the program after the statement only returns or raises
    rcases hret u with ⟨b, hb⟩ | ⟨e, he⟩
    · rw [hb]
      refine Protocol.ends_ret _ fun v' hr =>
        ⟨freshAttempts rows v₁.db, AddsAttempts.of_rely ?_ hr⟩
      rw [hview]
      refine ⟨by simp [Engine.extend, hw₁], ?_, ?_, ?_, ?_⟩
      · exact (batchTargets_nodup hready₁.inv).sublist (List.filter_sublist.map _)
      · intro a ha b hb
        have hnone := (List.mem_filter.mp ha).2
        simp only [hasAttempt, Bool.not_eq_true', List.any_eq_false, decide_eq_true_eq] at hnone
        exact hnone b hb
      · exact fun a ha => target_of_mem_batch (List.mem_filter.mp ha).1
      · exact fun a ha => List.mem_append_right _ (List.mem_map_of_mem ha)
    · rw [he]
      exact Protocol.ends_throw _

/-- What a notification transaction has done. -/
def AttemptPost (v : TxView) : Prop := ∃ rows, AddsAttempts rows v

theorem attemptPost_nil (hw : v.writes = []) : AttemptPost v :=
  ⟨[], hw, .nil, by simp, by simp, by simp⟩

theorem AttemptPost.of_rely (h : AttemptPost v) (hr : (pipeline hash).Rely v v') :
    AttemptPost v' := by
  obtain ⟨rows, hrows⟩ := h
  exact ⟨rows, hrows.of_rely hr⟩

/-- **One notification record.** -/
theorem ensures_handleNotificationJob (raw : KafkaValue) (hready : (pipeline hash).Ready v)
    (hw : v.writes = []) :
    (pipeline hash).Ensures ok l (fun _ => AttemptPost) (handleNotificationJob rt raw) v := by
  unfold handleNotificationJob
  split
  · rename_i payload _
    refine ensures_insertAttempts [⟨payload.event_id, payload.stream_id, payload.toDict⟩] hready hw
      (fun env u ws ls x h => ?_) (fun r => ?_) fun _ => trivial
    · obtain ⟨targets, h, -⟩ := mapReply_eq_done.mp h
      exact ⟨targets, h⟩
    · cases r with
      | true => exact Or.inl ⟨(), rfl⟩
      | false => exact Or.inr ⟨_, rfl⟩
  · exact Protocol.ends_ret _ fun v' hr => (attemptPost_nil hw).of_rely hr

/-- **One batch of notification records.** -/
theorem ensures_processNotificationBatch (raws : List KafkaValue)
    (hready : (pipeline hash).Ready v) (hw : v.writes = []) :
    (pipeline hash).Ensures ok l (fun _ => AttemptPost) (processNotificationBatch rt raws) v := by
  unfold processNotificationBatch insertNotificationAttemptBatch
  split_ifs
  · exact Protocol.ends_ret _ fun v' hr => (attemptPost_nil hw).of_rely hr
  · refine ensures_insertAttempts ((raws.filterMap (notificationRecord rt)).map (·.row)) hready hw
      (fun env u ws ls x h => ?_) (fun r => Or.inl ⟨(), rfl⟩) fun _ => trivial
    obtain ⟨targets, h, -⟩ := mapReply_eq_done.mp h
    exact ⟨targets, h⟩

theorem applyAll_insertAttempts (rows : List AttemptRow) (t : Tables) :
    (engine hash).applyAll (rows.map .insertAttempt) t =
      { t with notification_attempts := t.notification_attempts ++ rows } := by
  induction rows generalizing t with
  | nil => simp
  | cons a rows ih =>
      rw [List.map_cons, Engine.applyAll_cons, ih]
      simp [engine, Write.apply]

/-- A notification commit keeps the invariant. -/
theorem AttemptPost.justified (h : AttemptPost v) (hinv : Inv v.db v.ext) :
    Inv ((engine hash).applyAll v.writes v.db) v.ext ∧
      Grows v.db v.ext ((engine hash).applyAll v.writes v.db) v.ext := by
  obtain ⟨rows, hrows⟩ := h
  rw [hrows.writes, applyAll_insertAttempts]
  refine ⟨hinv.insertAttempts rfl rfl rfl rfl hrows.nodup hrows.fresh hrows.target, ?_⟩
  apply Grows.of_sameMessages
  · exact ⟨rfl, rfl, rfl⟩
  · rfl
  · exact fun room => Nat.le_refl (v.db.lastSeq room)
  · rfl
  · exact fun _ _ howned => howned

end Attempts

/-! ### Every interleaving

Each program was verified by itself. `reachable` puts them together, and what a step does to the
tables is read off the postcondition of the program that commits. -/

section Runs

variable {rt : Runtime} {hash : PyStr → Int} {ok : WorkerEvent rt → Prop}

/-- What a task has done when it commits. -/
def TaskPost (ok : WorkerEvent rt → Prop) (hash : PyStr → Int) :
    Task rt → Answer → TxView → Prop
  | .persist job, .response response, v =>
      PersistPost ok (.persist job) hash job.job response v
  | .status request_id payload, .stored, v => ∃ owner, StatusPost request_id payload owner v
  | .relay, .relayed _, v => RelayPost v
  | .notification _, .stored, v | .notificationBatch _, .stored, v => AttemptPost v
  | _, _, _ => False

/-- Why a task rolls back with an exception, where that is known. -/
def TaskRefused : Task rt → PyExc → TxView → Prop
  | .persist job => Refused job.job
  | _ => fun _ _ => True

theorem taskPost_justifies : (pipeline hash).Justifies (TaskPost ok hash) := by
  intro task a v hinv hpost
  cases task with
  | persist job =>
      cases a with
      | response response => exact PersistPost.justified hpost job.normalised.toValid hinv
      | _ => exact hpost.elim
  | status request_id payload =>
      cases a with
      | stored =>
          obtain ⟨owner, hpost⟩ := hpost
          exact hpost.justified hinv
      | _ => exact hpost.elim
  | relay =>
      cases a with
      | relayed worked => exact RelayPost.justified hpost hinv
      | _ => exact hpost.elim
  | notification raw =>
      cases a with
      | stored => exact AttemptPost.justified hpost hinv
      | _ => exact hpost.elim
  | notificationBatch raws =>
      cases a with
      | stored => exact AttemptPost.justified hpost hinv
      | _ => exact hpost.elim

theorem ensures_program (task : Task rt) (t : Tables) (x : Ext) (now : Nat) (hinv : Inv t x) :
    (pipeline hash).Ends ok task (TaskPost ok hash task) (TaskRefused task) (program rt task)
      (Engine.begin t x now) := by
  have hready : (pipeline hash).Ready (Engine.begin t x now) :=
    ⟨hinv, (pipeline hash).covered_begin t x now⟩
  cases task with
  | persist job =>
      exact Protocol.Ends.bind _
        (ensures_persistIngressJob job.normalised.toValid job.unique hready rfl)
        fun response v h => Protocol.ends_ret _ fun v' hr => PersistPost.of_rely h hr
  | status request_id payload =>
      refine Protocol.Ends.bind _ (ensures_storeRequestStatus hready rfl) ?_
      rintro - v ⟨owner, h⟩
      exact Protocol.ends_ret _ fun v' hr => ⟨owner, h.of_rely hr⟩
  | relay =>
      exact Protocol.Ends.bind _ (ensures_relayOnce hready rfl)
        fun worked v h => Protocol.ends_ret _ fun v' hr => RelayPost.of_rely h hr
  | notification raw =>
      exact Protocol.Ends.bind _ (ensures_handleNotificationJob raw hready rfl)
        fun _ v h => Protocol.ends_ret _ fun v' hr => AttemptPost.of_rely h hr
  | notificationBatch raws =>
      exact Protocol.Ends.bind _ (ensures_processNotificationBatch raws hready rfl)
        fun _ v h => Protocol.ends_ret _ fun v' hr => AttemptPost.of_rely h hr

/-- The messages, the counters and the stored responses have not changed. -/
structure SameEvents (t t' : Tables) : Prop where
  messages : t'.messages = t.messages
  sequences : t'.room_sequences = t.room_sequences
  idempotency : t'.idempotency_keys = t.idempotency_keys

/-- The three kinds of step: a persist commit, a status commit, and one that leaves
events and statuses alone. -/
inductive StepEffect (ok : WorkerEvent rt → Prop) (hash : PyStr → Int) (t : Tables)
    (e : WorkerEvent rt) (t' : Tables) : Prop
  | persisted (v response view) : e = .committed (.persist v) (.response response) →
      view.db = t → PersistPost ok (.persist v) hash v.job response view →
      t' = (engine hash).applyAll view.writes view.db → StepEffect ok hash t e t'
  | stored (request_id payload owner view) : e = .committed (.status request_id payload) .stored →
      view.db = t → StatusPost request_id payload owner view →
      t' = (engine hash).applyAll view.writes view.db → StepEffect ok hash t e t'
  | other : (∀ v a, e ≠ .committed (.persist v) a) →
      (∀ request_id payload a, e ≠ .committed (.status request_id payload) a) →
      SameEvents t t' → t'.request_statuses = t.request_statuses → StepEffect ok hash t e t'

/-- Every step has one of the effects. -/
theorem step_effect {s s' : WorkerSystem rt} {e : WorkerEvent rt}
    (hgood : (pipeline hash).Good ok (TaskPost ok hash) TaskRefused s)
    (hstep : Step (engine hash) (program rt) s e s') : StepEffect ok hash s.db e s'.db := by
  -- only a commit changes the tables
  by_cases he : ∃ l a, e = .committed l a
  · obtain ⟨l, a, rfl⟩ := he
    obtain ⟨view, hdb, -, hpost, hafter, -⟩ := hgood.commit_post hstep
    cases l with
    | persist v =>
        cases a with
        | response response => exact .persisted v response view rfl hdb hpost hafter
        | _ => exact hpost.elim
    | status request_id payload =>
        cases a with
        | stored =>
            obtain ⟨owner, hpost⟩ := hpost
            exact .stored request_id payload owner view rfl hdb hpost hafter
        | _ => exact hpost.elim
    | relay =>
        cases a with
        | relayed worked =>
            rw [hafter, ← hdb]
            rcases hpost with hw | ⟨m, hm, row, hfor, hw⟩ <;> rw [hw] <;>
              exact .other (by simp) (by simp) ⟨rfl, rfl, rfl⟩ rfl
        | _ => exact hpost.elim
    | notification | notificationBatch =>
        cases a with
        | stored =>
            obtain ⟨rows, hrows⟩ := hpost
            rw [hafter, ← hdb, hrows.writes, applyAll_insertAttempts]
            exact .other (by simp) (by simp) ⟨rfl, rfl, rfl⟩ rfl
        | _ => exact hpost.elim
  · rw [Protocol.step_db hstep fun l a heq => he ⟨l, a, heq⟩]
    exact .other (fun v a heq => he ⟨_, a, heq⟩) (fun _ _ a heq => he ⟨_, a, heq⟩) ⟨rfl, rfl, rfl⟩
      rfl

/-- A step is a persist commit, or it leaves the events alone. -/
theorem step_tables {s s' : WorkerSystem rt} {e : WorkerEvent rt}
    (hgood : (pipeline hash).Good ok (TaskPost ok hash) TaskRefused s)
    (hstep : Step (engine hash) (program rt) s e s') :
    (∃ v response view, e = .committed (.persist v) (.response response) ∧ view.db = s.db ∧
      PersistPost ok (.persist v) hash v.job response view ∧
      s'.db = (engine hash).applyAll view.writes view.db) ∨ SameEvents s.db s'.db := by
  cases step_effect hgood hstep with
  | persisted v response view he hdb hpost hafter =>
      exact Or.inl ⟨v, response, view, he, hdb, hpost, hafter⟩
  | stored request_id payload owner view he hdb hpost hafter =>
      obtain ⟨status, -, hw⟩ := hpost.written
      rw [hafter, ← hdb, hw]
      exact Or.inr ⟨rfl, rfl, rfl⟩
  | other hpersist hstatus hsame hstatuses => exact Or.inr hsame

/-- The system with rooms, users and memberships and nothing else. -/
def emptySystem (rt : Runtime) (rooms users : Nat → Bool) (members : Nat → Nat → Bool) :
    WorkerSystem rt :=
  System.start (Tables.empty rooms users members) Ext.initial

/-- **Every reachable system is good.** -/
theorem workerRun_good {rooms users : Nat → Bool} {members : Nat → Nat → Bool}
    {h : List (Transition Stmt Stmt.Res PyExc Answer (Task rt) Tables Ext Write Lock)}
    {s : WorkerSystem rt} (hrun : WorkerRun rt hash (emptySystem rt rooms users members) h s)
    (hok : ∀ t ∈ h, ok t.event) : (pipeline hash).Good ok (TaskPost ok hash) TaskRefused s :=
  Protocol.reachable taskPost_justifies ensures_program
    (inv_empty rooms users members) hrun hok

/-- **The invariant holds of every reachable database.** -/
theorem workerRun_inv {rooms users : Nat → Bool} {members : Nat → Nat → Bool}
    {h : List (Transition Stmt Stmt.Res PyExc Answer (Task rt) Tables Ext Write Lock)}
    {s : WorkerSystem rt} (hrun : WorkerRun rt hash (emptySystem rt rooms users members) h s) :
    Inv s.db s.ext :=
  have hgood : (pipeline hash).Good (fun _ => True) (TaskPost (fun _ => True) hash) TaskRefused s :=
    workerRun_good hrun fun _ _ => trivial
  hgood.inv

end Runs

/-! ### A small system -/

section Sample

/-- One room, one user, one membership. -/
def sampleSim : Sim Stmt Stmt.Res PyExc Answer (Task .sample) Tables Ext Write Lock :=
  .start (.empty (· == 7) (· == 3) fun room user => room == 7 && user == 3) Ext.initial

/-- An event of the user for the room. -/
def sampleObject (request_id : PyStr) (room_seq key : Json) : Dict :=
  [("request_id", .str request_id), ("route", .str "POST:/v1/streams/7/events"),
    ("room_id", .int 7), ("user_id", .int 3), ("body", .str "hi"), ("room_seq", room_seq),
    ("x_idempotency_key", key)]

theorem sampleObject_unique (request_id : PyStr) (room_seq key : Json) (hseq : room_seq.Unique)
    (hkey : key.Unique) : (Json.obj (sampleObject request_id room_seq key)).Unique := by
  have hkeys : (sampleObject request_id room_seq key).keys.Nodup := by
    simp only [Dict.keys, sampleObject, List.map_cons, List.map_nil]
    decide
  exact ⟨hkeys, by simp [sampleObject, Json.UniquePairs, Json.Unique, hseq, hkey]⟩

/-- A transaction from its first statement to its commit. -/
def wholeTransaction (i : Nat) (task : Task .sample) (statements : Nat) :
    List (Action (Task .sample) Choice) :=
  .begin i task :: List.replicate statements (.stmt i ⟨true, none⟩) ++ [.commit i]

/-- A new event without an idempotency key. -/
def plainJob (request_id : PyStr) (haccepted : (validateIngressObject .sample
    (sampleObject request_id .null .null)).2.isOk = true) : ValidatedJob .sample :=
  .ofObject _ (sampleObject_unique request_id .null .null (by simp [Json.Unique])
    (by simp [Json.Unique])) haccepted

def sampleJob : ValidatedJob .sample := plainJob "r1" (by decide +kernel)

/-- A script that plays from the small system is a run of the worker. -/
theorem sampleRun {hash : PyStr → Int} {script : List (Action (Task .sample) Choice)}
    {p : List (WorkerEvent .sample) ×
      Sim Stmt Stmt.Res PyExc Answer (Task .sample) Tables Ext Write Lock}
    (hplay : play (engine hash) (program .sample) script sampleSim = some p) :
    ∃ h, WorkerRun .sample hash
      (emptySystem .sample (· == 7) (· == 3) fun room user => room == 7 && user == 3) h
      p.2.toSystem ∧ h.map (·.event) = p.1 :=
  play_run hplay

end Sample

end EventPipeline.Worker
