import EventPipeline.Guarantees.IngressSafety

/-!
# EventPipeline.Guarantees.StatusRegression

Whether the status of a stored event stays `persisted`.

One worker handles one record again and again. A transaction of it may commit and still raise, or
lose its connection at any statement, and the worker may die between any two operations. The
statuses that are no part of the persist transaction follow an attempt that has raised, and
nothing in them asks whether the event is stored: `requestStatus_overwritten` is the run where it
is. `requestStatus_staysPersisted` is about all runs where an attempt that raises has left no row
of its request.
-/

namespace EventPipeline.Guarantees

open EventPipeline.Python EventPipeline.Portfolio EventPipeline.Postgres EventPipeline.Worker
open EventPipeline.Concurrency EventPipeline.Concurrency.Prog

namespace StatusRegression

open IngressProcess

/-! ### The worker

The database is what has been committed. No other transaction is open, so that a transaction is
one step of it. -/

/-- The committed rows, and what is kept outside of transactions. -/
structure Store where
  db : Tables
  ext : Ext

/-- Rooms, users and memberships, and nothing else. -/
def Store.empty (rooms users : Nat → Bool) (members : Nat → Nat → Bool) : Store :=
  ⟨.empty rooms users members, Ext.initial⟩

/-- How a transaction ends for the worker. A commit that took effect may still raise, and a
connection that is lost before it leaves the rows as they were. -/
inductive Serves (hash : PyStr → Int) {α : Type} (p : Transaction α) (s : Store) :
    Except PyExc α → Store → Prop
  | committed {startedAt : Nat} {a : α} {v : TxView}
      (run : (engine hash).Alone p (Engine.begin s.db s.ext startedAt) (some (.ok a)) v) :
      Serves hash p s (.ok a) ⟨(engine hash).applyAll v.writes s.db, v.ext⟩
  | unacknowledged {startedAt : Nat} {a : α} {v : TxView}
      (run : (engine hash).Alone p (Engine.begin s.db s.ext startedAt) (some (.ok a)) v)
      (name : String) :
      Serves hash p s (.error (.transient name)) ⟨(engine hash).applyAll v.writes s.db, v.ext⟩
  | raised {startedAt : Nat} {e : PyExc} {v : TxView}
      (run : (engine hash).Alone p (Engine.begin s.db s.ext startedAt) (some (.error e)) v) :
      Serves hash p s (.error e) ⟨s.db, v.ext⟩
  | lost {startedAt : Nat} {v : TxView}
      (run : (engine hash).Alone p (Engine.begin s.db s.ext startedAt) none v) (name : String) :
      Serves hash p s (.error (.transient name)) ⟨s.db, v.ext⟩

/-- One operation of the handler. The clock and the brokers may answer anything. -/
def step (hash : PyStr → Int) : (op : IngressOp) → Store → op.Res → Store → Prop
  | .persistIngressJob job, s, reply, s' => ∃ outcome persisted_at,
      Serves hash (persistIngressJob job) s outcome s' ∧
        reply = outcome.map (committedResponse persisted_at)
  | .storeRequestStatus request_id payload, s, reply, s' =>
      Serves hash (storeRequestStatus request_id payload) s reply s'
  | _, s, _, s' => s' = s

/-- The deliveries of one record, one after the other, each of which may be cut off at any
point. -/
def deliveries (rt : Runtime) (settings : IngressSettings) (hash : PyStr → Int)
    (message : ConsumerRecord KafkaValue) :
    Driver IngressOp IngressOp.Res PyExc IngressOutcome Store where
  step := step hash
  starts s p s' := p = handleIngressRecord rt settings message ∧ s' = s
  ends _ s s' := s' = s
  throws _ s s' := s' = s
  crashes s s' := s' = s

/-- An attempt to persist that raises leaves no row of its request, neither one that it has
committed itself nor one from before. -/
def LeavesUnstored : (op : IngressOp) → op.Res → Store → Prop
  | .persistIngressJob job, .error _, s' => ∀ m ∈ s'.db.messages, m.request_id ≠ job.request_id
  | _, _, _ => True

/-- The deliveries whose attempts do. -/
def clearDeliveries (rt : Runtime) (settings : IngressSettings) (hash : PyStr → Int)
    (message : ConsumerRecord KafkaValue) :
    Driver IngressOp IngressOp.Res PyExc IngressOutcome Store :=
  { deliveries rt settings hash message with
    step := fun op s r s' => step hash op s r s' ∧ LeavesUnstored op r s' }

/-- The statuses of the requests that have a row say `persisted`. -/
def StatusesPersisted (t : Tables) : Prop :=
  ∀ row ∈ t.messages, ∀ status, t.request_statuses row.request_id = some status →
    isPersistedStatus status.status_json = true

/-! ### One transaction -/

variable {rt : Runtime} {hash : PyStr → Int} {s s' : Store}

/-- A transaction has no effect, or that of its commit. -/
theorem Serves.effect {α : Type} {p : Transaction α} {outcome : Except PyExc α}
    {Q : α → TxView → Prop} {F : PyExc → TxView → Prop}
    (hends : ∀ startedAt, (pipeline hash).Ends (fun _ : Event Stmt Stmt.Res PyExc Unit Unit => True)
      () Q F p (Engine.begin s.db s.ext startedAt)) (hinv : Inv s.db s.ext)
    (h : Serves hash p s outcome s') :
    (s'.db = s.db ∧ Inv s'.db s'.ext ∧ ∃ e, outcome = .error e) ∨
      ∃ a v, Q a v ∧ v.db = s.db ∧ Inv v.db v.ext ∧
        s' = ⟨(engine hash).applyAll v.writes v.db, v.ext⟩ := by
  have halone := fun startedAt out v (run : (engine hash).Alone p
    (Engine.begin s.db s.ext startedAt) out v) =>
    Protocol.Ends.alone _ (hends startedAt) (fun _ => trivial) hinv run
  cases h with
  | @committed startedAt a v run | @unacknowledged startedAt a v run name =>
      obtain ⟨hdb, hinv', hpost⟩ := halone _ _ _ run
      have hdb' : v.db = s.db := hdb
      have hinv'' : Inv s.db v.ext := hinv'
      refine Or.inr ⟨a, v, hpost a rfl, hdb', ?_, ?_⟩
      · rw [hdb']
        exact hinv''
      · rw [hdb']
  | raised run | lost run name =>
      obtain ⟨-, hinv', -⟩ := halone _ _ _ run
      exact Or.inl ⟨rfl, hinv', _, rfl⟩

/-- What a commit of `persist_ingress_job` does to rows and statuses: it may add a row of its own
request, and the status of that request says `persisted`. -/
theorem PersistPost.statuses {job : IngressJob} {response : Dict} {v : TxView}
    (h : PersistPost (fun _ : Event Stmt Stmt.Res PyExc Unit Unit => True) () hash job response v) :
    ∃ status : StatusRow, isPersistedStatus status.status_json = true ∧
      ((engine hash).applyAll v.writes v.db).request_statuses =
        Function.update v.db.request_statuses job.request_id (some status) ∧
      ∀ m ∈ ((engine hash).applyAll v.writes v.db).messages,
        m ∈ v.db.messages ∨ m.request_id = job.request_id := by
  cases h with
  | hit key m st hstored hresponds hst hw =>
      obtain ⟨status, rfl, hpersisted⟩ := hst.written
      rw [hw]
      exact ⟨_, hpersisted, rfl, fun m hm => Or.inl hm⟩
  | existing m st hnone hm hrid hroom huser hresponds hst hw =>
      obtain ⟨status, rfl, hpersisted⟩ := hst.written
      rw [hw]
      exact ⟨_, hpersisted, rfl, fun m hm => Or.inl hm⟩
  | ownDuplicate n seq m st hnone hn hlock hseq hlt hm hrid hroom hmseq hok hresponds hst hw =>
      obtain ⟨status, rfl, hpersisted⟩ := hst.written
      rw [hw]
      exact ⟨_, hpersisted, rfl, fun m hm => Or.inl hm⟩
  | fresh n row st o hnone hrow hmok hresponds hst hfor hpub hw =>
      have hadds := addsRow_fresh hash hst n row o v.db
      have hstatuses := statuses_fresh hash job st n row o v.db
      rw [← hw] at hadds hstatuses
      obtain ⟨status, rfl, hpersisted⟩ := hst.written
      refine ⟨_, hpersisted, hstatuses, fun m hm => ?_⟩
      rw [hadds.messages] at hm
      refine (List.mem_append.mp hm).imp_right fun hnew => ?_
      obtain rfl := List.mem_singleton.mp hnew
      exact hrow.request_id

/-- A status that says `persisted` and the row of its request go together. -/
theorem StatusesPersisted.persisted {t t' : Tables} {request_id : PyStr} {status : StatusRow}
    (h : StatusesPersisted t) (hpersisted : isPersistedStatus status.status_json = true)
    (hstatuses : t'.request_statuses = Function.update t.request_statuses request_id (some status))
    (hrows : ∀ m ∈ t'.messages, m ∈ t.messages ∨ m.request_id = request_id) :
    StatusesPersisted t' := by
  intro row hrow found hfound
  rw [hstatuses] at hfound
  by_cases hsame : row.request_id = request_id
  · rw [hsame, Function.update_self] at hfound
    obtain rfl := Option.some.inj hfound
    exact hpersisted
  · rw [Function.update_of_ne hsame] at hfound
    rcases hrows row hrow with hold | hown
    · exact h row hold found hfound
    · exact absurd hown hsame

/-- Any status may be written for a request that has no row. -/
theorem StatusesPersisted.unstored {t t' : Tables} {request_id : PyStr} {status : StatusRow}
    (h : StatusesPersisted t)
    (hstatuses : t'.request_statuses = Function.update t.request_statuses request_id (some status))
    (hrows : t'.messages = t.messages) (hnone : ∀ m ∈ t.messages, m.request_id ≠ request_id) :
    StatusesPersisted t' := by
  intro row hrow found hfound
  rw [hrows] at hrow
  rw [hstatuses, Function.update_of_ne (hnone row hrow)] at hfound
  exact h row hrow found hfound

/-- An attempt to persist, whatever the worker is told of it. -/
theorem serves_persist {v : ValidatedJob rt} {job : IngressJob} (hjob : IsRetry v.job job)
    {outcome : Except PyExc Dict} (hinv : Inv s.db s.ext) (hkept : StatusesPersisted s.db)
    (h : Serves hash (persistIngressJob job) s outcome s') :
    Inv s'.db s'.ext ∧ StatusesPersisted s'.db := by
  have hvalid := v.normalised.toValid
  rw [hjob.persistIngressJob hvalid] at h
  rcases h.effect (fun startedAt => ensures_persistIngressJob hvalid v.unique
    ⟨hinv, Protocol.covered_begin _ _ _ _⟩ rfl) hinv with ⟨hdb, hinv', -⟩ | hcommit
  · exact ⟨hinv', hdb ▸ hkept⟩
  · obtain ⟨response, view, hpost, hdb, hinv', rfl⟩ := hcommit
    obtain ⟨status, hpersisted, hstatuses, hrows⟩ := PersistPost.statuses hpost
    rw [← hdb] at hkept
    exact ⟨(hpost.justified hvalid hinv').1, hkept.persisted hpersisted hstatuses hrows⟩

/-- A status of a request that has no row. -/
theorem serves_status {request_id : PyStr} {payload : Dict} {outcome : Except PyExc Dict}
    (hinv : Inv s.db s.ext) (hkept : StatusesPersisted s.db)
    (hnone : ∀ m ∈ s.db.messages, m.request_id ≠ request_id)
    (h : Serves hash (storeRequestStatus request_id payload) s outcome s') :
    Inv s'.db s'.ext ∧ StatusesPersisted s'.db ∧ s'.db.messages = s.db.messages := by
  rcases h.effect (fun startedAt => ensures_storeRequestStatus
    ⟨hinv, Protocol.covered_begin _ _ _ _⟩ rfl) hinv with ⟨hdb, hinv', -⟩ | hcommit
  · exact ⟨hinv', hdb ▸ hkept, by rw [hdb]⟩
  · obtain ⟨answer, view, ⟨owner, hpost⟩, hdb, hinv', rfl⟩ := hcommit
    have hjustified : Inv ((engine hash).applyAll view.writes view.db) view.ext :=
      (hpost.justified hinv').1
    obtain ⟨status, -, hwrites⟩ := hpost.written
    rw [hwrites] at hjustified ⊢
    rw [← hdb] at hkept hnone ⊢
    exact ⟨hjustified, hkept.unstored rfl rfl hnone, rfl⟩

/-! ### The handler

Before an attempt the statuses are as they should be; after one that has raised the request has no
row, and stays without until the next attempt. -/

/-- What holds at every operation. -/
structure Kept (s : Store) : Prop where
  inv : Inv s.db s.ext
  persisted : StatusesPersisted s.db

/-- The request has no row. -/
structure Unstored (request_id : PyStr) (s : Store) : Prop extends Kept s where
  unstored : ∀ m ∈ s.db.messages, m.request_id ≠ request_id

/-- The operations that do nothing to the database. -/
def Quiet : IngressOp → Prop
  | .persistIngressJob _ => False
  | .storeRequestStatus _ _ => False
  | _ => True

/-- What follows an attempt that has raised: statuses of its request, and no other attempt. -/
def Follows (request_id : PyStr) : IngressOp → Prop
  | .persistIngressJob _ => False
  | .storeRequestStatus other _ => other = request_id
  | _ => True

theorem Quiet.step {op : IngressOp} {r : op.Res} (h : Quiet op) (hs : step hash op s r s') :
    s' = s := by
  cases op with
  | persistIngressJob | storeRequestStatus => exact h.elim
  | _ => exact hs

theorem Follows.step {request_id : PyStr} {op : IngressOp} {r : op.Res} (h : Follows request_id op)
    (hs : step hash op s r s') (hkept : Unstored request_id s) : Unstored request_id s' := by
  cases op with
  | persistIngressJob job => exact h.elim
  | storeRequestStatus other payload =>
      obtain rfl : other = request_id := h
      obtain ⟨hinv, hpersisted, hrows⟩ :=
        serves_status hkept.inv hkept.persisted hkept.unstored hs
      exact ⟨⟨hinv, hpersisted⟩, hrows ▸ hkept.unstored⟩
  | _ =>
      obtain rfl : s' = s := hs
      exact hkept

variable {settings : IngressSettings} {job : IngressJob}

theorem quiet_awaitNextRetry (job : IngressJob) : Only Quiet (awaitNextRetry job) := by
  unfold awaitNextRetry
  split
  · trivial
  · refine Only.call_bind trivial fun now => ?_
    split
    · exact Only.call_bind trivial fun _ => ⟨trivial, fun _ => trivial⟩
    · trivial

theorem follows_updateRequestStatus (request_id : PyStr) (payload : Dict) :
    Only (Follows request_id) (updateRequestStatus request_id payload) :=
  Only.call_bind rfl fun _ => trivial

theorem follows_rejectJob (reason : PyStr) :
    Only (Follows job.request_id) (rejectJob job reason) :=
  (follows_updateRequestStatus _ _).bind fun _ => trivial

theorem follows_giveUp (reason : PyStr) : Only (Follows job.request_id) (giveUp job reason) := by
  unfold giveUp moveToDlq
  refine Only.bind (Only.call_bind trivial fun now => ?_) fun _ => trivial
  refine Only.bind (Only.call_bind trivial fun sent => Only.ofExcept sent) fun _ => ?_
  exact follows_updateRequestStatus _ _

theorem follows_markInlineRetry :
    Only (Follows job.request_id) (markInlineRetry settings job) := by
  unfold markInlineRetry
  refine Only.call_bind trivial fun now => ?_
  dsimp only
  split
  · exact (follows_updateRequestStatus _ _).bind fun _ => trivial
  · trivial

/-- The operations of the deliveries whose attempts leave nothing behind when they raise. -/
abbrev clearStep (hash : PyStr → Int) (op : IngressOp) (s : Store) (r : op.Res) (s' : Store) :
    Prop :=
  step hash op s r s' ∧ LeavesUnstored op r s'

/-- What is done about an attempt that left nothing keeps the statuses. -/
theorem sat_follows {α : Type} {inv : Store → Prop} (hkept : ∀ s, Kept s → inv s)
    {p : Handling α} (hp : Only (Follows job.request_id) p) (h : Unstored job.request_id s) :
    Sat (World.alone (clearStep hash) inv) (fun _ => Unstored job.request_id)
      (fun _ => Unstored job.request_id) p s :=
  hp.sat (fun _ _ _ _ hop hw hs => hop.step hs.1 hw) (fun s hs => hkept s hs.toKept) h

/-- **The loop.** By induction on the tries that are left; an attempt that returns has written the
status itself, and one that raises has left the request without a row, so that the statuses after
it contradict nothing. -/
theorem sat_persistLoop {inv : Store → Prop} (hkept : ∀ s, Kept s → inv s) (v : ValidatedJob rt)
    (hjob : IsRetry v.job job) (h : Kept s) :
    Sat (World.alone (clearStep hash) inv) (fun _ => Kept) (fun _ => Kept)
      (persistLoop settings job) s := by
  induction job using persistLoop.induct settings generalizing s with
  | case1 job ih =>
      have hretry : ∀ reason s, Unstored job.request_id s →
          Sat (World.alone (clearStep hash) inv) (fun _ => Kept) (fun _ => Kept)
            (retryOrGiveUp settings job reason fun next _ => persistLoop settings next) s := by
        intro reason s hnone
        unfold retryOrGiveUp
        split
        · exact (sat_follows hkept (follows_giveUp reason) hnone).mono (fun _ _ h => h.toKept)
            fun _ _ h => h.toKept
        · rename_i hleft
          refine Sat.bind (fun _ => rfl) ((sat_follows hkept follows_markInlineRetry hnone).mono
            (fun _ _ h => h) fun _ _ h => h.toKept) fun marked s₁ h₁ => ?_
          refine (sat_alone_op _ _ _).mpr fun r s₂ hslept => ?_
          obtain rfl : s₂ = s₁ := hslept.1
          exact ⟨hkept _ h₁.toKept, ih _ (triesLeft_retried hleft marked.1)
            (hjob.retried marked.1) h₁.toKept⟩
      rw [persistLoop]
      unfold persistPass
      have hawait : Sat (World.alone (clearStep hash) inv) (fun _ => Kept) (fun _ => Kept)
          (awaitNextRetry job) s :=
        (quiet_awaitNextRetry job).sat
          (fun _ _ _ _ hop hw hs => (hop.step hs.1).symm ▸ hw) hkept h
      refine Sat.bind (fun _ => rfl) hawait fun _ s₁ h₁ => ?_
      refine (sat_alone_op _ _ _).mpr fun response s₂ hattempt => ?_
      obtain ⟨⟨outcome, persisted_at, hserves, -⟩, hclear⟩ := hattempt
      obtain ⟨hinv, hpersisted⟩ := serves_persist hjob h₁.inv h₁.persisted hserves
      have h₂ : Kept s₂ := ⟨hinv, hpersisted⟩
      refine ⟨hkept s₂ h₂, ?_⟩
      cases response with
      | ok _ => exact (sat_alone_ret _ _).mpr h₂
      | error e =>
          have hnone : Unstored job.request_id s₂ := ⟨h₂, hclear⟩
          have hreject : ∀ reason, Sat (World.alone (clearStep hash) inv) (fun _ => Kept)
              (fun _ => Kept) (rejectJob job reason) s₂ := fun reason =>
            (sat_follows hkept (follows_rejectJob reason) hnone).mono (fun _ _ h => h.toKept)
              fun _ _ h => h.toKept
          dsimp only [Prog.bind]
          cases persistFailure e with
          | unauthorized => exact hreject _
          | invalid reason => exact hreject _
          | badData name =>
              exact (sat_follows hkept (follows_giveUp _) hnone).mono (fun _ _ h => h.toKept)
                fun _ _ h => h.toKept
          | sequenceGap => exact hretry _ _ hnone
          | transient name => exact hretry _ _ hnone
          | uncaught e => exact (sat_alone_throw _ _).mpr h₂

/-- The record is an event under the key of its stream. -/
def Accepted (rt : Runtime) (message : ConsumerRecord KafkaValue) (n : IngressJob) : Prop :=
  (readIngress rt message.value).2 = .ok n ∧ Keyed message n.room_id

/-- What holds between two deliveries: no row comes of a record that is not accepted. -/
structure Between (rt : Runtime) (message : ConsumerRecord KafkaValue) (s : Store) : Prop
    extends Kept s where
  rows : (∀ n, ¬Accepted rt message n) → s.db.messages = []

/-- A record that is not accepted is never persisted, so that no status contradicts a row. -/
theorem sat_unaccepted {α : Type} {p : Handling α} (hp : Only (Asks rt message) p)
    (hnone : ∀ n, ¬Accepted rt message n) (h : Between rt message s) :
    Sat (World.alone (clearStep hash) (Between rt message)) (fun _ => Between rt message)
      (fun _ => Between rt message) p s := by
  refine hp.sat (fun op s r s' hop hw hs => ?_) (fun _ h => h) h
  have hempty := hw.rows hnone
  cases op with
  | persistIngressJob job =>
      obtain ⟨n, hread, hkey, -⟩ := hop
      exact absurd ⟨hread, hkey⟩ (hnone n)
  | storeRequestStatus request_id payload =>
      have hunstored : ∀ m ∈ s.db.messages, m.request_id ≠ request_id := by simp [hempty]
      obtain ⟨hinv, hpersisted, hrows⟩ := serves_status hw.inv hw.persisted hunstored hs.1
      exact ⟨⟨hinv, hpersisted⟩, fun _ => hrows.trans hempty⟩
  | _ =>
      obtain rfl : s' = s := hs.1
      exact hw

theorem sat_handleIngressRecord {bytes : Option Bytes}
    (hvalue : message.value = deserializeJson rt bytes) (h : Between rt message s) :
    Sat (World.alone (clearStep hash) (Between rt message)) (fun _ => Between rt message)
      (fun _ => Between rt message) (handleIngressRecord rt settings message) s := by
  by_cases haccepted : ∃ n, Accepted rt message n
  · obtain ⟨n, hread, key, hkey, hdecoded⟩ := haccepted
    have hbetween : ∀ s, Kept s → Between rt message s := fun s hs =>
      ⟨hs, fun hnone => absurd ⟨hread, key, hkey, hdecoded⟩ (hnone n)⟩
    have hvalidated : ∃ v : ValidatedJob rt, v.job = n := by
      rw [hvalue] at hread
      exact readIngress_validated hread
    obtain ⟨v, rfl⟩ := hvalidated
    rw [handleIngressRecord_accepted hread ⟨key, hkey, hdecoded⟩]
    exact (sat_persistLoop hbetween v (.refl v.job) h.toKept).mono (fun _ _ h => hbetween _ h)
      fun _ _ h => hbetween _ h
  · exact sat_unaccepted asks_handleIngressRecord (not_exists.mp haccepted) h

end StatusRegression

open StatusRegression in
/-- **A status never goes back from `persisted`, in the runs whose failed attempts leave their
event unstored.** The worker begins with empty tables and handles one record any number of times,
with lost connections, commits that raise, and crashes wherever they may be; in every state that it
commits, a request with a row has no other status than `persisted`.

The invariant is that of the tables with the statement itself. A commit of the persist transaction
writes row and status together (`serves_persist`); every other status follows an attempt that has
raised, and is about a request without a row (`sat_persistLoop`). -/
theorem requestStatus_staysPersisted {rt : Runtime} {settings : IngressSettings}
    {hash : PyStr → Int} {message : ConsumerRecord KafkaValue} {bytes : Option Bytes}
    (hvalue : message.value = deserializeJson rt bytes) {rooms users : Nat → Bool}
    {members : Nat → Nat → Bool} {running : Option (Handling IngressOutcome)} {s : Store}
    (hreach : (clearDeliveries rt settings hash message).Reaches
      (none, .empty rooms users members) (running, s)) :
    ∀ row ∈ s.db.messages, ∀ status, s.db.request_statuses row.request_id = some status →
      isPersistedStatus status.status_json = true := by
  have hempty : Between rt message (.empty rooms users members) :=
    ⟨⟨inv_empty rooms users members, fun row hrow => by cases hrow⟩, fun _ => rfl⟩
  have hbetween : Between rt message s := by
    refine Driver.invariant_of_idle (clearDeliveries rt settings hash message)
      (Q := fun _ => Between rt message) (E := fun _ => Between rt message) (fun _ h => h)
      ?_ ?_ ?_ ?_ hempty hreach
    · intro w p w' hw hstart
      obtain ⟨rfl, rfl⟩ := hstart
      exact ⟨hw, sat_handleIngressRecord hvalue hw⟩
    · intro outcome w w' hw _ hend
      obtain rfl : w' = w := hend
      exact hw
    · intro e w w' hw _ hthrow
      obtain rfl : w' = w := hthrow
      exact hw
    · intro w w' hw hcrash
      obtain rfl : w' = w := hcrash
      exact hw
  exact hbetween.persisted

namespace StatusRegression

open IngressProcess

/-! ### Two runs -/

/-- The first attempt of a new job, and what follows one that raises: the clock, then the status of
the next try. -/
theorem persistLoop_fails {settings : IngressSettings} {job : IngressJob} {now : Clock}
    {next_retry_at : PyFloat} {text : PyStr} (hnew : job.next_retry_at = none)
    (hleft : ¬ settings.ingress_max_retries ≤ job.retry_count)
    (hnext : (clockTime now).add (retryDelay settings.ingress_retry_base_delay_seconds
      (job.retry_count + 1)) = next_retry_at) (htext : timestampIso next_retry_at = some text)
    (name : String) :
    ∃ k, persistLoop settings job = .op (.persistIngressJob job) k ∧
      (∀ response, k (.ok response) = .ret .success) ∧
      ∃ k', k (.error (.transient name)) = .op .time k' ∧ ∃ k'',
        k' now = .op (.storeRequestStatus job.request_id
          (queuedStatus (job.retried next_retry_at) text)) k'' := by
  subst hnext
  rw [persistLoop]
  unfold persistPass awaitNextRetry
  rw [hnew]
  refine ⟨_, rfl, fun response => rfl, ?_⟩
  dsimp only [Prog.bind, persistFailure]
  unfold retryOrGiveUp markInlineRetry
  rw [dif_neg hleft]
  refine ⟨_, rfl, ?_⟩
  dsimp only [Prog.bind]
  simp only [htext]
  exact ⟨_, rfl⟩

/-- A transaction played to its commit. -/
def commitsTo {α : Type} (p : Transaction α) (s : Store) : Option Store :=
  match (engine fun _ => 0).atomically 0 ⟨true, none⟩ p (Engine.begin s.db s.ext 0) with
  | .committed _ v => some ⟨(engine fun _ => 0).applyAll v.writes s.db, v.ext⟩
  | _ => none

/-- Such a commit may be answered, or not. -/
theorem serves_of_commitsTo {α : Type} {p : Transaction α} {s s' : Store}
    (h : commitsTo p s = some s') :
    ∃ a, Serves (fun _ => 0) p s (.ok a) s' ∧
      ∀ name, Serves (fun _ => 0) p s (.error (.transient name)) s' := by
  unfold commitsTo at h
  split at h
  · rename_i a v hcommitted
    obtain rfl := Option.some.inj h
    have hrun := Engine.alone_of_atomically _ hcommitted
    exact ⟨a, .committed hrun, .unacknowledged hrun⟩
  · cases h

/-- The small system before its first event. -/
abbrev freshStore : Store :=
  .empty (· == 7) (· == 3) fun room user => room == 7 && user == 3

/-- Five retries, the first after a second. -/
abbrev fiveRetries : IngressSettings := ⟨5, PyFloat.ofNat 1⟩

theorem beginning_in_range : 0 < maxMicros := by decide

/-- The beginning of time. -/
def beginning : Clock := ⟨0, beginning_in_range⟩

/-- The status of the first retry, a second later. -/
abbrev firstRetry : Dict :=
  queuedStatus (sampleJob.job.retried (PyFloat.ofNat 1)) "1970-01-01T00:00:01+00:00"

/-- The handler of the first record: the attempt, and the status that follows a failed one. -/
theorem firstRecord_fails (name : String) :
    ∃ k, handleIngressRecord .sample fiveRetries firstRecord =
        .op (.persistIngressJob sampleJob.job) k ∧
      (∀ response, k (.ok response) = .ret .success) ∧
      ∃ k', k (.error (.transient name)) = .op .time k' ∧ ∃ k'',
        k' beginning = .op (.storeRequestStatus sampleJob.job.request_id firstRetry) k'' := by
  have hkeyed : Keyed firstRecord sampleJob.job.room_id := ⟨[55], rfl, by decide +kernel⟩
  rw [handleIngressRecord_accepted firstRecord_read hkeyed]
  exact persistLoop_fails (by decide +kernel) (by decide +kernel) (by decide +kernel)
    (by decide +kernel) name

/-- The record is one that the deserializer gives. -/
theorem firstRecord_decoded : ∃ bytes, firstRecord.value = deserializeJson .sample bytes := by
  have hobject : WireObject (sampleObject "r1" .null .null) := by
    refine ⟨by decide, by decide, ?_⟩
    intro p hp
    simp only [sampleObject, List.mem_cons, List.not_mem_nil, or_false] at hp
    rcases hp with rfl | rfl | rfl | rfl | rfl | rfl | rfl
    · exact .text (by decide)
    · exact .text (by decide)
    · exact .int (by decide)
    · exact .int (by decide)
    · exact .text (by decide)
    · exact .null
    · exact .null
  obtain ⟨hwire, hunique⟩ := hobject.wire
  obtain ⟨bytes, hbytes⟩ := serializeJson_ok.mpr hwire
  exact ⟨bytes, (deserializeJson_serializeJson .sample hwire hunique hbytes).symm⟩

end StatusRegression

open StatusRegression IngressProcess in
/-- An attempt that fails before anything is stored, its `queued` status, a crash, and the delivery
that stores the event: the status is `persisted` again. -/
theorem requestStatus_staysPersisted_sample : ∃ s,
    (clearDeliveries .sample fiveRetries (fun _ => 0) firstRecord).Reaches (none, freshStore)
      (none, s) ∧
    ∃ row ∈ s.db.messages, ∃ status, s.db.request_statuses row.request_id = some status ∧
      isPersistedStatus status.status_json = true := by
  have hplay : ((commitsTo (storeRequestStatus sampleJob.job.request_id firstRetry)
      freshStore).bind fun s => (commitsTo (persistIngressJob sampleJob.job) s).map fun s' =>
        ((s.db.request_statuses "r1").map fun status => isPersistedStatus status.status_json,
          s'.db.messages.map (·.request_id), (s'.db.request_statuses "r1").isSome))
      = some (some false, [PyStr.ofString "r1"], true) := by decide +kernel
  obtain ⟨s, hqueued, hplay⟩ := Option.bind_eq_some_iff.mp hplay
  obtain ⟨s', hpersisted, hstate⟩ := Option.map_eq_some_iff.mp hplay
  obtain ⟨-, hstate⟩ := Prod.mk.inj hstate
  obtain ⟨hrows, hstatus⟩ := Prod.mk.inj hstate
  obtain ⟨answer, hstored, -⟩ := serves_of_commitsTo hqueued
  obtain ⟨response, hcommitted, -⟩ := serves_of_commitsTo hpersisted
  obtain ⟨k, hprogram, hreturns, k', hfails, k'', hmarks⟩ := firstRecord_fails "OperationalError"
  let d := clearDeliveries .sample fiveRetries (fun _ => 0) firstRecord
  -- the delivery that fails, up to the crash behind its status
  have hfirst : d.Reaches (none, freshStore) (none, s) := by
    have hstart : d.Step (none, freshStore) (some (.op (.persistIngressJob sampleJob.job) k),
      freshStore) := .start ⟨hprogram.symm, rfl⟩
    have hlost : d.Step (some (.op (.persistIngressJob sampleJob.job) k), freshStore)
        (some (.op .time k'), freshStore) := hfails ▸ .run ⟨⟨.error (.transient "OperationalError"),
          [], .lost (.lost _ (Engine.begin freshStore.db freshStore.ext 0)) _, rfl⟩,
          fun m hm => by cases hm⟩
    have htime : d.Step (some (.op .time k'), freshStore)
        (some (.op (.storeRequestStatus sampleJob.job.request_id firstRetry) k''), freshStore) :=
      hmarks ▸ .run ⟨rfl, trivial⟩
    have hmark : d.Step (some (.op (.storeRequestStatus sampleJob.job.request_id firstRetry) k''),
      freshStore) (some (k'' (.ok answer)), s) := .run ⟨hstored, trivial⟩
    have hcrash : d.Step (some (k'' (.ok answer)), s) (none, s) := .crash rfl
    exact (((Relation.ReflTransGen.single hstart).tail hlost |>.tail htime).tail hmark).tail hcrash
  have hreach : d.Reaches (none, freshStore) (none, s') := by
    have hstart : d.Step (none, s) (some (.op (.persistIngressJob sampleJob.job) k), s) :=
      .start ⟨hprogram.symm, rfl⟩
    have hpersist : d.Step (some (.op (.persistIngressJob sampleJob.job) k), s)
        (some (.ret .success), s') :=
      hreturns (committedResponse [] response) ▸ .run ⟨⟨.ok response, [], hcommitted, rfl⟩, trivial⟩
    have hend : d.Step (some (.ret .success), s') (none, s') := .finish rfl
    exact ((hfirst.tail hstart).tail hpersist).tail hend
  obtain ⟨bytes, hvalue⟩ := firstRecord_decoded
  obtain ⟨row, rest, hmessages, hrow, -⟩ := List.map_eq_cons_iff.mp hrows
  obtain ⟨status, hfound⟩ := Option.isSome_iff_exists.mp hstatus
  have hmem : row ∈ s'.db.messages := by simp [hmessages]
  rw [← hrow] at hfound
  exact ⟨s', hreach, row, hmem, status, hfound,
    requestStatus_staysPersisted hvalue hreach row hmem status hfound⟩

open StatusRegression IngressProcess in
/-- A commit whose answer is lost: the event is stored with its status, the handler takes the
attempt for a failed one, and overwrites the status with `queued`. -/
theorem requestStatus_overwritten : ∃ running s,
    (deliveries .sample fiveRetries (fun _ => 0) firstRecord).Reaches (none, freshStore)
      (running, s) ∧
    ∃ row ∈ s.db.messages, ∃ status, s.db.request_statuses row.request_id = some status ∧
      isPersistedStatus status.status_json = false := by
  have hplay : ((commitsTo (persistIngressJob sampleJob.job) freshStore).bind fun s =>
      (commitsTo (storeRequestStatus sampleJob.job.request_id firstRetry) s).map fun s' =>
        (s'.db.messages.map (·.request_id),
          (s'.db.request_statuses "r1").map fun status => isPersistedStatus status.status_json))
      = some ([PyStr.ofString "r1"], some false) := by decide +kernel
  obtain ⟨s, hpersisted, hplay⟩ := Option.bind_eq_some_iff.mp hplay
  obtain ⟨s', hqueued, hstate⟩ := Option.map_eq_some_iff.mp hplay
  obtain ⟨hrows, hstatus⟩ := Prod.mk.inj hstate
  obtain ⟨_, -, hunacknowledged⟩ := serves_of_commitsTo hpersisted
  obtain ⟨answer, hstored, -⟩ := serves_of_commitsTo hqueued
  obtain ⟨k, hprogram, -, k', hfails, k'', hmarks⟩ := firstRecord_fails "OperationalError"
  let d := deliveries .sample fiveRetries (fun _ => 0) firstRecord
  have hstart : d.Step (none, freshStore) (some (.op (.persistIngressJob sampleJob.job) k),
    freshStore) := .start ⟨hprogram.symm, rfl⟩
  have hlost : d.Step (some (.op (.persistIngressJob sampleJob.job) k), freshStore)
      (some (.op .time k'), s) :=
    hfails ▸ .run ⟨.error (.transient "OperationalError"), [], hunacknowledged _, rfl⟩
  have htime : d.Step (some (.op .time k'), s)
      (some (.op (.storeRequestStatus sampleJob.job.request_id firstRetry) k''), s) :=
    hmarks ▸ .run rfl
  have hmark : d.Step (some (.op (.storeRequestStatus sampleJob.job.request_id firstRetry) k''), s)
    (some (k'' (.ok answer)), s') := .run hstored
  obtain ⟨row, rest, hmessages, hrow, -⟩ := List.map_eq_cons_iff.mp hrows
  obtain ⟨status, hfound, hother⟩ := Option.map_eq_some_iff.mp hstatus
  rw [← hrow] at hfound
  exact ⟨_, s', ((Relation.ReflTransGen.single hstart).tail hlost |>.tail htime).tail hmark, row,
    by simp [hmessages], status, hfound, hother⟩

end EventPipeline.Guarantees
