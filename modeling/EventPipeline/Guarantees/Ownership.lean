import EventPipeline.Worker.System

/-!
# EventPipeline.Guarantees.Ownership

Requests belong to users: as a message, or as a status with an owner.

A status row with an owner keeps it, a call that raises leaves no trace, and a call
for a request of somebody else changes nothing, except on one path: a persist whose
request lookup came too early finds, past the counter, the message of its own
request id under its explicit number, and does not ask whose message it is. The
lookup it missed does ask. `ownership_isolated` is the guarantee for runs that never
take this path with somebody else's message, `ownership_crossed` a run that does.
-/

namespace EventPipeline.Guarantees

open EventPipeline.Python EventPipeline.Portfolio EventPipeline.Postgres
open EventPipeline.Concurrency EventPipeline.Worker

variable {rt : Runtime} {hash : PyStr → Int}

/-! ### Whose request

A request belongs to whoever its message or the owner of its status says. The one way around that
is a persist which, past the counter, finds the message of somebody else under its own request id.
-/

/-- The request has a message, or a status with an owner, of another user. -/
def BelongsToOther (request_id : PyStr) (user : Nat) (t : Tables) : Prop :=
  (∃ m ∈ t.messages, m.request_id = request_id ∧ m.user_id ≠ user) ∨
    ∃ row owner, t.request_statuses request_id = some row ∧ row.user_id = some owner ∧
      owner ≠ user

/-- The call is for the request, by the user. -/
def ActsFor (request_id : PyStr) (user : Nat) : Task rt → Prop
  | .persist v => v.job.request_id = request_id ∧ v.job.user_id = user
  | .status r payload =>
      r = request_id ∧ ∃ status, normalizedRequestStatus r payload = .ok (user, status)
  | .relay | .notification _ | .notificationBatch _ => False

/-- A persist transaction, past the counter, finds a message of its own request id
that is somebody else's. -/
def FindsOthersMessage : WorkerEvent rt → Prop
  | .ran (.persist v) (.selectMessageBySeq _ _) (some m) =>
      m.request_id = v.job.request_id ∧ m.user_id ≠ v.job.user_id
  | _ => False

instance : DecidablePred (@FindsOthersMessage rt) := fun e => by
  unfold FindsOthersMessage
  split <;> infer_instance

/-! ### Owners

Each message has a status of its user, and a status is written by its owner only. So whoever may
write the status of a request is the user of its messages. -/

/-- Every message has a status of its user. -/
def StatusesOwned (t : Tables) : Prop :=
  ∀ m ∈ t.messages, ∃ row, t.request_statuses m.request_id = some row ∧
    row.user_id = some m.user_id

/-- Who may write a status is its owner. -/
theorem owner_of_mayOwn {r : PyStr} {user owner : Nat} {t : Tables} (h : MayOwn r user t)
    {row : StatusRow} (hrow : t.request_statuses r = some row) (howner : row.user_id = some owner) :
    owner = user := by
  rcases h row hrow with hnone | hsome
  · simp [hnone] at howner
  · exact Option.some.inj (howner.symm.trans hsome)

/-- Who may write the status of a request is nobody else. -/
theorem not_belongsToOther {r : PyStr} {user : Nat} {t : Tables} (h : MayOwn r user t)
    (howned : StatusesOwned t) : ¬BelongsToOther r user t := by
  rintro (⟨m, hm, rfl, hne⟩ | ⟨row, owner, hrow, howner, hne⟩)
  · obtain ⟨row, hrow, howner⟩ := howned m hm
    exact hne (owner_of_mayOwn h hrow howner)
  · exact hne (owner_of_mayOwn h hrow howner)

/-- A status written by who may write it, with the messages of its request: the status of the
request `r` is now the user's, the others are as they were, and every message that is new is the
request's and the user's. -/
structure WritesStatus (r : PyStr) (user : Nat) (t t' : Tables) : Prop where
  mayOwn : MayOwn r user t
  statuses : ∃ status, t'.request_statuses =
    Function.update t.request_statuses r (some ⟨some user, status⟩)
  messages : ∀ m ∈ t'.messages, m ∈ t.messages ∨ (m.request_id = r ∧ m.user_id = user)

theorem WritesStatus.statusesOwned {r : PyStr} {user : Nat} {t t' : Tables}
    (h : WritesStatus r user t t') (hkeeps : KeepsOwners t t') (howned : StatusesOwned t) :
    StatusesOwned t' := by
  intro m hm
  rcases h.messages m hm with hold | ⟨rfl, rfl⟩
  · exact hkeeps _ _ (howned m hold)
  · obtain ⟨status, hstatuses⟩ := h.statuses
    exact ⟨_, by rw [hstatuses, Function.update_self], rfl⟩

/-! ### Commits -/

section Commit

variable {ok : WorkerEvent rt → Prop}

/-- A persist commit writes the status of its request for the user of its response:
its own user, unless it found the message past the counter. -/
theorem persist_writesStatus {v : ValidatedJob rt} {response : Dict} {view : TxView}
    (hpost : PersistPost ok (.persist v) hash v.job response view) :
    ∃ user, WritesStatus v.job.request_id user view.db
        ((engine hash).applyAll view.writes view.db) ∧
      (user = v.job.user_id ∨ ∃ seq m, m.request_id = v.job.request_id ∧ m.user_id = user ∧
        ok (.ran (.persist v) (.selectMessageBySeq v.job.room_id seq) (some m))) := by
  -- the four ways a persist ends: the first three write the status of a message that is there
  cases hpost with
  | hit key m st hstored hresponds hst hw =>
      obtain ⟨status, rfl, -⟩ := hst.written
      rw [hw]
      exact ⟨m.user_id, ⟨hst.mayOwn, ⟨_, rfl⟩, fun m hm => Or.inl hm⟩, Or.inl hstored.user_id⟩
  | existing m st hnone hm hrid hroom huser hresponds hst hw =>
      obtain ⟨status, rfl, -⟩ := hst.written
      rw [hw]
      exact ⟨m.user_id, ⟨hst.mayOwn, ⟨_, rfl⟩, fun m hm => Or.inl hm⟩, Or.inl huser⟩
  -- the message past the counter is of the request, not necessarily of its user
  | ownDuplicate n seq m st hnone hn hlock hseq hlt hm hrid hroom hmseq hok hresponds hst hw =>
      obtain ⟨status, rfl, -⟩ := hst.written
      rw [hw]
      exact ⟨m.user_id, ⟨hst.mayOwn, ⟨_, rfl⟩, fun m hm => Or.inl hm⟩,
        Or.inr ⟨seq, m, hrid, rfl, hok⟩⟩
  | fresh n row st o hnone hrow hmok hresponds hst hfor hpub hw =>
      have hadds := addsRow_fresh hash hst n row o view.db
      obtain ⟨status, rfl, -⟩ := hst.written
      rw [hw]
      refine ⟨row.user_id, ⟨hst.mayOwn, ⟨.obj status, ?_⟩, fun m hm => ?_⟩, Or.inl hrow.user_id⟩
      · -- the key is remembered after the status, in another table
        unfold rememberWrites
        cases v.job.idempotencyKey <;> rfl
      · rw [hadds.messages] at hm
        rcases List.mem_append.mp hm with hm | hm
        · exact Or.inl hm
        · obtain rfl := List.mem_singleton.mp hm
          exact Or.inr ⟨hrow.request_id, rfl⟩

theorem stored_writesStatus {request_id : PyStr} {payload : Dict} {owner : Nat} {view : TxView}
    (hpost : StatusPost request_id payload owner view) :
    WritesStatus request_id owner view.db ((engine hash).applyAll view.writes view.db) := by
  obtain ⟨status, -, hw⟩ := hpost.written
  rw [hw]
  exact ⟨hpost.mayOwn, ⟨_, rfl⟩, fun m hm => Or.inl hm⟩

/-- Every step keeps the owners and gives every message a status of its user. -/
theorem owners_step {s s' : WorkerSystem rt} {e : WorkerEvent rt} (howned : StatusesOwned s.db)
    (hgood : (pipeline hash).Good ok (TaskPost ok hash) TaskRefused s)
    (hstep : Step (engine hash) (program rt) s e s') :
    KeepsOwners s.db s'.db ∧ StatusesOwned s'.db := by
  have hkeeps : KeepsOwners s.db s'.db := (hgood.grows taskPost_justifies hstep).owners
  refine ⟨hkeeps, ?_⟩
  cases step_effect hgood hstep with
  | persisted v response view he hdb hpost hafter =>
      obtain ⟨user, hwrites, -⟩ := persist_writesStatus hpost
      rw [← hafter, hdb] at hwrites
      exact hwrites.statusesOwned hkeeps howned
  | stored request_id payload owner view he hdb hpost hafter =>
      have hwrites : WritesStatus request_id owner view.db
          ((engine hash).applyAll view.writes view.db) := stored_writesStatus hpost
      rw [← hafter, hdb] at hwrites
      exact hwrites.statusesOwned hkeeps howned
  | other hpersist hstatus hsame hstatuses =>
      intro m hm
      rw [hstatuses]
      exact howned m (hsame.messages ▸ hm)

end Commit

/-! ### Isolation -/

/-- A step keeps the owners, acts on no request of somebody else, and changes nothing
unless it is a commit. -/
structure Isolated (t : Transition Stmt Stmt.Res PyExc Answer (Task rt) Tables Ext Write Lock) :
    Prop where
  owners : KeepsOwners t.before.db t.after.db
  foreign : ∀ task a r user, t.event = .committed task a → ActsFor r user task →
    BelongsToOther r user t.before.db → t.after.db = t.before.db
  uncommitted : (∀ task a, t.event ≠ .committed task a) → t.after.db = t.before.db

/-- No commit acts on a request of somebody else. -/
theorem not_foreign {s s' : WorkerSystem rt} {task : Task rt} {a : Answer} {r : PyStr} {user : Nat}
    (howned : StatusesOwned s.db)
    (hgood : (pipeline hash).Good (fun e => ¬FindsOthersMessage e)
      (TaskPost (fun e => ¬FindsOthersMessage e) hash) TaskRefused s)
    (hstep : Step (engine hash) (program rt) s (.committed task a) s')
    (hacts : ActsFor r user task) : ¬BelongsToOther r user s.db := by
  cases step_effect hgood hstep with
  | persisted v response view he hdb hpost hafter =>
      obtain ⟨rfl, -⟩ := Event.committed.inj he
      obtain ⟨rfl, rfl⟩ := hacts
      obtain ⟨user, hwrites, hcase⟩ := persist_writesStatus hpost
      -- past the counter only the own message was found: that is what the run excludes
      have huser : user = v.job.user_id := by
        rcases hcase with huser | ⟨seq, m, hrid, huser, hok⟩
        · exact huser
        · by_contra hne
          exact hok ⟨hrid, huser ▸ hne⟩
      subst huser
      rw [← hdb] at howned ⊢
      exact not_belongsToOther hwrites.mayOwn howned
  | stored request_id payload owner view he hdb hpost hafter =>
      obtain ⟨rfl, -⟩ := Event.committed.inj he
      obtain ⟨rfl, status, hstatus⟩ := hacts
      obtain ⟨status', hnormalised, -⟩ := hpost.written
      obtain ⟨rfl, -⟩ := Prod.mk.inj (Except.ok.inj (hstatus.symm.trans hnormalised))
      rw [← hdb] at howned ⊢
      exact not_belongsToOther hpost.mayOwn howned
  -- the relay and the notifications act for no request
  | other hpersist hstatus hsame hstatuses =>
      cases task with
      | persist v => exact absurd rfl (hpersist v a)
      | status r payload => exact absurd rfl (hstatus r payload a)
      | relay | notification | notificationBatch => exact hacts.elim

/-- **Isolation.** From empty tables, whatever transactions do among each other: as long
as no persist finds somebody else's message past the counter, every step is isolated.

The invariant is that every message has a status of its user. With it, a commit for a request of
somebody else would have to write a status it does not own, which the check at the end of the
transaction refuses (`not_foreign`); and only a commit changes the tables at all.

A transaction raises before its commit here, at a statement or in between. A `COMMIT` whose
acknowledgement is lost, which takes effect and raises, is outside of what `uncommitted` is
about. -/
theorem ownership_isolated {rooms users : Nat → Bool} {members : Nat → Nat → Bool}
    {h : List (Transition Stmt Stmt.Res PyExc Answer (Task rt) Tables Ext Write Lock)}
    {s : WorkerSystem rt} (hrun : WorkerRun rt hash (emptySystem rt rooms users members) h s)
    (hown : ∀ t ∈ h, ¬FindsOthersMessage t.event) : ∀ t ∈ h, Isolated t := by
  have hrun_owned : StatusesOwned s.db ∧ ∀ t ∈ h, Isolated t := by
    induction hrun with
    | nil => exact ⟨by simp [StatusesOwned, emptySystem, System.start, Tables.empty], by simp⟩
    | @snoc h s e s' hrun hstep ih =>
        have hbefore := fun t ht => hown t (List.mem_append_left _ ht)
        obtain ⟨howned, hisolated⟩ := ih hbefore
        have hgood : (pipeline hash).Good (fun e => ¬FindsOthersMessage e)
            (TaskPost (fun e => ¬FindsOthersMessage e) hash) TaskRefused s :=
          workerRun_good hrun hbefore
        obtain ⟨hkeeps, howned'⟩ := owners_step howned hgood hstep
        refine ⟨howned', fun t ht => ?_⟩
        rcases List.mem_append.mp ht with ht | ht
        · exact hisolated t ht
        · obtain rfl := List.mem_singleton.mp ht
          refine ⟨hkeeps, fun task a r user he hacts hother => ?_, Protocol.step_db hstep⟩
          obtain rfl : e = .committed task a := he
          exact absurd hother (not_foreign howned hgood hstep hacts)
  exact hrun_owned.2

/-! ### A shared room

Two users of one room ask for the same request id with the same explicit number. -/

/-- One room with the users `3` and `4`. -/
def sharedSim : Sim Stmt Stmt.Res PyExc Answer (Task .sample) Tables Ext Write Lock :=
  .start (.empty (· == 7) (fun user => user == 3 || user == 4)
    fun room user => room == 7 && (user == 3 || user == 4)) Ext.initial

/-- The system `sharedSim` simulates. -/
def sharedSystem : WorkerSystem .sample :=
  emptySystem .sample (· == 7) (fun user => user == 3 || user == 4)
    fun room user => room == 7 && (user == 3 || user == 4)

/-- Request `r1` with the explicit number `1`, by a user. -/
def requestBy (user : Int) : Dict :=
  (sampleObject "r1" (.int 1) .null).set "user_id" (.int user)

theorem requestBy_unique (user : Int) : (Json.obj (requestBy user)).Unique :=
  Json.Unique.set (sampleObject_unique "r1" (.int 1) .null (by simp [Json.Unique])
    (by simp [Json.Unique])) _ (by simp [Json.Unique])

def jobOf3 : ValidatedJob .sample := .ofObject _ (requestBy_unique 3) (by decide +kernel)

def jobOf4 : ValidatedJob .sample := .ofObject _ (requestBy_unique 4) (by decide +kernel)

/-- The status `queued` of `r1`, owned by user `4`. -/
def queuedBy4 : Task .sample :=
  .status "r1" [("request_id", .str "r1"), ("status", .str "queued"), ("user_id", .int 4)]

/-- User `4` queues and stores `r1`; user `3` is rejected. -/
def sharedScript : List (Action (Task .sample) Choice) :=
  wholeTransaction 0 queuedBy4 1 ++ wholeTransaction 0 (.persist jobOf4) 7
    ++ [.begin 1 (.persist jobOf3), .stmt 1 ⟨true, none⟩, .stmt 1 ⟨true, none⟩]

theorem ownership_isolated_sample :
    ∃ (h : List (Transition Stmt Stmt.Res PyExc Answer (Task .sample) Tables Ext Write Lock))
      (s : WorkerSystem .sample), WorkerRun .sample (fun _ => 0) sharedSystem h s ∧
        s.db.messages.map (·.user_id) = [4] ∧ ∀ t ∈ h, Isolated t := by
  have hplay : ((play (engine fun _ => 0) (program .sample) sharedScript sharedSim).map
      fun p => (p.2.db.messages.map (·.user_id), decide (∀ e ∈ p.1, ¬FindsOthersMessage e)))
      = some ([4], true) := by
    decide +kernel
  obtain ⟨p, hp, hstate⟩ := Option.map_eq_some_iff.mp hplay
  obtain ⟨husers, hown⟩ := Prod.mk.inj hstate
  obtain ⟨h, hrun, hevents⟩ := play_run hp
  refine ⟨h, p.2.toSystem, hrun, husers, ownership_isolated hrun fun t ht => ?_⟩
  exact of_decide_eq_true hown _ (hevents ▸ List.mem_map_of_mem ht)

/-- After user `3` has begun: user `3` looks for `r1`, user `4` stores it, user `3` goes on
up to the commit. -/
def crossedScript : List (Action (Task .sample) Choice) :=
  [.stmt 1 ⟨true, none⟩, .stmt 1 ⟨true, none⟩] ++ wholeTransaction 0 (.persist jobOf4) 7
    ++ List.replicate 5 (.stmt 1 ⟨true, none⟩)

/-- The request and the user of a persist commit. -/
def persistedBy : WorkerEvent .sample → Option (PyStr × Nat)
  | .committed (.persist v) _ => some (v.job.request_id, v.job.user_id)
  | _ => none

theorem actsFor_of_persistedBy {e : WorkerEvent .sample} {request_id : PyStr} {user : Nat}
    (h : persistedBy e = some (request_id, user)) :
    ∃ task a, e = .committed task a ∧ ActsFor request_id user task := by
  unfold persistedBy at h
  split at h
  · rename_i v a
    exact ⟨_, a, rfl, Prod.mk.inj (Option.some.inj h)⟩
  · simp at h

/-- The owner of a status, in a simulated system. -/
def ownerIn (σ : Sim Stmt Stmt.Res PyExc Answer (Task .sample) Tables Ext Write Lock)
    (request_id : PyStr) : Option Nat :=
  (σ.db.request_statuses request_id).bind (·.user_id)

theorem belongsToOther_of_ownerIn
    {σ : Sim Stmt Stmt.Res PyExc Answer (Task .sample) Tables Ext Write Lock} {request_id : PyStr}
    {user owner : Nat} (h : ownerIn σ request_id = some owner) (hne : owner ≠ user) :
    BelongsToOther request_id user σ.toSystem.db := by
  obtain ⟨row, hrow, howner⟩ := Option.bind_eq_some_iff.mp h
  exact Or.inr ⟨row, owner, hrow, howner, hne⟩

theorem ownership_crossed :
    ∃ (h h' : List (Transition Stmt Stmt.Res PyExc Answer (Task .sample) Tables Ext Write Lock))
      (u t : Transition Stmt Stmt.Res PyExc Answer (Task .sample) Tables Ext Write Lock),
      WorkerRun .sample (fun _ => 0) sharedSystem (h ++ [u] ++ (h' ++ [t])) t.after ∧
      u.event = .began (.persist jobOf3) ∧ BelongsToOther "r1" 3 u.before.db ∧
      (∃ task a, t.event = .committed task a ∧ ActsFor "r1" 3 task) ∧
      BelongsToOther "r1" 3 t.before.db ∧
      t.before.db.lastSeq 7 = 1 ∧ t.after.db.lastSeq 7 = 2 ∧ ¬Isolated t := by
  -- what the two schedules reach, evaluated once: the rest reads it off
  have hplay : ((play (engine fun _ => 0) (program .sample) (wholeTransaction 0 queuedBy4 1)
      sharedSim).bind fun p =>
        (perform (engine fun _ => 0) (program .sample) (.begin 1 (.persist jobOf3)) p.2).bind
          fun q => (play (engine fun _ => 0) (program .sample) crossedScript q.2).bind fun p' =>
            (perform (engine fun _ => 0) (program .sample) (.commit 1) p'.2).map fun q' =>
              (persistedBy q'.1, [ownerIn p.2 "r1", ownerIn p'.2 "r1"],
                [p'.2.db.lastSeq 7, q'.2.db.lastSeq 7]))
      = some (some (PyStr.ofString "r1", 3), [some 4, some 4], [1, 2]) := by
    decide +kernel
  obtain ⟨p, hp, hplay⟩ := Option.bind_eq_some_iff.mp hplay
  obtain ⟨q, hq, hplay⟩ := Option.bind_eq_some_iff.mp hplay
  obtain ⟨p', hp', hplay⟩ := Option.bind_eq_some_iff.mp hplay
  obtain ⟨q', hq', hstate⟩ := Option.map_eq_some_iff.mp hplay
  simp only [Prod.mk.injEq, List.cons.injEq, and_true] at hstate
  obtain ⟨hactor, ⟨hqueued, howner⟩, hbefore, hafter⟩ := hstate
  obtain ⟨h, hrun, -⟩ := play_run hp
  obtain ⟨h', hrun', -⟩ := play_run hp'
  obtain ⟨task, a, he, hacts⟩ := actsFor_of_persistedBy hactor
  -- the request is still queued by 4 when the persist of 3 commits
  have hother := belongsToOther_of_ownerIn howner (show 4 ≠ 3 by decide)
  refine ⟨h, h', ⟨p.2.toSystem, q.1, q.2.toSystem⟩, ⟨p'.2.toSystem, q'.1, q'.2.toSystem⟩,
    (hrun.snoc (perform_step hq)).trans (hrun'.snoc (perform_step hq')), perform_begin hq,
    belongsToOther_of_ownerIn hqueued (by decide), ⟨task, a, he, hacts⟩, hother, hbefore, hafter,
    fun hisolated => ?_⟩
  -- isolation would leave the tables alone, and the counter moved
  have hsame : q'.2.toSystem.db = p'.2.toSystem.db := hisolated.foreign task a _ _ he hacts hother
  have hseq : q'.2.toSystem.db.lastSeq 7 = p'.2.toSystem.db.lastSeq 7 := by rw [hsame]
  exact absurd (hafter.symm.trans (hseq.trans hbefore)) (by decide)

end EventPipeline.Guarantees
