import EventPipeline.Worker.System
import Mathlib.Order.Interval.Set.Defs

/-!
# EventPipeline.Guarantees.RoomSequence

The counter of a room and the sequence numbers of its messages.

The counter is bumped before an explicit sequence number is compared with it. All
paths that then leave without a message raise, and the bump is rolled back with
them, except one: a request that finds its own message under its explicit number
returns that message and commits the bump. `roomSequence_gapless` is the guarantee
for runs that never take this path, `roomSequence_gap` a run that does.
-/

namespace EventPipeline.Guarantees

open EventPipeline.Python EventPipeline.Portfolio EventPipeline.Postgres
open EventPipeline.Concurrency EventPipeline.Worker

variable {rt : Runtime} {hash : PyStr → Int}

/-- The sequence numbers of a room's messages. -/
def roomSeqs (t : Tables) (room : Nat) : Set Nat :=
  {k | ∃ m ∈ t.messages, m.room_id = room ∧ m.room_seq = k}

/-- In every room the messages are numbered from one to the counter. -/
def Gapless (t : Tables) : Prop := ∀ room, roomSeqs t room = Set.Icc 1 (t.lastSeq room)

/-- A persist transaction, past the counter, finds the message of its own request
under its explicit sequence number. -/
def FindsOwnMessage : WorkerEvent rt → Prop
  | .ran (.persist v) (.selectMessageBySeq _ _) (some m) => m.request_id = v.job.request_id
  | _ => False

/-- `FindsOwnMessage`, decided. -/
def findsOwnMessage : WorkerEvent rt → Bool
  | .ran (.persist v) (.selectMessageBySeq _ _) (some m) => m.request_id = v.job.request_id
  | _ => false

theorem findsOwnMessage_iff (e : WorkerEvent rt) :
    findsOwnMessage e = true ↔ FindsOwnMessage e := by
  unfold findsOwnMessage FindsOwnMessage
  split <;> simp

instance : DecidablePred (@FindsOwnMessage rt) := fun e =>
  decidable_of_iff (findsOwnMessage e = true) (findsOwnMessage_iff e)

theorem gapless_empty (rooms users : Nat → Bool) (members : Nat → Nat → Bool) :
    Gapless (.empty rooms users members) := by
  intro room
  ext k
  simp only [roomSeqs, Tables.empty, List.not_mem_nil, false_and, exists_false, Set.mem_ofPred_eq,
    false_iff, Set.mem_Icc, Tables.lastSeq, Option.getD_none]
  omega

/-- Tables with the same messages and counters. -/
theorem Gapless.of_same {t t' : Tables} (h : Gapless t) (hm : t'.messages = t.messages)
    (hs : t'.room_sequences = t.room_sequences) : Gapless t' := by
  intro room
  rw [roomSeqs, hm, Tables.lastSeq, hs]
  exact h room

/-- A new message that takes the next number of its room. -/
theorem Gapless.insert {t t' : Tables} {row : MessageRow} (h : Gapless t)
    (hm : t'.messages = t.messages ++ [row])
    (hs : t'.room_sequences = Function.update t.room_sequences row.room_id (some row.room_seq))
    (hnext : row.room_seq = t.lastSeq row.room_id + 1) : Gapless t' := by
  intro room
  ext k
  have hold : (∃ m ∈ t.messages, m.room_id = room ∧ m.room_seq = k) ↔
      1 ≤ k ∧ k ≤ t.lastSeq room := by
    rw [← Set.mem_Icc, ← h room]
    rfl
  have hnew : (∃ m ∈ t'.messages, m.room_id = room ∧ m.room_seq = k) ↔
      (∃ m ∈ t.messages, m.room_id = room ∧ m.room_seq = k) ∨
        (row.room_id = room ∧ row.room_seq = k) := by
    rw [hm]
    simp only [List.mem_append, List.mem_singleton]
    constructor
    · rintro ⟨m, hmem | rfl, hrest⟩
      · exact Or.inl ⟨m, hmem, hrest⟩
      · exact Or.inr hrest
    · rintro (⟨m, hmem, hrest⟩ | hrest)
      · exact ⟨m, Or.inl hmem, hrest⟩
      · exact ⟨row, Or.inr rfl, hrest⟩
  rw [roomSeqs, Set.mem_ofPred_eq, hnew, hold, Set.mem_Icc]
  -- in the room of the message `1..n` grows to `1..n+1`; the others are as they were
  by_cases hroom : room = row.room_id
  · subst hroom
    have hlast : t'.lastSeq row.room_id = t.lastSeq row.room_id + 1 := by
      rw [Tables.lastSeq, hs, Function.update_self, Option.getD_some, hnext]
    omega
  · have hlast : t'.lastSeq room = t.lastSeq room := by
      rw [Tables.lastSeq, hs, Function.update_of_ne hroom, Tables.lastSeq]
    have hne : ¬row.room_id = room := fun heq => hroom heq.symm
    simp [hlast, hne]

/-- A commit that did not take the bump of a duplicate keeps the numbering. -/
theorem gapless_commit {v : ValidatedJob rt} {response : Dict} {view : TxView} {t' : Tables}
    (h : Gapless view.db)
    (hpost : PersistPost (fun e => ¬FindsOwnMessage e) (.persist v) hash v.job response view)
    (hafter : t' = (engine hash).applyAll view.writes view.db) : Gapless t' := by
  subst hafter
  cases hpost with
  | hit key m st hstored hresponds hst hw =>
      obtain ⟨hsame, hseq⟩ := sameRows_status hash hst view.db
      rw [hw]
      exact h.of_same hsame.messages hseq
  | existing m st hnone hm hrid hroom huser hresponds hst hw =>
      obtain ⟨hsame, hseq⟩ := sameRows_status hash hst view.db
      rw [hw]
      exact h.of_same hsame.messages hseq
  | ownDuplicate n seq m st hnone hn hlock hseq hlt hm hrid hroom hmseq hok hresponds hst hw =>
      exact absurd hrid hok
  | fresh n row st o hnone hfresh hmok hresponds hst hfor hpub hw =>
      have hadds := addsRow_fresh hash hst n row o view.db
      rw [hw]
      refine h.insert hadds.messages ?_ ?_
      · rw [hadds.sequences, hfresh.room_id, hfresh.room_seq]
      · rw [hfresh.room_id, hfresh.room_seq]
        exact hfresh.counter

theorem gapless_step {s s' : WorkerSystem rt} {e : WorkerEvent rt} (h : Gapless s.db)
    (hgood : (pipeline hash).Good (fun e => ¬FindsOwnMessage e)
      (TaskPost (fun e => ¬FindsOwnMessage e) hash) TaskRefused s)
    (hstep : Step (engine hash) (program rt) s e s') : Gapless s'.db := by
  rcases step_tables hgood hstep with ⟨v, response, view, rfl, hdb, hpost, hafter⟩ | hsame
  · exact gapless_commit (hdb ▸ h) hpost hafter
  · exact h.of_same hsame.messages hsame.sequences

/-- **No gap.** From empty tables, whatever transactions do among each other: as long
as no persist finds its own message past the counter, every room is numbered from
one to its counter.

The induction is over the run. A step keeps every room numbered up to its counter
(`gapless_step`): the transaction holds the lock of the counter from its update to its commit, and
what it inserts has the number it drew. Finding its own message is the one way to commit the
counter without the message. -/
theorem roomSequence_gapless {rooms users : Nat → Bool} {members : Nat → Nat → Bool}
    {h : List (Transition Stmt Stmt.Res PyExc Answer (Task rt) Tables Ext Write Lock)}
    {s : WorkerSystem rt} (hrun : WorkerRun rt hash (emptySystem rt rooms users members) h s)
    (hown : ∀ t ∈ h, ¬FindsOwnMessage t.event) : Gapless s.db := by
  induction hrun with
  | nil => exact gapless_empty rooms users members
  | snoc hrun hstep ih =>
      have hbefore := fun t ht => hown t (List.mem_append_left _ ht)
      exact gapless_step (ih hbefore) (workerRun_good hrun hbefore) hstep

/-- One event with the explicit number `1`. -/
def numberedJob : ValidatedJob .sample :=
  .ofObject _ (sampleObject_unique "r1" (.int 1) .null (by simp [Json.Unique])
    (by simp [Json.Unique])) (by decide +kernel)

/-- One event stored. -/
def sampleStored : List (Action (Task .sample) Choice) :=
  wholeTransaction 0 (.persist numberedJob) 7

theorem roomSequence_gapless_sample :
    ∃ s : WorkerSystem .sample, s.db.lastSeq 7 = 1 ∧ Gapless s.db := by
  have hplay : ((play (engine fun _ => 0) (program .sample) sampleStored sampleSim).map
      fun p => (p.2.db.lastSeq 7, decide (∀ e ∈ p.1, ¬FindsOwnMessage e))) = some (1, true) := by
    decide +kernel
  obtain ⟨p, hp, hstate⟩ := Option.map_eq_some_iff.mp hplay
  obtain ⟨hlast, hown⟩ := Prod.mk.inj hstate
  obtain ⟨h, hrun, hevents⟩ := sampleRun hp
  refine ⟨p.2.toSystem, hlast, roomSequence_gapless hrun fun t ht => ?_⟩
  exact of_decide_eq_true hown _ (hevents ▸ List.mem_map_of_mem ht)

/-- The event delivered to two workers: the second looks for the request before the
first commits, and bumps the counter after. -/
def sampleRedelivery : List (Action (Task .sample) Choice) :=
  [.begin 1 (.persist numberedJob), .stmt 1 ⟨true, none⟩, .stmt 1 ⟨true, none⟩]
    ++ sampleStored ++ List.replicate 5 (.stmt 1 ⟨true, none⟩) ++ [.commit 1]

theorem roomSequence_gap :
    ∃ (h : List (Transition Stmt Stmt.Res PyExc Answer (Task .sample) Tables Ext Write Lock))
      (s : WorkerSystem .sample),
      WorkerRun .sample (fun _ => 0)
        (emptySystem .sample (· == 7) (· == 3) fun room user => room == 7 && user == 3) h s ∧
      s.db.lastSeq 7 = 2 ∧ s.db.messages.map (·.room_seq) = [1] ∧ ¬Gapless s.db := by
  have hplay : ((play (engine fun _ => 0) (program .sample) sampleRedelivery sampleSim).map
      fun p => (p.2.db.lastSeq 7, p.2.db.messages.map (·.room_seq))) = some (2, [1]) := by
    decide +kernel
  obtain ⟨p, hp, hstate⟩ := Option.map_eq_some_iff.mp hplay
  obtain ⟨h, hrun, -⟩ := sampleRun hp
  obtain ⟨hlast, hseqs⟩ := Prod.mk.inj hstate
  refine ⟨h, p.2.toSystem, hrun, hlast, hseqs, fun hgapless => ?_⟩
  have hmem : 2 ∈ roomSeqs p.2.toSystem.db 7 := by
    rw [hgapless 7, Set.mem_Icc]
    exact ⟨by decide, hlast.ge⟩
  obtain ⟨m, hm, -, hseq⟩ := hmem
  have hone : m.room_seq ∈ [1] := hseqs ▸ List.mem_map_of_mem hm
  simp [hseq] at hone

end EventPipeline.Guarantees
