import EventPipeline.Portfolio.ListEvents
import EventPipeline.Worker.System

/-!
# EventPipeline.Guarantees.Pagination

Paging through a stream while it is written.

Message ids come from a sequence, so over all rooms they are committed in any order.
Within a room they are not: the id is drawn while the counter of the room is locked,
so a message has a larger id than all messages its room had before. Reading the room
by decreasing id is then a keyset scan of a table that grows at its end.
-/

namespace EventPipeline.Guarantees

open EventPipeline.Python EventPipeline.Portfolio EventPipeline.Postgres
open EventPipeline.Concurrency EventPipeline.Worker

variable {rt : Runtime} {hash : PyStr → Int}

/-! ### Ids and sequence numbers of a room

The id of a message is drawn under the lock of its room. So within a room the order of the ids is
that of the sequence numbers and of the commits, whatever goes on in other rooms. -/

/-- In every room ids and sequence numbers increase in the order of the commits, and
no sequence number is above the counter. -/
structure InOrder (t : Tables) : Prop where
  rooms : ∀ room, (roomMessages t room).Pairwise fun a b => a.id < b.id ∧ a.room_seq < b.room_seq
  counter : ∀ m ∈ t.messages, m.room_seq ≤ t.lastSeq m.room_id

/-- The messages have only grown, by messages with larger ids than their room had. -/
def Appends (t t' : Tables) : Prop :=
  ∃ new, t'.messages = t.messages ++ new ∧
    ∀ m ∈ t.messages, ∀ m' ∈ new, m.room_id = m'.room_id → m.id < m'.id

theorem Appends.refl (t : Tables) : Appends t t := ⟨[], by simp, by simp⟩

theorem Appends.of_eq {t t' : Tables} (h : t'.messages = t.messages) : Appends t t' :=
  ⟨[], by simp [h], by simp⟩

theorem Appends.trans {a b c : Tables} (h : Appends a b) (h' : Appends b c) : Appends a c := by
  obtain ⟨new, hb, hnew⟩ := h
  obtain ⟨new', hc, hnew'⟩ := h'
  refine ⟨new ++ new', by rw [hc, hb, List.append_assoc], fun m hm m' hm' hroom => ?_⟩
  rcases List.mem_append.mp hm' with hm' | hm'
  · exact hnew m hm m' hm' hroom
  · exact hnew' m (by rw [hb]; exact List.mem_append_left _ hm) m' hm' hroom

/-- No new message, and no counter that went back. -/
theorem InOrder.of_same {t t' : Tables} (h : InOrder t) (hm : t'.messages = t.messages)
    (hs : ∀ room, t.lastSeq room ≤ t'.lastSeq room) : InOrder t' where
  rooms room := by
    rw [roomMessages, hm]
    exact h.rooms room
  counter m hmem := (h.counter m (hm ▸ hmem)).trans (hs m.room_id)

/-- A new message, under the counter of its room. -/
theorem InOrder.insert {t t' : Tables} {row : MessageRow} (h : InOrder t)
    (hm : t'.messages = t.messages ++ [row])
    (hs : t'.room_sequences = Function.update t.room_sequences row.room_id (some row.room_seq))
    (hnext : row.room_seq = t.lastSeq row.room_id + 1)
    (hid : ∀ m ∈ t.messages, m.room_id = row.room_id → m.id < row.id) : InOrder t' where
  rooms room := by
    rw [roomMessages, hm, List.filter_append]
    refine List.pairwise_append.mpr ⟨h.rooms room, (List.pairwise_singleton _ row).filter _, ?_⟩
    intro a ha b hb
    obtain ⟨ha, haroom⟩ := List.mem_filter.mp ha
    obtain ⟨hb, hbroom⟩ := List.mem_filter.mp hb
    obtain rfl := List.mem_singleton.mp hb
    simp only [decide_eq_true_eq] at haroom hbroom
    have hroom : a.room_id = b.room_id := haroom.trans hbroom.symm
    refine ⟨hid a ha hroom, ?_⟩
    -- older messages are at or below the counter, and the new one is above it
    have hle := h.counter a ha
    rw [hroom] at hle
    omega
  counter m hmem := by
    rw [Tables.lastSeq, hs, Function.update_apply]
    rw [hm] at hmem
    rcases List.mem_append.mp hmem with hmem | hmem
    · have hle := h.counter m hmem
      -- in its own room the counter has moved up, elsewhere it stands
      split_ifs with hroom
      · rw [hroom] at hle
        simp only [Option.getD_some]
        omega
      · exact hle
    · obtain rfl := List.mem_singleton.mp hmem
      simp

/-! ### Every run -/

/-- A commit keeps the order and only appends. Of the four ends of `persist_event` one adds a
message, with the next number of its room and an id above all others. -/
theorem inOrder_commit {v : ValidatedJob rt} {response : Dict} {view : TxView} {t' : Tables}
    (h : InOrder view.db)
    (hpost : PersistPost (fun _ : WorkerEvent rt => True) (.persist v) hash v.job response view)
    (hafter : t' = (engine hash).applyAll view.writes view.db) :
    InOrder t' ∧ Appends view.db t' := by
  subst hafter
  cases hpost with
  | hit key m st hstored hresponds hst hw =>
      obtain ⟨hsame, hseq⟩ := sameRows_status hash hst view.db
      rw [hw]
      exact ⟨h.of_same hsame.messages fun room => by rw [Tables.lastSeq, Tables.lastSeq, hseq],
        .of_eq hsame.messages⟩
  | existing m st hnone hm hrid hroom huser hresponds hst hw =>
      obtain ⟨hsame, hseq⟩ := sameRows_status hash hst view.db
      rw [hw]
      exact ⟨h.of_same hsame.messages fun room => by rw [Tables.lastSeq, Tables.lastSeq, hseq],
        .of_eq hsame.messages⟩
  -- the counter moves to a later number, and no message comes with it
  | ownDuplicate n seq m st hnone hn hlock hseq hlt hm hrid hroom hmseq hok hresponds hst hw =>
      have hsame := sameRows_sequence hash hst v.job.room_id n view.db
      rw [hw]
      refine ⟨h.of_same hsame.messages fun room => ?_, .of_eq hsame.messages⟩
      obtain ⟨status, rfl, -⟩ := hst.written
      show view.db.lastSeq room ≤ (Function.update view.db.room_sequences v.job.room_id
        (some n) room).getD 0
      rw [Function.update_apply]
      split_ifs with heq
      · rw [heq, hn]
        simp
      · exact le_refl _
  -- the only end that adds a message: with the next number and the last id
  | fresh n row st o hnone hfresh hmok hresponds hst hfor hpub hw =>
      have hadds := addsRow_fresh hash hst n row o view.db
      have hid : ∀ m ∈ view.db.messages, m.room_id = row.room_id → m.id < row.id := by
        rw [hfresh.room_id]
        exact hfresh.id_last
      rw [hw]
      refine ⟨h.insert hadds.messages ?_ ?_ hid, [row], hadds.messages, ?_⟩
      · rw [hadds.sequences, hfresh.room_id, hfresh.room_seq]
      · rw [hfresh.room_id, hfresh.room_seq]
        exact hfresh.counter
      · intro m hm m' hm' hroom
        obtain rfl := List.mem_singleton.mp hm'
        exact hid m hm hroom

theorem inOrder_step {s s' : WorkerSystem rt} {e : WorkerEvent rt} (h : InOrder s.db)
    (hgood : (pipeline hash).Good (fun _ => True) (TaskPost (fun _ => True) hash) TaskRefused s)
    (hstep : Step (engine hash) (program rt) s e s') : InOrder s'.db ∧ Appends s.db s'.db := by
  rcases step_tables hgood hstep with ⟨v, response, view, rfl, hdb, hpost, hafter⟩ | hsame
  · rw [← hdb] at h ⊢
    exact inOrder_commit h hpost hafter
  · exact ⟨h.of_same hsame.messages fun room => by
      rw [Tables.lastSeq, Tables.lastSeq, hsame.sequences], .of_eq hsame.messages⟩

theorem inOrder_empty (rooms users : Nat → Bool) (members : Nat → Nat → Bool) :
    InOrder (.empty rooms users members) :=
  ⟨fun _ => by simp [roomMessages, Tables.empty], by simp [Tables.empty]⟩

section Runs

variable {rooms users : Nat → Bool} {members : Nat → Nat → Bool}
variable {h : List (Transition Stmt Stmt.Res PyExc Answer (Task rt) Tables Ext Write Lock)}
variable {s : WorkerSystem rt}

theorem inOrder_run (hrun : WorkerRun rt hash (emptySystem rt rooms users members) h s) :
    InOrder s.db := by
  induction hrun with
  | nil => exact inOrder_empty rooms users members
  | snoc hrun hstep ih => exact (inOrder_step ih (workerRun_good hrun fun _ _ => trivial) hstep).1

/-- What runs on only appends: every step does (`inOrder_step`), and appending is transitive. -/
theorem appends_run {h' : List (Transition Stmt Stmt.Res PyExc Answer (Task rt) Tables Ext Write
      Lock)} {s' : WorkerSystem rt}
    (hrun : WorkerRun rt hash (emptySystem rt rooms users members) h s)
    (hon : WorkerRun rt hash s h' s') : Appends s.db s'.db := by
  induction hon with
  | nil => exact .refl _
  | snoc hon hstep ih =>
      have hwhole := hrun.trans hon
      exact ih.trans (inOrder_step (inOrder_run hwhole) (workerRun_good hwhole fun _ _ => trivial)
        hstep).2

end Runs

/-! ### A reader among the writers

A page is asked for by the last id of the page before. What is committed between two pages has a
larger id than all that the reader still has to see. -/

/-- A reader asks for page after page, each below the last id of the page before,
until a page is empty; the writers run on between two pages. -/
inductive Reading (rt : Runtime) (hash : PyStr → Int) (stream_id user_id : Nat) :
    WorkerSystem rt → Option Nat → List Dict → Prop
  | done {s before_id limit} : 0 < limit →
      listEvents s.db stream_id limit before_id user_id = .ok [] →
      Reading rt hash stream_id user_id s before_id []
  | more {s s' before_id limit items last id h rest} :
      listEvents s.db stream_id limit before_id user_id = .ok items →
      items.getLast? = some last → last.get? "id" = some (.int (Int.ofNat id)) →
      WorkerRun rt hash s h s' → Reading rt hash stream_id user_id s' (some id) rest →
      Reading rt hash stream_id user_id s before_id (items ++ rest)

/-- A page is a page of the keyset. -/
theorem listEvents_ok {t : Tables} {stream_id limit user_id : Nat} {before_id : Option Nat}
    {items : List Dict} (h : listEvents t stream_id limit before_id user_id = .ok items) :
    items = (Keyset.page MessageRow.id before_id limit (roomMessages t stream_id)).map
      eventRowToResponse := by
  simp only [listEvents, bind_eq_ok, pure, Except.pure, Except.ok.injEq] at h
  obtain ⟨-, -, rfl⟩ := h
  rfl

theorem increasing_of_inOrder {t : Tables} (h : InOrder t) (room : Nat) :
    Keyset.Increasing MessageRow.id (roomMessages t room) := (h.rooms room).imp And.left

/-- The room's messages extend as a keyset. -/
theorem extends_of_appends {t t' : Tables} (h : Appends t t') (ht' : InOrder t') (room : Nat) :
    Keyset.Extends MessageRow.id (roomMessages t room) (roomMessages t' room) := by
  obtain ⟨new, hnew, -⟩ := h
  refine ⟨new.filter fun m => m.room_id = room, ?_, increasing_of_inOrder ht' room⟩
  rw [roomMessages, hnew, List.filter_append, roomMessages]

theorem eventRowToResponse_id (row : MessageRow) :
    (eventRowToResponse row).get? "id" = some (.int (Int.ofNat row.id)) := by
  simp [eventRowToResponse]

/-- What a reader gets is a scan of the room's messages. -/
theorem scan_of_reading {rooms users : Nat → Bool} {members : Nat → Nat → Bool}
    {h : List (Transition Stmt Stmt.Res PyExc Answer (Task rt) Tables Ext Write Lock)}
    {s : WorkerSystem rt} {stream_id user_id : Nat} {before_id : Option Nat} {items : List Dict}
    (hrun : WorkerRun rt hash (emptySystem rt rooms users members) h s)
    (hreading : Reading rt hash stream_id user_id s before_id items) :
    ∃ rows, items = rows.map eventRowToResponse ∧
      Keyset.Scan MessageRow.id (roomMessages s.db stream_id) before_id rows := by
  induction hreading generalizing h with
  | done hlimit hpage =>
      have hnil := listEvents_ok hpage
      exact ⟨[], rfl, .done hlimit (List.map_eq_nil_iff.mp hnil.symm)⟩
  | @more s s' before_id limit items last id h' rest hpage hlast hid hon _ ih =>
      have hwhole := hrun.trans hon
      obtain ⟨rows, rfl, hscan⟩ := ih hwhole
      obtain rfl := listEvents_ok hpage
      rw [List.getLast?_map, Option.map_eq_some_iff] at hlast
      obtain ⟨row, hrow, rfl⟩ := hlast
      rw [eventRowToResponse_id] at hid
      obtain rfl : row.id = id := by simpa using hid
      refine ⟨_ ++ rows, by rw [List.map_append], .more hrow ?_ hscan⟩
      exact extends_of_appends (appends_run hrun hon) (inOrder_run hwhole) stream_id

/-- In an ordered room sequence numbers and ids compare alike. -/
theorem seq_lt_iff {rows : List MessageRow}
    (h : rows.Pairwise fun a b => a.id < b.id ∧ a.room_seq < b.room_seq) :
    ∀ m ∈ rows, ∀ m' ∈ rows, m.room_seq < m'.room_seq ↔ m.id < m'.id := by
  intro m hm m' hm'
  refine List.Pairwise.forall_of_forall_of_flip (R := fun a b : MessageRow =>
    a.room_seq < b.room_seq ↔ a.id < b.id) (by simp) (h.imp ?_) (h.imp ?_) hm hm'
  · rintro a b ⟨hid, hseq⟩
    exact iff_of_true hseq hid
  · rintro a b ⟨hid, hseq⟩
    exact iff_of_false hseq.not_gt hid.not_gt

/-- **Paging is complete and stable.** Whatever the worker's transactions do among each
other: within a room ids and sequence numbers increase together, a message committed
later has a larger id, and a reader that starts anywhere gets the room's messages of
that time, each once, newest first.

Every commit keeps `InOrder` and only appends (`inOrder_step`), since it draws the id under the
lock of the room's counter. So the room is an increasing keyset at every page of a reader and
grows at its end between two pages (`scan_of_reading`), and of such a scan the general fact is
`Keyset.Scan.complete`. -/
theorem pagination_complete {rooms users : Nat → Bool} {members : Nat → Nat → Bool}
    {h : List (Transition Stmt Stmt.Res PyExc Answer (Task rt) Tables Ext Write Lock)}
    {s : WorkerSystem rt} (hrun : WorkerRun rt hash (emptySystem rt rooms users members) h s) :
    (∀ m ∈ s.db.messages, ∀ m' ∈ s.db.messages, m.room_id = m'.room_id →
      (m.room_seq < m'.room_seq ↔ m.id < m'.id)) ∧
    (∀ t ∈ h, ∀ m ∈ t.before.db.messages, ∀ m' ∈ t.after.db.messages,
      m' ∉ t.before.db.messages → m.room_id = m'.room_id → m.id < m'.id) ∧
    ∀ stream_id user_id items, Reading rt hash stream_id user_id s none items →
      ∃ rows : List MessageRow, items = rows.map eventRowToResponse ∧
        rows.Perm (roomMessages s.db stream_id) ∧ rows.Pairwise fun a b => b.room_seq < a.room_seq := by
  refine ⟨fun m hm m' hm' hroom => ?_, fun t ht m hm m' hm' hnew hroom => ?_,
    fun stream_id user_id items hreading => ?_⟩
  · have hord := (inOrder_run hrun).rooms m.room_id
    have hmem : m ∈ roomMessages s.db m.room_id := List.mem_filter.mpr ⟨hm, by simp⟩
    have hmem' : m' ∈ roomMessages s.db m.room_id := List.mem_filter.mpr ⟨hm', by simp [hroom]⟩
    exact seq_lt_iff hord m hmem m' hmem'
  · obtain ⟨h', -, hrun', hstep⟩ := hrun.of_mem ht
    obtain ⟨new, happ, hlt⟩ :=
      (inOrder_step (inOrder_run hrun') (workerRun_good hrun' fun _ _ => trivial) hstep).2
    rw [happ] at hm'
    exact hlt m hm m' ((List.mem_append.mp hm').resolve_left hnew) hroom
  · obtain ⟨rows, rfl, hscan⟩ := scan_of_reading hrun hreading
    have hord := (inOrder_run hrun).rooms stream_id
    obtain rfl := hscan.complete (increasing_of_inOrder (inOrder_run hrun) stream_id)
    exact ⟨_, rfl, List.reverse_perm _, List.pairwise_reverse.mpr (hord.imp And.right)⟩

/-- The page of a room in order: the last messages below the bound, the newest first. -/
theorem listEvents_eq {s : WorkerSystem rt} (hord : InOrder s.db) {stream_id user_id : Nat}
    (hmember : ensureRoomMember s.db stream_id user_id = .ok ()) (limit : Nat)
    (before_id : Option Nat) : listEvents s.db stream_id limit before_id user_id =
      .ok (((Keyset.below MessageRow.id before_id (roomMessages s.db stream_id)).reverse.take
        limit).map eventRowToResponse) := by
  rw [listEvents, hmember, Keyset.page_eq (increasing_of_inOrder hord stream_id)]
  rfl

/-- Two events stored before the reader comes, and one while it is reading. -/
def storedBefore : List (Action (Task .sample) Choice) :=
  wholeTransaction 0 (.persist sampleJob) 7 ++
    wholeTransaction 0 (.persist (plainJob "r2" (by decide +kernel))) 7

def storedMeanwhile : List (Action (Task .sample) Choice) :=
  wholeTransaction 0 (.persist (plainJob "r3" (by decide +kernel))) 7

/-- Pages of one item each, with a commit after the first: the reader gets the two messages of
the time it began, newest first, and not the third. -/
theorem pagination_complete_sample :
    ∃ (s s' : WorkerSystem .sample)
      (h : List (Transition Stmt Stmt.Res PyExc Answer (Task .sample) Tables Ext Write Lock))
      (page rest : List Dict),
      listEvents s.db 7 1 none 3 = .ok page ∧ WorkerRun .sample (fun _ => 0) s h s' ∧
      (roomMessages s'.db 7).length = 3 ∧ Reading .sample (fun _ => 0) 7 3 s' (some 2) rest ∧
      (page ++ rest).length = 2 ∧
      ∃ rows : List MessageRow, page ++ rest = rows.map eventRowToResponse ∧
        rows.Perm (roomMessages s.db 7) ∧ rows.Pairwise fun a b => b.room_seq < a.room_seq := by
  -- two messages before the first page, and one more before the second
  have hplay : ((play (engine fun _ => 0) (program .sample) storedBefore sampleSim).bind fun p =>
      (play (engine fun _ => 0) (program .sample) storedMeanwhile p.2).map fun q =>
        ((roomMessages p.2.db 7).map (·.id), (roomMessages q.2.db 7).map (·.id),
          p.2.db.rooms 7 && p.2.db.room_members 7 3, q.2.db.rooms 7 && q.2.db.room_members 7 3))
      = some ([1, 2], [1, 2, 3], true, true) := by decide +kernel
  obtain ⟨p, hp, hplay⟩ := Option.bind_eq_some_iff.mp hplay
  obtain ⟨q, hq, hstate⟩ := Option.map_eq_some_iff.mp hplay
  simp only [Prod.mk.injEq, List.map_eq_cons_iff, List.map_eq_nil_iff] at hstate
  obtain ⟨⟨a, _, hbefore, ha, b, _, rfl, hb, rfl⟩, ⟨a', _, hafter, ha', b', _, rfl, hb', c', _,
    rfl, hc', rfl⟩, hmember, hmember'⟩ := hstate
  obtain ⟨h, hrun, -⟩ := sampleRun hp
  obtain ⟨h', hrun', -⟩ := play_run hq
  have hpage := listEvents_eq (s := p.2.toSystem) (inOrder_run hrun) (if_pos hmember) 1
  have hpage' := listEvents_eq (s := q.2.toSystem) (inOrder_run (hrun.trans hrun'))
    (if_pos hmember') 1
  -- the newest message is on the first page; the second starts below its id
  have hfirst : listEvents p.2.toSystem.db 7 1 none 3 = .ok [eventRowToResponse b] := by
    rw [hpage none]
    show Except.ok ((((roomMessages p.2.db 7).reverse).take 1).map eventRowToResponse) = _
    rw [hbefore]
    rfl
  have hsecond : listEvents q.2.toSystem.db 7 1 (some 2) 3 = .ok [eventRowToResponse a'] := by
    rw [hpage' (some 2)]
    show Except.ok ((((roomMessages q.2.db 7).filter fun m => m.id < 2).reverse.take 1).map
      eventRowToResponse) = _
    simp [hafter, ha', hb', hc']
  -- nothing is below the oldest message: the empty page ends the reading
  have hthird : listEvents q.2.toSystem.db 7 1 (some 1) 3 = .ok [] := by
    rw [hpage' (some 1)]
    show Except.ok ((((roomMessages q.2.db 7).filter fun m => m.id < 1).reverse.take 1).map
      eventRowToResponse) = _
    simp [hafter, ha', hb', hc']
  have hrest : Reading .sample (fun _ => 0) 7 3 q.2.toSystem (some 2) [eventRowToResponse a'] :=
    .more hsecond rfl (ha' ▸ eventRowToResponse_id a') .nil (.done Nat.one_pos hthird)
  have hreading : Reading .sample (fun _ => 0) 7 3 p.2.toSystem none
      ([eventRowToResponse b] ++ [eventRowToResponse a']) :=
    .more hfirst rfl (hb ▸ eventRowToResponse_id b) hrun' hrest
  have hcomplete := (pagination_complete hrun).2.2 7 3 _ hreading
  exact ⟨p.2.toSystem, q.2.toSystem, h', _, _, hfirst, hrun', by simp [Sim.toSystem, hafter], hrest,
    rfl, hcomplete⟩

end EventPipeline.Guarantees
