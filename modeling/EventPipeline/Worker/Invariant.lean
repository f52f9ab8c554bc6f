import EventPipeline.Postgres.Locking
import EventPipeline.Worker.Stored

/-!
# EventPipeline.Worker.Invariant

What holds of the committed tables whatever the worker's transactions do to them:
messages are well formed and have distinct ids and request ids, the outbox lists
exactly the messages, an attempt names a message and no message has two, and an
idempotency row holds the response of a message of its own actor and stream.

`pipeline` is the locking discipline with this invariant; the transactions are
checked against it one by one, alone.
-/

namespace EventPipeline.Worker

open EventPipeline.Python EventPipeline.Portfolio EventPipeline.Postgres
open EventPipeline.Concurrency

/-! ### The invariant

`Inv` is about the committed rows alone. Each clause relates two tables: a message and its outbox
row, a stored response and its message, an attempt and its target. -/

/-- The outbox row of a message. -/
structure OutboxFor (x : Ext) (m : MessageRow) (o : OutboxRow) : Prop where
  message_id : o.message_id = m.id
  room_id : o.room_id = m.room_id
  payload : o.payload = notificationOf m
  published : o.published_at ≠ none → (o.room_id, o.payload) ∈ x.acknowledged

/-- The key of an idempotency row: the route of the message's stream, scoped to its
actor. -/
def ScopedTo (key : IdempotencyKey) (m : MessageRow) : Prop :=
  ∃ route r k, matchIngressRoute route = some r ∧ r.stream_id = m.room_id ∧
    key = (idempotencyRoute route m.user_id, k)

/-- The invariant of the committed tables. -/
structure Inv (t : Tables) (x : Ext) : Prop where
  messages : ∀ m ∈ t.messages, MessageOk m
  ids : (t.messages.map (·.id)).Nodup
  request_ids : (t.messages.map (·.request_id)).Nodup
  id_lt : ∀ m ∈ t.messages, m.id < x.nextId
  nextId_pos : 0 < x.nextId
  outbox : List.Forall₂ (OutboxFor x) t.messages t.notification_outbox
  attempts : (t.notification_attempts.map (·.message_id)).Nodup
  targets : ∀ a ∈ t.notification_attempts,
    ∃ m ∈ t.messages, m.id = a.message_id ∧ m.room_id = a.room_id
  idempotency : ∀ key v, t.idempotency_keys key = some v →
    ∃ m ∈ t.messages, ScopedTo key m ∧ v = .obj (messageRowResponse m)
  acknowledged : ∀ p ∈ x.acknowledged, ∃ m ∈ t.messages, p = (m.room_id, notificationOf m)

/-- What the worker publishes: the notification of a stored message. -/
def Asks : Stmt → Tables → Prop
  | .publishNotification room_id payload, t =>
      ∃ m ∈ t.messages, room_id = m.room_id ∧ payload = notificationOf m
  | _, _ => True

/-- The rooms, the users and the memberships are the same. -/
structure SameRegistry (t t' : Tables) : Prop where
  rooms : t'.rooms = t.rooms
  users : t'.users = t.users
  room_members : t'.room_members = t.room_members

/-- The status of a request is owned by a user. -/
def OwnedBy (t : Tables) (request_id : PyStr) (owner : Nat) : Prop :=
  ∃ row, t.request_statuses request_id = some row ∧ row.user_id = some owner

/-- Every owned status is still its owner's. -/
def KeepsOwners (t t' : Tables) : Prop :=
  ∀ request_id owner, OwnedBy t request_id owner → OwnedBy t' request_id owner

/-- How the committed tables grow: messages are appended behind the counter of their
stream, and what is stored under a key or owned by a user stays so. -/
structure Grows (t : Tables) (x : Ext) (t' : Tables) (x' : Ext) : Prop where
  registry : SameRegistry t t'
  appended : t.messages <+: t'.messages
  counters : ∀ room, t.lastSeq room ≤ t'.lastSeq room
  numbered : ∀ m ∈ t'.messages, m ∈ t.messages ∨ t.lastSeq m.room_id < m.room_seq
  idempotency : ∀ key v, t.idempotency_keys key = some v → t'.idempotency_keys key = some v
  owners : KeepsOwners t t'
  ext : x.Le x'

theorem Grows.messages {t t' : Tables} {x x' : Ext} (h : Grows t x t' x') :
    t.messages ⊆ t'.messages := h.appended.subset

theorem OutboxFor.of_le {x x' : Ext} {m : MessageRow} {o : OutboxRow} (h : OutboxFor x m o)
    (hle : x.Le x') : OutboxFor x' m o :=
  ⟨h.message_id, h.room_id, h.payload, fun hp => hle.acknowledged (h.published hp)⟩

theorem Inv.of_le {t : Tables} {x x' : Ext} (h : Inv t x) (hle : x.Le x')
    (hack : ∀ p ∈ x'.acknowledged, ∃ m ∈ t.messages, p = (m.room_id, notificationOf m)) :
    Inv t x' where
  messages := h.messages
  ids := h.ids
  request_ids := h.request_ids
  id_lt m hm := (h.id_lt m hm).trans_le hle.nextId
  nextId_pos := h.nextId_pos.trans_le hle.nextId
  outbox := h.outbox.imp fun _ _ ho => ho.of_le hle
  attempts := h.attempts
  targets := h.targets
  idempotency := h.idempotency
  acknowledged := hack

theorem Inv.of_step {s : Stmt} {t : Tables} {x x' : Ext} (h : Inv t x) (hstep : Ext.Step s x x')
    (hasks : Asks s t) : Inv t x' := by
  refine h.of_le hstep.toLe fun p hp => ?_
  rcases hstep.only p hp with hp | rfl
  · exact h.acknowledged p hp
  · obtain ⟨m, hm, hroom, hpayload⟩ := hasks
    exact ⟨m, hm, Prod.ext hroom hpayload⟩

theorem SameRegistry.refl (t : Tables) : SameRegistry t t := ⟨rfl, rfl, rfl⟩

theorem SameRegistry.trans {a b c : Tables} (h : SameRegistry a b) (h' : SameRegistry b c) :
    SameRegistry a c :=
  ⟨h'.rooms.trans h.rooms, h'.users.trans h.users, h'.room_members.trans h.room_members⟩

/-- No statement writes to the registry, which is the rooms, the users and the members. -/
theorem sameRegistry_applyAll (hash : PyStr → Int) (ws : List Write) (t : Tables) :
    SameRegistry t ((engine hash).applyAll ws t) := by
  induction ws generalizing t with
  | nil => exact .refl t
  | cons w ws ih =>
      have hstep : SameRegistry t (w.apply t) := by
        cases w <;> exact ⟨rfl, rfl, rfl⟩
      exact hstep.trans (ih (w.apply t))

theorem Grows.of_le {t : Tables} {x x' : Ext} (hle : x.Le x') : Grows t x t x' where
  registry := .refl t
  appended := List.prefix_refl _
  counters _ := Nat.le_refl _
  numbered _ hm := Or.inl hm
  idempotency _ _ hv := hv
  owners _ _ howned := howned
  ext := hle

theorem Grows.trans {a b c : Tables} {x y z : Ext} (h : Grows a x b y) (h' : Grows b y c z) :
    Grows a x c z where
  registry := h.registry.trans h'.registry
  appended := h.appended.trans h'.appended
  counters room := (h.counters room).trans (h'.counters room)
  numbered m hm := by
    rcases h'.numbered m hm with hmiddle | hnew
    · exact h.numbered m hmiddle
    · exact Or.inr ((h.counters m.room_id).trans_lt hnew)
  idempotency key v hv := h'.idempotency key v (h.idempotency key v hv)
  owners request_id owner howned :=
    h'.owners request_id owner (h.owners request_id owner howned)
  ext := h.ext.trans h'.ext

/-- A commit that adds no message and moves no counter back. -/
theorem Grows.of_sameMessages {t t' : Tables} (hregistry : SameRegistry t t')
    (hmessages : t'.messages = t.messages) (hcounters : ∀ room, t.lastSeq room ≤ t'.lastSeq room)
    (hkeys : t'.idempotency_keys = t.idempotency_keys)
    (howners : KeepsOwners t t') (x : Ext) : Grows t x t' x where
  registry := hregistry
  appended := hmessages ▸ List.prefix_refl _
  counters := hcounters
  numbered _ hm := Or.inl (hmessages ▸ hm)
  idempotency _ _ hv := hkeys ▸ hv
  owners := howners
  ext := Ext.Le.refl x

/-- What is found under a number that the counter has passed does not change any more. -/
theorem Grows.messageBySeq {t t' : Tables} {x x' : Ext} (h : Grows t x t' x') {room seq : Nat}
    (hle : seq ≤ t.lastSeq room) : t'.messageBySeq room seq = t.messageBySeq room seq := by
  obtain ⟨later, hlater⟩ := h.appended
  rw [Tables.messageBySeq, Tables.messageBySeq, ← hlater, List.find?_append]
  cases hfound : t.messages.find? fun m => m.room_id = room ∧ m.room_seq = seq with
  | some m => rfl
  | none =>
      rw [Option.none_or, List.find?_eq_none]
      intro m hm hslot
      obtain ⟨hroom, hseq⟩ : m.room_id = room ∧ m.room_seq = seq := by simpa using hslot
      rcases h.numbered m (hlater ▸ List.mem_append_right _ hm) with hold | hnew
      · exact List.find?_eq_none.mp hfound m hold hslot
      · rw [hroom] at hnew
        omega

/-- The advisory lock of an idempotency key. -/
def advisoryOf (hash : PyStr → Int) (key : IdempotencyKey) : Int := hash (advisoryLockKey key)

/-- The locking discipline of the worker. -/
def pipeline (hash : PyStr → Int) : Protocol (engine hash) :=
  discipline hash (advisoryOf hash) Asks Inv Grows
    (fun _ _ _ _ hstep hasks h => h.of_step hstep hasks)
    (fun _ _ _ hle hack h =>
      h.of_le ⟨hle, fun _ hp => hack ▸ hp⟩ fun p hp => h.acknowledged p (hack ▸ hp))
    (fun _ _ _ hle => Grows.of_le hle) (fun _ _ _ _ _ _ h h' => h.trans h')

/-- Nothing is stored and nothing published yet. -/
def Ext.initial : Ext := ⟨1, []⟩

theorem inv_empty (rooms users : Nat → Bool) (members : Nat → Nat → Bool) :
    Inv (Tables.empty rooms users members) Ext.initial where
  messages := by simp [Tables.empty]
  ids := by simp [Tables.empty]
  request_ids := by simp [Tables.empty]
  id_lt := by simp [Tables.empty]
  nextId_pos := Nat.one_pos
  outbox := .nil
  attempts := by simp [Tables.empty]
  targets := by simp [Tables.empty]
  idempotency := by simp [Tables.empty]
  acknowledged := by simp [Ext.initial]

/-! ### Consequences -/

section Inv

variable {t : Tables} {x : Ext}

theorem Inv.eq_of_id (h : Inv t x) {m m' : MessageRow} (hm : m ∈ t.messages)
    (hm' : m' ∈ t.messages) (hid : m.id = m'.id) : m = m' :=
  List.inj_on_of_nodup_map h.ids hm hm' hid

/-- Every message has an outbox row. -/
theorem Inv.exists_outbox (h : Inv t x) {m : MessageRow} (hm : m ∈ t.messages) :
    ∃ o ∈ t.notification_outbox, OutboxFor x m o := by
  obtain ⟨i, hi, rfl⟩ := List.mem_iff_getElem.mp hm
  have hlt : i < t.notification_outbox.length := h.outbox.length_eq ▸ hi
  exact ⟨t.notification_outbox[i], List.getElem_mem hlt, h.outbox.get hi hlt⟩

/-- Every outbox row is the row of a message. -/
theorem Inv.exists_message (h : Inv t x) {o : OutboxRow} (ho : o ∈ t.notification_outbox) :
    ∃ m ∈ t.messages, OutboxFor x m o := by
  obtain ⟨i, hi, rfl⟩ := List.mem_iff_getElem.mp ho
  have hlt : i < t.messages.length := h.outbox.length_eq ▸ hi
  exact ⟨t.messages[i], List.getElem_mem hlt, h.outbox.get hlt hi⟩

theorem Inv.outboxIds (h : Inv t x) :
    t.notification_outbox.map (·.message_id) = t.messages.map (·.id) := by
  rw [← List.forall₂_eq_eq_eq, List.forall₂_map_left_iff, List.forall₂_map_right_iff]
  exact h.outbox.flip.imp fun _ _ ho => ho.message_id

theorem Inv.outboxRow_ne_none (h : Inv t x) {m : MessageRow} (hm : m ∈ t.messages) :
    t.outboxRow m.id ≠ none := by
  obtain ⟨o, ho, hfor⟩ := h.exists_outbox hm
  rw [Tables.outboxRow, Ne, List.find?_eq_none]
  exact fun hnone => hnone o ho (by simp [hfor.message_id])

theorem Inv.outboxRow_eq_none (h : Inv t x) {id : Nat} (hid : ∀ m ∈ t.messages, m.id ≠ id) :
    t.outboxRow id = none := by
  rw [Tables.outboxRow, List.find?_eq_none]
  intro o ho
  obtain ⟨m, hm, hfor⟩ := h.exists_message ho
  simpa [hfor.message_id] using hid m hm

end Inv

/-! ### Commits that change one thing

A commit changes a few rows. What the clauses say about the others is carried over unchanged. -/

section Commit

variable {t : Tables} {x : Ext}

/-- Status rows and sequence counters are not part of the invariant. -/
theorem Inv.of_tables (h : Inv t x) {t' : Tables} (hm : t'.messages = t.messages)
    (ho : t'.notification_outbox = t.notification_outbox)
    (ha : t'.notification_attempts = t.notification_attempts)
    (hk : t'.idempotency_keys = t.idempotency_keys) : Inv t' x where
  messages := hm ▸ h.messages
  ids := hm ▸ h.ids
  request_ids := hm ▸ h.request_ids
  id_lt := hm ▸ h.id_lt
  nextId_pos := h.nextId_pos
  outbox := by rw [hm, ho]; exact h.outbox
  attempts := ha ▸ h.attempts
  targets := by rw [hm, ha]; exact h.targets
  idempotency := by rw [hm, hk]; exact h.idempotency
  acknowledged := by rw [hm]; exact h.acknowledged

/-- A new message with its outbox row keeps the invariant: its ids are new, and a stored response
is an older one or its own. -/
theorem Inv.insert (h : Inv t x) {t' : Tables} {m : MessageRow} {o : OutboxRow}
    (hm : t'.messages = t.messages ++ [m])
    (ho : t'.notification_outbox = t.notification_outbox ++ [o])
    (ha : t'.notification_attempts = t.notification_attempts)
    (hk : ∀ key v, t'.idempotency_keys key = some v → t.idempotency_keys key = some v ∨
      (ScopedTo key m ∧ v = .obj (messageRowResponse m)))
    (hok : MessageOk m) (hid : ∀ m' ∈ t.messages, m'.id ≠ m.id)
    (hrid : ∀ m' ∈ t.messages, m'.request_id ≠ m.request_id) (hlt : m.id < x.nextId)
    (hfor : OutboxFor x m o) : Inv t' x where
  messages m' hm' := by
    rw [hm] at hm'
    rcases List.mem_append.mp hm' with hm' | hm'
    · exact h.messages m' hm'
    · exact List.mem_singleton.mp hm' ▸ hok
  ids := by
    rw [hm, List.map_append, List.nodup_append]
    refine ⟨h.ids, by simp, ?_⟩
    simp only [List.mem_map, List.map_cons, List.map_nil, List.mem_singleton]
    rintro _ ⟨m', hm', rfl⟩ _ rfl
    exact hid m' hm'
  request_ids := by
    rw [hm, List.map_append, List.nodup_append]
    refine ⟨h.request_ids, by simp, ?_⟩
    simp only [List.mem_map, List.map_cons, List.map_nil, List.mem_singleton]
    rintro _ ⟨m', hm', rfl⟩ _ rfl
    exact hrid m' hm'
  id_lt m' hm' := by
    rw [hm] at hm'
    rcases List.mem_append.mp hm' with hm' | hm'
    · exact h.id_lt m' hm'
    · exact List.mem_singleton.mp hm' ▸ hlt
  nextId_pos := h.nextId_pos
  -- the rows of the outbox stay in step with the messages
  outbox := by
    rw [hm, ho]
    exact List.rel_append h.outbox (.cons hfor .nil)
  attempts := ha ▸ h.attempts
  targets a ha' := by
    obtain ⟨m', hm', hrest⟩ := h.targets a (ha ▸ ha')
    exact ⟨m', by rw [hm]; exact List.mem_append_left _ hm', hrest⟩
  -- a stored response is an older one, or that of the new message
  idempotency key v hv := by
    rw [hm]
    rcases hk key v hv with hv | ⟨hscoped, hv⟩
    · obtain ⟨m', hm', hrest⟩ := h.idempotency key v hv
      exact ⟨m', List.mem_append_left _ hm', hrest⟩
    · exact ⟨m, by simp, hscoped, hv⟩
  acknowledged p hp := by
    obtain ⟨m', hm', hrest⟩ := h.acknowledged p hp
    exact ⟨m', by rw [hm]; exact List.mem_append_left _ hm', hrest⟩

/-- A changed outbox row that is still the row of its message. -/
theorem Inv.putOutbox (h : Inv t x) {t' : Tables} {row : OutboxRow}
    (hm : t'.messages = t.messages)
    (ho : t'.notification_outbox =
      t.notification_outbox.map fun o => if o.message_id = row.message_id then row else o)
    (ha : t'.notification_attempts = t.notification_attempts)
    (hk : t'.idempotency_keys = t.idempotency_keys)
    (hrow : ∀ m ∈ t.messages, m.id = row.message_id → OutboxFor x m row) : Inv t' x where
  messages := hm ▸ h.messages
  ids := hm ▸ h.ids
  request_ids := hm ▸ h.request_ids
  id_lt := hm ▸ h.id_lt
  nextId_pos := h.nextId_pos
  outbox := by
    rw [hm, ho]
    refine List.forall₂_iff_get.mpr ⟨by simp [h.outbox.length_eq], fun i hi hi' => ?_⟩
    have hfor := h.outbox.get hi (by simpa using hi')
    simp only [List.get_eq_getElem, List.getElem_map] at hfor ⊢
    split_ifs with hid
    · exact hrow _ (List.getElem_mem hi) (hfor.message_id.symm.trans hid)
    · exact hfor
  attempts := ha ▸ h.attempts
  targets := by rw [hm, ha]; exact h.targets
  idempotency := by rw [hm, hk]; exact h.idempotency
  acknowledged := by rw [hm]; exact h.acknowledged

/-- New attempts, each for a message that has none. -/
theorem Inv.insertAttempts (h : Inv t x) {t' : Tables} {rows : List AttemptRow}
    (hm : t'.messages = t.messages) (ho : t'.notification_outbox = t.notification_outbox)
    (ha : t'.notification_attempts = t.notification_attempts ++ rows)
    (hk : t'.idempotency_keys = t.idempotency_keys)
    (hnodup : (rows.map (·.message_id)).Nodup)
    (hfresh : ∀ a ∈ rows, ∀ b ∈ t.notification_attempts, b.message_id ≠ a.message_id)
    (htarget : ∀ a ∈ rows, ∃ m ∈ t.messages, m.id = a.message_id ∧ m.room_id = a.room_id) :
    Inv t' x where
  messages := hm ▸ h.messages
  ids := hm ▸ h.ids
  request_ids := hm ▸ h.request_ids
  id_lt := hm ▸ h.id_lt
  nextId_pos := h.nextId_pos
  outbox := by rw [hm, ho]; exact h.outbox
  attempts := by
    rw [ha, List.map_append, List.nodup_append]
    refine ⟨h.attempts, hnodup, ?_⟩
    simp only [List.mem_map]
    rintro _ ⟨b, hb, rfl⟩ _ ⟨a, ha', rfl⟩
    exact hfresh a ha' b hb
  targets a ha' := by
    rw [hm]
    rw [ha] at ha'
    rcases List.mem_append.mp ha' with ha' | ha'
    · exact h.targets a ha'
    · exact htarget a ha'
  idempotency := by rw [hm, hk]; exact h.idempotency
  acknowledged := by rw [hm]; exact h.acknowledged

end Commit

end EventPipeline.Worker
