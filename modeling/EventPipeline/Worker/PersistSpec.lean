import EventPipeline.Worker.Refusal

/-!
# EventPipeline.Worker.PersistSpec

What a `persist_ingress_job` transaction has done by the time it commits, among any
other transactions.

A rollback with a `ValueError` has one of the reasons of `Refusal`. There are four ways to
commit. The job's idempotency key already has a response;
the job's request already has a message; the job's request has a message that
appeared after the request lookup, found through its explicit sequence number; or
the job's event is new. `PersistPost` says what is pending in each, and
`ensures_persistIngressJob` that there is no fifth. One lemma for each part of the
source carries the argument; what a part has seen stays true because the row it
saw is locked or because messages are never removed.
-/

namespace EventPipeline.Worker

open EventPipeline.Python EventPipeline.Portfolio EventPipeline.Postgres
open EventPipeline.Concurrency

/-! ### Scoped keys -/

/-- The character a scoped key adds and no route has. -/
def bar : CodePoint := CodePoint.ofChar '|'

theorem bar_not_mem_route {route : PyStr} {r : IngressRoute}
    (h : matchIngressRoute route = some r) : bar ∉ route := by
  obtain ⟨digits, rfl, -, hdigits, -⟩ := matchIngressRoute_eq_some h
  have hhead : bar ∉ routeHead r.version r.resource := by
    cases r.version <;> cases r.resource <;> decide
  have htail : bar ∉ PyStr.ofString "/events" := by decide
  have hmid : bar ∉ digits := fun hbar => absurd (hdigits bar hbar) (by decide)
  simp [hhead, htail, hmid]

theorem idempotencyRoute_eq (route : PyStr) (user_id : Nat) :
    idempotencyRoute route user_id =
      route ++ bar :: (PyStr.ofString "actor:" ++ natStr user_id) := by
  have hmark : PyStr.ofString "|actor:" = bar :: PyStr.ofString "actor:" := by decide
  simp [idempotencyRoute, hmark]

/-- A scoped route determines the route and the actor. -/
theorem idempotencyRoute_inj {route route' : PyStr} {user user' : Nat} (h : bar ∉ route)
    (h' : bar ∉ route') (heq : idempotencyRoute route user = idempotencyRoute route' user') :
    route = route' ∧ user = user' := by
  have hsplit : ∀ (s rest : PyStr), bar ∉ s → (s ++ bar :: rest).takeWhile (· ≠ bar) = s := by
    intro s rest hs
    rw [List.takeWhile_append_of_pos]
    · simp
    · exact fun c hc => decide_eq_true fun hbar => hs (hbar ▸ hc)
  rw [idempotencyRoute_eq, idempotencyRoute_eq] at heq
  obtain rfl : route = route' := by rw [← hsplit route _ h, heq, hsplit _ _ h']
  have htail := List.append_cancel_left (List.cons_injective (List.append_cancel_left heq))
  exact ⟨rfl, natStr_injective htail⟩

theorem idempotencyRoute_ne {route route' : PyStr} {user : Nat} (h' : bar ∉ route') :
    idempotencyRoute route user ≠ route' := by
  rw [idempotencyRoute_eq]
  rintro rfl
  exact h' (by simp)

theorem route_clean {route : PyStr} {r : IngressRoute} (h : matchIngressRoute route = some r) :
    route.Clean := by
  obtain ⟨digits, rfl, -, hdigits, -⟩ := matchIngressRoute_eq_some h
  have hhead : (routeHead r.version r.resource).Clean := by
    cases r.version <;> cases r.resource <;> decide
  have htail : (PyStr.ofString "/events").Clean := by decide
  have hmid : PyStr.Clean digits :=
    PyStr.clean_iff.mpr fun c hc => CodePoint.isDigit_clean (hdigits c hc)
  simp [hhead, htail, hmid]

theorem idempotencyRoute_clean {route : PyStr} (h : route.Clean) (user_id : Nat) :
    (idempotencyRoute route user_id).Clean := by
  have hmark : (PyStr.ofString "|actor:").Clean := by decide
  simp [idempotencyRoute, h, hmark, natStr_clean]

/-- The texts of a statement about an idempotency key. -/
theorem keyTexts {rt : Runtime} {job : IngressJob} (hjob : job.Valid rt) {key : PyStr}
    (hkey : job.idempotencyKey = some key) :
    (∀ text ∈ [(job.scopedKey key).1, key], text.Clean ∨ text ∈ sentTexts job) ∧
      ∀ text ∈ [job.route, key], text.Clean ∨ text ∈ sentTexts job := by
  obtain ⟨r, hr, -⟩ := hjob.route
  have hroute := route_clean hr
  have hscoped := idempotencyRoute_clean hroute job.user_id
  simp [IngressJob.scopedKey, hroute, hscoped, idempotencyKey_mem_sentTexts hkey]

/-! ### What a transaction has seen

A fact that a transaction has read lasts if the row it is about is locked, or if the invariant
lets it only grow. Each of the facts here is carried along `Rely` for one of the two reasons. -/

section Seen

variable (hash : PyStr → Int) (job : IngressJob)

/-- No response is stored under the job's key, and nobody else can store one. -/
def NoResponse (v : TxView) : Prop :=
  ∀ key ∈ job.idempotencyKey, v.db.idempotency_keys (job.scopedKey key) = none ∧
    Lock.advisory (advisoryOf hash (job.scopedKey key)) ∈ v.locks

/-- The response stored under the job's key, and the message it is the response of. -/
structure StoredResponse (key : PyStr) (m : MessageRow) (v : TxView) : Prop where
  key_eq : job.idempotencyKey = some key
  stored : v.db.idempotency_keys (job.scopedKey key) = some (.obj (messageRowResponse m))
  mem : m ∈ v.db.messages
  user_id : m.user_id = job.user_id
  room_id : m.room_id = job.room_id

/-- The row a transaction inserts, with sequence number `n`. -/
structure FreshRow (n : Nat) (row : MessageRow) (v : TxView) : Prop where
  counter : n = v.db.lastSeq job.room_id + 1
  counter_le : n ≤ maxPostgresBigint
  asked : ∀ s ∈ job.room_seq, s = n
  row_eq : ∃ id created_at, created_at ≠ [] ∧
    row = (newMessage job job.event_type job.payload job.metadata n).toRow id created_at
  id_pos : 0 < row.id
  id_le : row.id ≤ maxPostgresBigint
  id_lt : row.id < v.ext.nextId
  id_fresh : ∀ m ∈ v.db.messages, m.id ≠ row.id
  id_last : ∀ m ∈ v.db.messages, m.room_id = job.room_id → m.id < row.id
  request_fresh : ∀ m ∈ v.db.messages, m.request_id ≠ row.request_id
  texts : ∀ text ∈ row.texts, text.Clean
  locks : ∀ k ∈ Lock.sequence job.room_id :: row.locks, k ∈ v.locks

variable {hash job} {v v' : TxView}

theorem NoResponse.of_rely (h : NoResponse hash job v) (hr : (pipeline hash).Rely v v') :
    NoResponse hash job v' := by
  intro key hkey
  obtain ⟨hnone, hlock⟩ := h key hkey
  have hsame := hr.same _ hlock (job.scopedKey key) rfl
  exact ⟨hsame ▸ hnone, hr.locks ▸ hlock⟩

theorem NoResponse.extend (h : NoResponse hash job v) (ws : List Write) (ls : List Lock) (x : Ext) :
    NoResponse hash job (Engine.extend v ws ls x) := fun key hkey =>
  ⟨(h key hkey).1, List.mem_append_left _ (h key hkey).2⟩

theorem StoredResponse.of_rely {key : PyStr} {m : MessageRow} (h : StoredResponse job key m v)
    (hr : (pipeline hash).Rely v v') : StoredResponse job key m v' :=
  ⟨h.key_eq, hr.grows.idempotency _ _ h.stored, hr.grows.messages h.mem, h.user_id, h.room_id⟩

theorem lastSeq_of_same {advisory : IdempotencyKey → Int} {room : Nat} {t t' : Tables}
    (h : (Lock.sequence room).Same advisory t t') : t'.lastSeq room = t.lastSeq room := by
  rw [Tables.lastSeq, Tables.lastSeq, h.1]

/-- Somebody else cannot add a message that satisfies `p` while the messages that do
are locked. -/
theorem forall_not_of_filter_eq {p : MessageRow → Prop} [DecidablePred p]
    {ms ms' : List MessageRow} (h : (ms.filter fun m => p m) = ms'.filter fun m => p m)
    (hno : ∀ m ∈ ms, ¬p m) : ∀ m ∈ ms', ¬p m := by
  have hnil : (ms.filter fun m => p m) = [] := by simpa [List.filter_eq_nil_iff] using hno
  have hnil' : (ms'.filter fun m => p m) = [] := h ▸ hnil
  simpa [List.filter_eq_nil_iff] using hnil'

/-- What holds of the messages that satisfy `p` goes on holding while they are locked. -/
theorem forall_of_filter_eq {p q : MessageRow → Prop} [DecidablePred p] {ms ms' : List MessageRow}
    (h : (ms.filter fun m => p m) = ms'.filter fun m => p m) (hall : ∀ m ∈ ms, p m → q m) :
    ∀ m ∈ ms', p m → q m := by
  intro m hm hp
  have hmem : m ∈ ms.filter fun m => p m := h ▸ List.mem_filter.mpr ⟨hm, by simpa using hp⟩
  exact hall m (List.mem_filter.mp hmem).1 hp

theorem FreshRow.of_rely {n : Nat} {row : MessageRow} (h : FreshRow job n row v)
    (hr : (pipeline hash).Rely v v') : FreshRow job n row v' where
  counter := by
    have hsame : (Lock.sequence job.room_id).Same (advisoryOf hash) v.db v'.db :=
      hr.same (.sequence job.room_id) (h.locks _ (by simp))
    rw [lastSeq_of_same hsame]
    exact h.counter
  counter_le := h.counter_le
  asked := h.asked
  row_eq := h.row_eq
  id_pos := h.id_pos
  id_le := h.id_le
  id_lt := h.id_lt.trans_le hr.grows.ext.nextId
  id_fresh := forall_not_of_filter_eq
    (hr.same (.message row.id) (h.locks _ (by simp [MessageRow.locks]))) h.id_fresh
  id_last := by
    have hsame : (Lock.sequence job.room_id).Same (advisoryOf hash) v.db v'.db :=
      hr.same (.sequence job.room_id) (h.locks _ (by simp))
    exact forall_of_filter_eq hsame.2 h.id_last
  request_fresh := forall_not_of_filter_eq
    (hr.same (.request row.request_id) (h.locks _ (by simp [MessageRow.locks]))) h.request_fresh
  texts := h.texts
  locks k hk := hr.locks ▸ h.locks k hk

theorem FreshRow.extend {n : Nat} {row : MessageRow} (h : FreshRow job n row v) (ws : List Write)
    (ls : List Lock) {x : Ext} (hx : v.ext.nextId ≤ x.nextId) :
    FreshRow job n row (Engine.extend v ws ls x) where
  counter := h.counter
  counter_le := h.counter_le
  asked := h.asked
  row_eq := h.row_eq
  id_pos := h.id_pos
  id_le := h.id_le
  id_lt := h.id_lt.trans_le hx
  id_fresh := h.id_fresh
  id_last := h.id_last
  request_fresh := h.request_fresh
  texts := h.texts
  locks k hk := List.mem_append_left _ (h.locks k hk)

end Seen

/-! ### The idempotency section -/

section Spec

variable {rt : Runtime} {hash : PyStr → Int} {α L : Type}
variable {ok : Event Stmt Stmt.Res PyExc α L → Prop} {l : L} {job : IngressJob} {v : TxView}

/-- A stored response under the job's key is one the job accepts. -/
theorem validated_of_inv {x : Ext} {t : Tables} (hinv : Inv t x) (hjob : job.Valid rt)
    {key : PyStr} {cached : Json} (hcached : t.idempotency_keys (job.scopedKey key) = some cached) :
    ∃ m ∈ t.messages, m.user_id = job.user_id ∧ m.room_id = job.room_id ∧
      cached = .obj (messageRowResponse m) ∧
      validatedIdempotencyResponse (some cached) job.user_id job.room_id
        = some (messageRowResponse m) := by
  obtain ⟨m, hm, ⟨route, r, k, hr, hroom, hkey⟩, rfl⟩ := hinv.idempotency _ _ hcached
  obtain ⟨r', hr', hroom', -⟩ := hjob.route
  simp only [IngressJob.scopedKey, Prod.mk.injEq] at hkey
  obtain ⟨rfl, huser⟩ := idempotencyRoute_inj (bar_not_mem_route hr') (bar_not_mem_route hr) hkey.1
  obtain rfl : r = r' := by simpa [hr] using hr'
  have huser' : m.user_id = job.user_id := huser.symm
  have hroom'' : m.room_id = job.room_id := hroom.symm.trans hroom'
  refine ⟨m, hm, huser', hroom'', rfl, ?_⟩
  rw [← huser', ← hroom'']
  exact validatedIdempotencyResponse_messageRowResponse (hinv.messages m hm)

/-- No response is ever stored under a key without an actor. -/
theorem unscoped_eq_none {x : Ext} {t : Tables} (hinv : Inv t x) (hjob : job.Valid rt)
    (key : PyStr) : t.idempotency_keys (job.route, key) = none := by
  obtain ⟨r', hr', -⟩ := hjob.route
  cases hstored : t.idempotency_keys (job.route, key) with
  | none => rfl
  | some cached =>
      obtain ⟨m, -, ⟨route, r, k, hr, -, hkey⟩, -⟩ := hinv.idempotency _ _ hstored
      simp only [Prod.mk.injEq] at hkey
      exact absurd hkey.1.symm (idempotencyRoute_ne (bar_not_mem_route hr'))

/-- What the idempotency section leaves behind. -/
def AfterLookup (hash : PyStr → Int) (job : IngressJob) (r : Option Dict) (v : TxView) : Prop :=
  (pipeline hash).Ready v ∧ v.writes = [] ∧
    match r with
    | none => NoResponse hash job v
    | some response => ∃ key m, StoredResponse job key m v ∧ response = messageRowResponse m

theorem AfterLookup.of_rely {r : Option Dict} {v v' : TxView} (h : AfterLookup hash job r v)
    (hr : (pipeline hash).Rely v v') : AfterLookup hash job r v' := by
  obtain ⟨hready, hw, hseen⟩ := h
  refine ⟨hready.of_rely _ hr, hr.writes.trans hw, ?_⟩
  cases r with
  | none => exact NoResponse.of_rely hseen hr
  | some response =>
      obtain ⟨key, m, hstored, hresponse⟩ := hseen
      exact ⟨key, m, hstored.of_rely hr, hresponse⟩

theorem ensures_cachedResponse (hjob : job.Valid rt) {key : PyStr}
    (hkey : job.idempotencyKey = some key) (hready : (pipeline hash).Ready v)
    (hw : v.writes = []) :
    (pipeline hash).Ends ok l (AfterLookup hash job) (Refused job) (cachedResponse job key) v := by
  -- the advisory lock: what is read under it stays so until the end
  refine Protocol.ends_call _ hready ?_ (refused_call (by simp [Stmt.texts]))
  intro v₁ hr₁ hready₁ held now c u ws ls x hexec _ _
  obtain ⟨rfl, rfl, hx, -⟩ := exec_advisoryXactLock hexec
  obtain rfl : x = v₁.ext := hx
  refine ⟨by simp, fun hready₂ => ?_⟩
  have hlock : Lock.advisory (advisoryOf hash (job.scopedKey key)) ∈
      (Engine.extend v₁ [] [.advisory (hash (advisoryLockKey (job.scopedKey key)))]
        v₁.ext).locks := by
    simp [Engine.extend, advisoryOf]
  have hw₂ : (Engine.extend v₁ [] [.advisory (hash (advisoryLockKey (job.scopedKey key)))]
      v₁.ext).writes = [] := by simp [Engine.extend, hr₁.writes.trans hw]
  generalize Engine.extend v₁ [] [.advisory (hash (advisoryLockKey (job.scopedKey key)))]
    v₁.ext = v₂ at hready₂ hlock hw₂ ⊢
  -- the scoped key
  refine Protocol.ends_select _ hready₂ ?_ (refused_call (keyTexts hjob hkey).1)
  intro v₃ hr₃ hready₃ held now c cached ws ls x hexec _
  have hw₃ : v₃.writes = [] := hr₃.writes.trans hw₂
  obtain ⟨hcached, rfl, rfl, rfl⟩ := exec_selectIdempotencyKey hexec
  replace hcached : cached = v₃.db.idempotency_keys (job.scopedKey key) := by
    rw [hcached, visible_nil hw₃]
    rfl
  refine ⟨rfl, rfl, rfl, ?_⟩
  cases cached with
  | some cached =>
      obtain ⟨m, hm, huser, hroom, rfl, hvalid⟩ := validated_of_inv hready₃.inv hjob hcached.symm
      simp only [hvalid]
      refine Protocol.ends_ret _ fun v₄ hr₄ => AfterLookup.of_rely ⟨hready₃, hw₃, ?_⟩ hr₄
      exact ⟨key, m, ⟨hkey, hcached.symm, hm, huser, hroom⟩, rfl⟩
  | none =>
      have hnone : NoResponse hash job v₃ := by
        rintro key' hkey'
        obtain rfl : key = key' := by simpa [hkey] using hkey'
        exact ⟨hcached.symm, hr₃.locks ▸ hlock⟩
      simp only [validatedIdempotencyResponse]
      -- the key of before the scopes: the invariant has no such row
      refine Protocol.ends_select _ hready₃ ?_ (refused_call (keyTexts hjob hkey).2)
      intro v₄ hr₄ hready₄ held now c legacy ws ls x hexec _
      have hw₄ : v₄.writes = [] := hr₄.writes.trans hw₃
      obtain ⟨hlegacy, rfl, rfl, rfl⟩ := exec_selectIdempotencyKey hexec
      rw [visible_nil hw₄, unscoped_eq_none hready₄.inv hjob] at hlegacy
      subst hlegacy
      refine ⟨rfl, rfl, rfl, ?_⟩
      exact Protocol.ends_ret _ fun v₅ hr₅ =>
        AfterLookup.of_rely ⟨hready₄, hw₄, hnone.of_rely hr₄⟩ hr₅

theorem ensures_idempotencyHit (hjob : job.Valid rt) (hready : (pipeline hash).Ready v)
    (hw : v.writes = []) :
    (pipeline hash).Ends ok l (AfterLookup hash job) (Refused job) (idempotencyHit job) v := by
  unfold idempotencyHit
  cases hkey : job.idempotencyKey with
  | some key => exact ensures_cachedResponse hjob hkey hready hw
  | none =>
      refine Protocol.ends_ret _ fun v' hr => AfterLookup.of_rely ⟨hready, hw, ?_⟩ hr
      simp [NoResponse, hkey]

/-! ### From the request lookup to the response

One lemma for each section of the function, from the last one backwards: each of them continues
with the next. -/

theorem visible_putSequence {room n : Nat} (hw : v.writes = [.putSequence room n]) :
    ((engine hash).visible v).messages = v.db.messages := by
  rw [Engine.visible, hw]
  rfl

/-- The pending write of `rememberResponse`. -/
def rememberWrites (job : IngressJob) (response : Dict) : List Write :=
  match job.idempotencyKey with
  | some key => [.putIdempotency (job.scopedKey key) (.obj response)]
  | none => []

/-- What is pending when the response is known. -/
inductive Sequenced (ok : Event Stmt Stmt.Res PyExc α L → Prop) (l : L) (hash : PyStr → Int)
    (job : IngressJob) (response : Dict) (v : TxView) : Prop
  | hit (key m) : StoredResponse job key m v →
      response = (messageRowResponse m).set "_idempotency_hit" (.bool true) → v.writes = [] →
      Sequenced ok l hash job response v
  | existing (m) : NoResponse hash job v → m ∈ v.db.messages → m.request_id = job.request_id →
      m.room_id = job.room_id → m.user_id = job.user_id → response = messageRowResponse m →
      v.writes = [] → Sequenced ok l hash job response v
  | ownDuplicate (n seq m) : NoResponse hash job v → n = v.db.lastSeq job.room_id + 1 →
      Lock.sequence job.room_id ∈ v.locks → job.room_seq = some seq → seq < n →
      m ∈ v.db.messages → m.request_id = job.request_id → m.room_id = job.room_id →
      m.room_seq = seq → ok (.ran l (.selectMessageBySeq job.room_id seq) (some m)) →
      response = messageRowResponse m → v.writes = [.putSequence job.room_id n] →
      Sequenced ok l hash job response v
  | fresh (n row) : NoResponse hash job v → FreshRow job n row v →
      response = messageRowResponse row →
      v.writes = [.putSequence job.room_id n, .insertMessage row]
        ++ rememberWrites job (messageRowResponse row) →
      Sequenced ok l hash job response v

theorem Sequenced.of_rely {response : Dict} {v' : TxView}
    (h : Sequenced ok l hash job response v) (hr : (pipeline hash).Rely v v') :
    Sequenced ok l hash job response v' := by
  cases h with
  | hit key m hstored hresponse hw =>
      exact .hit key m (hstored.of_rely hr) hresponse (hr.writes.trans hw)
  | existing m hnone hm hrid hroom huser hresponse hw =>
      exact .existing m (hnone.of_rely hr) (hr.grows.messages hm) hrid hroom huser hresponse
        (hr.writes.trans hw)
  | ownDuplicate n seq m hnone hn hlock hseq hlt hm hrid hroom hmseq hok hresponse hw =>
      have hsame : (Lock.sequence job.room_id).Same (advisoryOf hash) v.db v'.db :=
        hr.same (.sequence job.room_id) hlock
      exact .ownDuplicate n seq m (hnone.of_rely hr) (by rw [lastSeq_of_same hsame]; exact hn)
        (hr.locks ▸ hlock) hseq hlt (hr.grows.messages hm) hrid hroom hmseq hok hresponse
        (hr.writes.trans hw)
  | fresh n row hnone hrow hresponse hw =>
      exact .fresh n row (hnone.of_rely hr) (hrow.of_rely hr) hresponse (hr.writes.trans hw)

/-- `Sequenced`, at a point where the transaction can go on. -/
def AfterResponse (ok : Event Stmt Stmt.Res PyExc α L → Prop) (l : L) (hash : PyStr → Int)
    (job : IngressJob) (response : Dict) (v : TxView) : Prop :=
  (pipeline hash).Ready v ∧ Sequenced ok l hash job response v

theorem AfterResponse.of_rely {response : Dict} {v' : TxView}
    (h : AfterResponse ok l hash job response v) (hr : (pipeline hash).Rely v v') :
    AfterResponse ok l hash job response v' :=
  ⟨h.1.of_rely _ hr, h.2.of_rely hr⟩

/-- The idempotency write after the message insert. Without a key there is none; with one, the
lock that was taken when the key was looked up is still held. -/
theorem ensures_rememberResponse {n : Nat} {row : MessageRow} (hjob : job.Valid rt)
    (hready : (pipeline hash).Ready v)
    (hnone : NoResponse hash job v) (hrow : FreshRow job n row v)
    (hw : v.writes = [.putSequence job.room_id n, .insertMessage row]) :
    (pipeline hash).Ends ok l (AfterResponse ok l hash job) (Refused job)
      (rememberResponse job (messageRowResponse row) >>= fun _ =>
        (pure (messageRowResponse row) : Transaction Dict)) v := by
  unfold rememberResponse
  cases hkey : job.idempotencyKey with
  | none =>
      refine Protocol.ends_ret _ fun v' hr =>
        AfterResponse.of_rely ⟨hready, .fresh n row hnone hrow rfl ?_⟩ hr
      simp [hw, rememberWrites, hkey]
  | some key =>
      refine Protocol.ends_call _ hready ?_ (refused_call (keyTexts hjob hkey).1)
      intro v₁ hr₁ hready₁ held now c u ws ls x hexec _ _
      obtain ⟨rfl, rfl, hx, -⟩ := exec_upsertIdempotencyKey hexec
      obtain rfl : x = v₁.ext := hx
      have hnone₁ := hnone.of_rely hr₁
      refine ⟨?_, fun hready₂ => Protocol.ends_ret _ fun v' hr =>
        AfterResponse.of_rely ⟨hready₂, .fresh n row (hnone₁.extend _ _ _)
          ((hrow.of_rely hr₁).extend _ _ (le_refl _)) rfl ?_⟩ hr⟩
      · have hlock := (hnone₁ key hkey).2
        simp only [forall_eq, pipeline, discipline, Write.keys, List.mem_cons,
          List.not_mem_nil, or_false, List.mem_append]
        rintro k (rfl | rfl)
        · exact Or.inl hlock
        · exact Or.inr rfl
      · simp [Engine.extend, hr₁.writes.trans hw, rememberWrites, hkey, IngressJob.scopedKey]

theorem row_conflicts_eq_false {row : MessageRow} {t : Tables} (h : row.conflicts t = false) :
    (∀ m ∈ t.messages, m.id ≠ row.id) ∧ (∀ m ∈ t.messages, m.request_id ≠ row.request_id) := by
  simp only [MessageRow.conflicts, List.any_eq_false, Bool.or_eq_true, not_or,
    decide_eq_true_eq] at h
  exact ⟨fun m hm => (h m hm).1.1, fun m hm => (h m hm).1.2⟩

/-- The message insert. -/
theorem ensures_insertEvent {n : Nat} (hjob : job.Valid rt) (hready : (pipeline hash).Ready v)
    (hnone : NoResponse hash job v) (hn : n = v.db.lastSeq job.room_id + 1)
    (hle : n ≤ maxPostgresBigint) (hasked : ∀ s ∈ job.room_seq, s = n)
    (hlock : Lock.sequence job.room_id ∈ v.locks) (hw : v.writes = [.putSequence job.room_id n]) :
    (pipeline hash).Ends ok l (AfterResponse ok l hash job) (Refused job)
      (insertEvent job (newMessage job job.event_type job.payload job.metadata n)) v := by
  -- the texts of the row are among those that the job sends
  have hsent : ∀ text ∈ (newMessage job job.event_type job.payload job.metadata n).texts,
      text.Clean ∨ text ∈ sentTexts job :=
    fun text htext => Or.inr (List.mem_append_left _ htext)
  refine Protocol.ends_call _ hready ?_ (refused_call hsent)
  intro v₁ hr₁ hready₁ held now c row ws ls x hexec _ _
  obtain ⟨hrow, hid, -, hconflict, hclean, rfl, rfl, hx, -⟩ := exec_insertMessage hexec
  obtain rfl : x = { v₁.ext with nextId := v₁.ext.nextId + 1 } := hx
  replace hrow : row = (newMessage job job.event_type job.payload job.metadata n).toRow
    v₁.ext.nextId (DateTime.ofMicros v₁.startedAt).isoformat := hrow
  have hw₁ := hr₁.writes.trans hw
  have hlock₁ : Lock.sequence job.room_id ∈ v₁.locks := hr₁.locks ▸ hlock
  have hsame : (Lock.sequence job.room_id).Same (advisoryOf hash) v.db v₁.db :=
    hr₁.same (.sequence job.room_id) hlock
  have hroom : row.room_id = job.room_id := by rw [hrow]; rfl
  have hrid : row.id = v₁.ext.nextId := by rw [hrow]; rfl
  -- no conflict: neither the id nor the request has a row yet
  obtain ⟨hids, hrids⟩ := row_conflicts_eq_false hconflict
  rw [visible_putSequence hw₁] at hids hrids
  refine ⟨?_, fun hready₂ => ?_⟩
  · simp only [List.mem_singleton, forall_eq, pipeline, discipline, Write.keys, hroom]
    intro k hk
    rcases List.mem_cons.mp hk with rfl | hk
    · exact List.mem_append_left _ hlock₁
    · exact List.mem_append_right _ hk
  · -- the row is new under its locks, whatever the others do meanwhile
    have hfresh : FreshRow job n row (Engine.extend v₁ [.insertMessage row] row.locks
        { v₁.ext with nextId := v₁.ext.nextId + 1 }) := by
      refine ⟨?_, hle, hasked, ⟨_, _, DateTime.isoformat_ne_nil _, hrow⟩, ?_, hid, ?_, hids,
        fun m hm _ => hrid ▸ hready₁.inv.id_lt m hm, hrids, ?_, ?_⟩
      · show n = v₁.db.lastSeq job.room_id + 1
        rw [lastSeq_of_same hsame]
        exact hn
      · exact hrid ▸ hready₁.inv.nextId_pos
      · show row.id < v₁.ext.nextId + 1
        omega
      · exact hrow ▸ NewMessage.toRow_texts hclean (DateTime.isoformat_clean _)
      · intro k hk
        rcases List.mem_cons.mp hk with rfl | hk
        · exact List.mem_append_left _ hlock₁
        · exact List.mem_append_right _ hk
    refine ensures_rememberResponse hjob hready₂ ((hnone.of_rely hr₁).extend _ _ _) hfresh ?_
    simp [Engine.extend, hw₁]

theorem messageBySeq_eq_some {t : Tables} {room seq : Nat} {m : MessageRow}
    (h : t.messageBySeq room seq = some m) : m ∈ t.messages ∧ m.room_id = room ∧ m.room_seq = seq := by
  have hp := List.find?_some h
  simp only [decide_eq_true_eq] at hp
  exact ⟨List.mem_of_find?_eq_some h, hp⟩

theorem messageByRequestId_eq_some {t : Tables} {request_id : PyStr} {m : MessageRow}
    (h : t.messageByRequestId request_id = some m) :
    m ∈ t.messages ∧ m.request_id = request_id := by
  have hp := List.find?_some h
  simp only [decide_eq_true_eq] at hp
  exact ⟨List.mem_of_find?_eq_some h, hp⟩

/-- An explicit sequence number below the counter. The message that has it is the answer if it is
of the same request, and the number is taken if it is not. -/
theorem ensures_ownDuplicate {n seq : Nat} (hready : (pipeline hash).Ready v)
    (hnone : NoResponse hash job v) (hn : n = v.db.lastSeq job.room_id + 1)
    (hlock : Lock.sequence job.room_id ∈ v.locks) (hseq : job.room_seq = some seq) (hlt : seq < n)
    (hw : v.writes = [.putSequence job.room_id n]) :
    (pipeline hash).Ends ok l (AfterResponse ok l hash job) (Refused job) (ownDuplicate job seq)
      v := by
  refine Protocol.ends_select _ hready ?_ (refused_call (by simp [Stmt.texts]))
  intro v₁ hr₁ hready₁ held now c duplicate ws ls x hexec hok
  obtain ⟨hfound, rfl, rfl, rfl⟩ := exec_selectMessageBySeq hexec
  replace hfound : duplicate = v₁.db.messageBySeq job.room_id seq := by
    rw [hfound, Tables.messageBySeq, visible_putSequence (hr₁.writes.trans hw),
      Tables.messageBySeq]
  have hsame : (Lock.sequence job.room_id).Same (advisoryOf hash) v.db v₁.db :=
    hr₁.same (.sequence job.room_id) hlock
  have htaken : (∀ m, duplicate = some m → m.request_id ≠ job.request_id) →
      Refusal v₁.db job := by
    intro hother
    refine .sequenceTaken seq hseq ?_ (hfound ▸ hother)
    rw [lastSeq_of_same hsame]
    omega
  refine ⟨rfl, rfl, rfl, ?_⟩
  cases duplicate with
  | none => exact Protocol.ends_throw _ fun v' hr => refused_of_rely (htaken (by simp)) hr
  | some m =>
      dsimp only
      split_ifs with hrid
      · obtain ⟨hm, hroom, hmseq⟩ := messageBySeq_eq_some hfound.symm
        refine Protocol.ends_ret _ fun v' hr => AfterResponse.of_rely ⟨hready₁, ?_⟩ hr
        exact .ownDuplicate n seq m (hnone.of_rely hr₁) (by rw [lastSeq_of_same hsame]; exact hn)
          (hr₁.locks ▸ hlock) hseq hlt hm hrid hroom hmseq hok rfl (hr₁.writes.trans hw)
      · exact Protocol.ends_throw _ fun v' hr => refused_of_rely (htaken (by simpa using hrid)) hr

/-- From the sequence counter to the response. The counter is raised under its lock; the number
that was asked for is then below it, above it, which is refused, or equal to it. -/
theorem ensures_sequenceEvent (hjob : job.Valid rt)
    (hready : (pipeline hash).Ready v) (hnone : NoResponse hash job v)
    (hw : v.writes = []) :
    (pipeline hash).Ends ok l (AfterResponse ok l hash job) (Refused job)
      (sequenceEvent job job.event_type job.payload job.metadata) v := by
  refine Protocol.ends_call _ hready ?_ (refused_call (by simp [Stmt.texts]))
  intro v₁ hr₁ hready₁ held now c n ws ls x hexec _ _
  obtain ⟨hn, hle, rfl, rfl, hx, -⟩ := exec_bumpRoomSequence hexec
  obtain rfl : x = v₁.ext := hx
  have hw₁ := hr₁.writes.trans hw
  replace hn : n = v₁.db.lastSeq job.room_id + 1 := by rwa [visible_nil hw₁] at hn
  refine ⟨by simp [pipeline, discipline, Write.keys], fun hready₂ => ?_⟩
  -- the counter is bumped under its lock, and there is still no stored response
  have hnone₂ := (hnone.of_rely hr₁).extend [.putSequence job.room_id n]
    [.sequence job.room_id] v₁.ext
  have hlock₂ : Lock.sequence job.room_id ∈ (Engine.extend v₁ [.putSequence job.room_id n]
      [.sequence job.room_id] v₁.ext).locks := by simp [Engine.extend]
  have hw₂ : (Engine.extend v₁ [.putSequence job.room_id n] [.sequence job.room_id]
      v₁.ext).writes = [.putSequence job.room_id n] := by simp [Engine.extend, hw₁]
  dsimp only
  -- the number asked for is behind the counter, ahead of it, or the next one
  split_ifs with hlt hgt
  · cases hseq : job.room_seq with
    | none => simp [hseq] at hlt
    | some seq =>
        rw [hseq] at hlt
        exact ensures_ownDuplicate hready₂ hnone₂ hn hlock₂ hseq hlt hw₂
  · exact Protocol.ends_throw _ fun v' _ => refused_of_isValueError rfl
  · have heq : job.room_seq.getD n = n := Nat.le_antisymm (Nat.not_lt.mp hgt) (Nat.not_lt.mp hlt)
    rw [heq]
    refine ensures_insertEvent hjob hready₂ hnone₂ hn hle ?_ hlock₂ hw₂
    rintro s hs
    obtain hs : job.room_seq = some s := hs
    simpa [hs] using heq

/-- The authorization lookup changes nothing, and each of its three refusals is a fact about the
registry, which no other transaction changes. -/
theorem ensures_authorizeEvent (hready : (pipeline hash).Ready v) :
    (pipeline hash).Ends ok l (fun _ v' => (pipeline hash).Ready v' ∧ (pipeline hash).Rely v v')
      (Refused job) (authorizeEvent job) v := by
  refine Protocol.ends_select _ hready ?_ (refused_call (by simp [Stmt.texts]))
  intro v₁ hr₁ hready₁ held now c authorization ws ls x hexec _
  obtain ⟨hauthorization, rfl, rfl, rfl⟩ := exec_selectAuthorization hexec
  -- the transaction has no pending write to the registry
  have hregistry : SameRegistry v₁.db ((engine hash).visible v₁) :=
    sameRegistry_applyAll hash v₁.writes v₁.db
  rw [hregistry.rooms, hregistry.users, hregistry.room_members] at hauthorization
  subst hauthorization
  refine ⟨rfl, rfl, rfl, ?_⟩
  split_ifs with hstream hactor hmember
  · exact Protocol.ends_throw _ fun v' hr => refused_of_rely (.streamNotFound hstream) hr
  · exact Protocol.ends_throw _ fun v' hr => refused_of_rely (.actorNotFound hactor) hr
  · exact Protocol.ends_throw _ fun v' hr => refused_of_rely (.membershipMissing hmember) hr
  · exact Protocol.ends_ret _ fun v' hr => ⟨hready₁.of_rely _ hr, hr₁.trans _ hr⟩

/-- The request lookup and everything after it. A row of the request answers if it is of the same
room and user; without one the event is authorised and sequenced. -/
theorem ensures_persistRequest (hjob : job.Valid rt)
    (hready : (pipeline hash).Ready v) (hnone : NoResponse hash job v)
    (hw : v.writes = []) :
    (pipeline hash).Ends ok l (AfterResponse ok l hash job) (Refused job)
      (persistRequest job job.event_type job.payload job.metadata) v := by
  refine Protocol.ends_select _ hready ?_
    (refused_call (by simp [Stmt.texts, request_id_mem_sentTexts]))
  intro v₁ hr₁ hready₁ held now c existing ws ls x hexec _
  obtain ⟨hfound, rfl, rfl, rfl⟩ := exec_selectMessageByRequestId hexec
  have hw₁ := hr₁.writes.trans hw
  rw [visible_nil hw₁] at hfound
  refine ⟨rfl, rfl, rfl, ?_⟩
  cases existing with
  | none =>
      refine Protocol.Ends.bind _ (ensures_authorizeEvent hready₁) ?_
      rintro - v₂ ⟨hready₂, hr₂⟩
      exact ensures_sequenceEvent hjob hready₂ ((hnone.of_rely hr₁).of_rely hr₂) (hr₂.writes.trans hw₁)
  | some m =>
      dsimp only
      obtain ⟨hm, hrid⟩ := messageByRequestId_eq_some hfound.symm
      split_ifs with hconflict
      · exact Protocol.ends_throw _ fun v' hr =>
          refused_of_rely (.requestIdentityConflict m hm hrid hconflict) hr
      · simp only [not_or, not_not] at hconflict
        refine Protocol.ends_ret _ fun v' hr => AfterResponse.of_rely ⟨hready₁, ?_⟩ hr
        exact .existing m (hnone.of_rely hr₁) hm hrid hconflict.1 hconflict.2 rfl hw₁

theorem eventEnvelope_toDict (hjob : job.Valid rt) :
    eventEnvelope job.toDict = .ok (job.event_type, job.payload, job.metadata) := by
  have hd := job.toDict_reads
  refine eventEnvelope_of_reads hd.schema_version (fun route hroute => ?_) hd.event_type
    hd.payload hd.metadata hjob
  rw [hd.route] at hroute
  simpa using hroute.symm

theorem ensures_persistMessageWithCursor (hjob : job.Valid rt) (hready : (pipeline hash).Ready v)
    (hw : v.writes = []) :
    (pipeline hash).Ends ok l (AfterResponse ok l hash job) (Refused job)
      (persistMessageWithCursor job) v := by
  refine Protocol.ends_ofExcept _ (fun event hevent => ?_) fun exc hfailed => ?_
  swap
  · rw [eventEnvelope_toDict hjob] at hfailed
    cases hfailed
  rw [eventEnvelope_toDict hjob] at hevent
  obtain rfl := Except.ok.inj hevent
  refine Protocol.Ends.bind _ (ensures_idempotencyHit hjob hready hw) ?_
  rintro hit v₁ ⟨hready₁, hw₁, hseen⟩
  cases hit with
  | none => exact ensures_persistRequest hjob hready₁ hseen hw₁
  | some response =>
      obtain ⟨key, m, hstored, rfl⟩ := hseen
      exact Protocol.ends_ret _ fun v' hr =>
        AfterResponse.of_rely ⟨hready₁, .hit key m hstored rfl hw₁⟩ hr

/-! ### The status and the outbox

With the response known, the transaction writes the status of its request and, for its own
message, the outbox row. The four ways it can have come here are the four cases of its
postcondition. -/

/-- The status row of the request may be written by `owner`. -/
def MayOwn (request_id : PyStr) (owner : Nat) (t : Tables) : Prop :=
  ∀ row, t.request_statuses request_id = some row → row.user_id = none ∨ row.user_id = some owner

/-- The pending status row: it says `persisted`, and the owner of the response may
write it. -/
structure StatusWrite (job : IngressJob) (owner : Nat) (w : Write) (v : TxView) : Prop where
  written : ∃ status, w = .putStatus job.request_id ⟨some owner, .obj status⟩ ∧
    isPersistedStatus (.obj status) = true
  mayOwn : MayOwn job.request_id owner v.db
  lock : Lock.status job.request_id ∈ v.locks

theorem MayOwn.of_same {request_id : PyStr} {owner : Nat} {t t' : Tables}
    (h : MayOwn request_id owner t)
    (hsame : t.request_statuses request_id = t'.request_statuses request_id) :
    MayOwn request_id owner t' :=
  fun row hrow => h row (hsame.trans hrow)

theorem StatusWrite.of_rely {owner : Nat} {st : Write} {v v' : TxView}
    (h : StatusWrite job owner st v) (hr : (pipeline hash).Rely v v') :
    StatusWrite job owner st v' :=
  ⟨h.written, h.mayOwn.of_same (hr.same _ h.lock), hr.locks ▸ h.lock⟩

theorem StatusWrite.extend {owner : Nat} {st : Write} (h : StatusWrite job owner st v)
    (ws : List Write) (ls : List Lock) (x : Ext) :
    StatusWrite job owner st (Engine.extend v ws ls x) :=
  ⟨h.written, h.mayOwn, List.mem_append_left _ h.lock⟩

/-- The four ways a persist transaction commits. -/
inductive PersistPost (ok : Event Stmt Stmt.Res PyExc α L → Prop) (l : L) (hash : PyStr → Int)
    (job : IngressJob) (response : Dict) (v : TxView) : Prop
  | hit (key m st) : StoredResponse job key m v → Responds response m →
      StatusWrite job m.user_id st v → v.writes = [st] → PersistPost ok l hash job response v
  | existing (m st) : NoResponse hash job v → m ∈ v.db.messages →
      m.request_id = job.request_id → m.room_id = job.room_id → m.user_id = job.user_id →
      Responds response m → StatusWrite job m.user_id st v → v.writes = [st] →
      PersistPost ok l hash job response v
  | ownDuplicate (n seq m st) : NoResponse hash job v → n = v.db.lastSeq job.room_id + 1 →
      Lock.sequence job.room_id ∈ v.locks → job.room_seq = some seq → seq < n →
      m ∈ v.db.messages → m.request_id = job.request_id → m.room_id = job.room_id →
      m.room_seq = seq → ok (.ran l (.selectMessageBySeq job.room_id seq) (some m)) →
      Responds response m → StatusWrite job m.user_id st v → v.writes = [.putSequence job.room_id n, st] →
      PersistPost ok l hash job response v
  | fresh (n row st o) : NoResponse hash job v → FreshRow job n row v → MessageOk row →
      Responds response row → StatusWrite job row.user_id st v → OutboxFor v.ext row o →
      o.published_at = none →
      v.writes = [.putSequence job.room_id n, .insertMessage row]
        ++ rememberWrites job (messageRowResponse row) ++ [st, .insertOutbox o] →
      PersistPost ok l hash job response v

theorem get?_persistedStatusPayload {request_id : PyStr} {response status : Dict}
    (h : persistedStatusPayload request_id response = .ok status) :
    status.get? "status" = some (.str "persisted") := by
  simp only [persistedStatusPayload, bind_eq_ok] at h
  obtain ⟨event, -, h⟩ := h
  simp only [pure, Except.pure, Except.ok.injEq] at h
  simp [← h]

/-- A persisted status is owned by the user of the response. -/
theorem get?_persistedStatusPayload_actor {request_id : PyStr} {response status : Dict}
    (h : persistedStatusPayload request_id response = .ok status) :
    status.get? "actor_id" = some (responseField response "user_id") := by
  simp only [persistedStatusPayload, bind_eq_ok] at h
  obtain ⟨event, -, h⟩ := h
  simp only [pure, Except.pure, Except.ok.injEq] at h
  simp [← h]

/-- Normalising a status keeps what it says. -/
theorem get?_normalizedRequestStatus {request_id : PyStr} {payload status : Dict} {owner : Nat}
    (h : normalizedRequestStatus request_id payload = .ok (owner, status)) :
    status.get? "status" = payload.get? "status" := by
  simp only [normalizedRequestStatus, bind_eq_ok] at h
  obtain ⟨_, -, _, -, _, -, _, -, _, -, _, -, _, -, h⟩ := h
  simp only [pure, Except.pure, Except.ok.injEq, Prod.mk.injEq] at h
  rw [← h.2, Dict.get?_set_of_ne (by simp), Dict.get?_set_of_ne (by simp),
    Dict.get?_set_of_ne (by simp)]

theorem isPersistedStatus_of_get? {status : Dict}
    (h : status.get? "status" = some (.str "persisted")) : isPersistedStatus (.obj status) = true := by
  simp [isPersistedStatus, h, Json.pyEq, Json.eqItem]

/-- The view after a status write at `v`. -/
def afterStatus (job : IngressJob) (v : TxView) (st : Write) : TxView :=
  Engine.extend v [st] [.status job.request_id] v.ext

/-- A write to the statuses. -/
def isStatusWrite : Write → Bool
  | .putStatus _ _ => true
  | _ => false

theorem visible_statuses (h : ∀ w ∈ v.writes, isStatusWrite w = false) :
    ((engine hash).visible v).request_statuses = v.db.request_statuses := by
  have hkeep : ∀ (ws : List Write) (t : Tables), (∀ w ∈ ws, isStatusWrite w = false) →
      ((engine hash).applyAll ws t).request_statuses = t.request_statuses := by
    intro ws
    induction ws with
    | nil => exact fun _ _ => rfl
    | cons w ws ih =>
        intro t hws
        rw [Engine.applyAll_cons, ih _ fun w' hw' => hws w' (List.mem_cons_of_mem _ hw')]
        have hw := hws w (by simp)
        cases w <;> simp_all [isStatusWrite, engine, Write.apply]
  exact hkeep _ _ h

theorem isStatusWrite_rememberWrites {response : Dict} {w : Write}
    (h : w ∈ rememberWrites job response) : isStatusWrite w = false := by
  unfold rememberWrites at h
  split at h
  · obtain rfl := List.mem_singleton.mp h
    rfl
  · simp at h

/-- A status is owned by the user it names. -/
theorem owner_normalizedRequestStatus {request_id : PyStr} {payload status : Dict}
    {owner user : Nat} (h : normalizedRequestStatus request_id payload = .ok (owner, status))
    (hactor : payload.get? "actor_id" = some (.int user)) : owner = user := by
  simp only [normalizedRequestStatus, bind_eq_ok] at h
  obtain ⟨_, -, _, -, actor_id, hactor_id, user_id, -, _, -, owner', howner, _, -, h⟩ := h
  simp only [pure, Except.pure, Except.ok.injEq, Prod.mk.injEq] at h
  cases hparsed : positiveBigint (.int user) with
  | none => simp [optionalField, hactor, hparsed, require, Except.map] at hactor_id
  | some n =>
      rw [optionalField_present hactor (by simp) hparsed] at hactor_id
      obtain rfl := Except.ok.inj hactor_id
      obtain ⟨hint, -⟩ := positiveBigint_eq_some.mp hparsed
      have hn : user = n := by simpa using hint
      rw [require_eq_ok, Option.some_or] at howner
      rw [← h.1, hn, ← Option.some.inj howner]

/-- The status write inside a transaction that has written no status yet. It is refused where
the payload is no status, or where another user owns the status of the request. -/
theorem ensures_upsertRequestStatus {payload : Dict} {user : Nat}
    (hready : (pipeline hash).Ready v)
    (hpersisted : payload.get? "status" = some (.str "persisted"))
    (hactor : payload.get? "actor_id" = some (.int user))
    (hws : ∀ w ∈ v.writes, isStatusWrite w = false)
    (hnormal : (∃ status, normalizedRequestStatus job.request_id payload = .ok (user, status)) ∨
      Refusal v.db job)
    (huser : user = job.user_id ∨ Refusal v.db job) :
    (pipeline hash).Ends ok l
      (fun _ v' => ∃ v₁ st, (pipeline hash).Rely v v₁ ∧
        StatusWrite job user st (afterStatus job v₁ st) ∧
        (pipeline hash).Ready (afterStatus job v₁ st) ∧
        (pipeline hash).Rely (afterStatus job v₁ st) v')
      (Refused job) (upsertRequestStatus job.request_id payload) v := by
  refine Protocol.ends_ofExcept _ (fun normalised hnormalised => ?_) fun exc hfailed v' hr => ?_
  -- the payload is no status: the refusal was there before the call
  swap
  · rcases hnormal with ⟨status, hstatus⟩ | hrefusal
    · rw [hstatus] at hfailed
      cases hfailed
    · exact refused_of_rely hrefusal hr
  obtain ⟨owner, status⟩ := normalised
  obtain rfl := owner_normalizedRequestStatus hnormalised hactor
  refine Protocol.ends_call _ hready ?_
    (refused_call (by simp [Stmt.texts, request_id_mem_sentTexts]))
  intro v₁ hr₁ hready₁ held now c written ws ls x hexec _ _
  obtain ⟨rfl, hx, -, -, ⟨rfl, rfl, hown⟩ | ⟨rfl, rfl, other, another, hrow, howned, hne⟩⟩ :=
    exec_upsertRequestStatus hexec
  · obtain rfl : x = v₁.ext := hx
    refine ⟨by simp [pipeline, discipline, Write.keys], fun hready₂ => ?_⟩
    rw [visible_statuses (hr₁.writes ▸ hws)] at hown
    refine Protocol.ends_ret _ fun v' hr =>
      ⟨v₁, _, hr₁, ⟨⟨status, rfl, ?_⟩, hown, by simp [afterStatus, Engine.extend]⟩, hready₂, hr⟩
    exact isPersistedStatus_of_get? ((get?_normalizedRequestStatus hnormalised).trans hpersisted)
  · obtain rfl : x = v₁.ext := hx
    rw [visible_statuses (hr₁.writes ▸ hws)] at hrow
    -- the status belongs to somebody else, and an owner stays
    have hrefusal : Refusal v₁.db job := by
      rcases huser with huser | hrefusal
      · exact .statusOwner another ⟨other, hrow, howned⟩ (huser ▸ hne)
      · exact hrefusal.of_grows hr₁.grows
    refine ⟨by simp, fun _ => Protocol.ends_throw _ fun v' hr => ?_⟩
    exact fun _ => hrefusal.of_grows hr.grows

theorem FreshRow.messageOk {n : Nat} {row : MessageRow} (h : FreshRow job n row v)
    (hjob : job.Valid rt) (hunique : Json.Unique (.obj job.metadata))
    (hevent : EventOk (decide (2 ≤ row.schema_version)) row.event_type row.payload row.metadata) :
    MessageOk row := by
  have hn := h.counter
  have hle := h.counter_le
  have hid := And.intro h.id_pos h.id_le
  have htexts := h.texts
  have hrid := htexts row.request_id (by simp [MessageRow.texts])
  obtain ⟨id, created_at, hcreated, rfl⟩ := h.row_eq
  refine ⟨hid, hjob.room_id, hjob.user_id, ⟨?_, hle⟩, ⟨hjob.request_id.1, hjob.request_id.2.1, hrid⟩,
    hjob.schema_version, hevent, htexts,
    ⟨legacyBodyPreview_ne_nil job.payload, legacyBodyPreview_length job.payload⟩, hcreated, ?_⟩
  · show 0 < n
    omega
  · refine jsonbDict_unique ?_
    show Json.Unique (.obj (storedMetadata job job.event_type job.metadata))
    unfold storedMetadata
    split_ifs
    · exact hunique.set _ trivial
    · exact hunique

/-- The inserted row is well formed once its status has been made: that has read the
event back. -/
theorem FreshRow.messageOk_of_status {n : Nat} {row : MessageRow} (h : FreshRow job n row v)
    (hjob : job.Valid rt) (hunique : Json.Unique (.obj job.metadata)) {response status : Dict}
    (hresponds : Responds response row)
    (hstatus : persistedStatusPayload job.request_id response = .ok status) : MessageOk row := by
  refine h.messageOk hjob hunique ?_
  obtain ⟨id, created_at, -, hrow⟩ := h.row_eq
  simp only [persistedStatusPayload, bind_eq_ok] at hstatus
  obtain ⟨event, hevent, -⟩ := hstatus
  refine hresponds.eventOk ?_ ?_ hevent
  · rw [hrow]
    exact hjob.schema_version.1
  · rw [hrow]
    exact hjob.event.type_ne_nil

theorem PersistPost.of_rely {response : Dict} {v' : TxView}
    (h : PersistPost ok l hash job response v) (hr : (pipeline hash).Rely v v') :
    PersistPost ok l hash job response v' := by
  cases h with
  | hit key m st hm hresponds hst hw =>
      exact .hit key m st (hm.of_rely hr) hresponds (hst.of_rely hr) (hr.writes.trans hw)
  | existing m st hnone hm hrid hroom huser hresponds hst hw =>
      exact .existing m st (hnone.of_rely hr) (hr.grows.messages hm) hrid hroom huser hresponds
        (hst.of_rely hr) (hr.writes.trans hw)
  | ownDuplicate n seq m st hnone hn hlock hseq hlt hm hrid hroom hmseq hok hresponds hst hw =>
      have hsame : (Lock.sequence job.room_id).Same (advisoryOf hash) v.db v'.db :=
        hr.same (.sequence job.room_id) hlock
      exact .ownDuplicate n seq m st (hnone.of_rely hr)
        (by rw [lastSeq_of_same hsame]; exact hn) (hr.locks ▸ hlock) hseq hlt
        (hr.grows.messages hm) hrid hroom hmseq hok hresponds (hst.of_rely hr)
        (hr.writes.trans hw)
  | fresh n row st o hnone hrow hmok hresponds hst hfor hpub hw =>
      exact .fresh n row st o (hnone.of_rely hr) (hrow.of_rely hr) hmok hresponds (hst.of_rely hr)
        (hfor.of_le hr.grows.ext) hpub (hr.writes.trans hw)

/-- A write to the outbox. -/
def isOutboxWrite : Write → Bool
  | .insertOutbox _ | .putOutbox _ => true
  | _ => false

theorem visible_outboxRow (h : ∀ w ∈ v.writes, isOutboxWrite w = false) (id : Nat) :
    ((engine hash).visible v).outboxRow id = v.db.outboxRow id := by
  have hkeep : ∀ (ws : List Write) (t : Tables), (∀ w ∈ ws, isOutboxWrite w = false) →
      ((engine hash).applyAll ws t).notification_outbox = t.notification_outbox := by
    intro ws
    induction ws with
    | nil => exact fun _ _ => rfl
    | cons w ws ih =>
        intro t hws
        rw [Engine.applyAll_cons, ih _ fun w' hw' => hws w' (List.mem_cons_of_mem _ hw')]
        have hw := hws w (by simp)
        cases w <;> simp_all [isOutboxWrite, engine, Write.apply]
  rw [Tables.outboxRow, Engine.visible, hkeep _ _ h, Tables.outboxRow]

theorem StatusWrite.isOutboxWrite {owner : Nat} {st : Write} (h : StatusWrite job owner st v) :
    Worker.isOutboxWrite st = false := by
  obtain ⟨status, rfl, -⟩ := h.written
  rfl

theorem isOutboxWrite_rememberWrites {response : Dict} {w : Write}
    (h : w ∈ rememberWrites job response) : isOutboxWrite w = false := by
  unfold rememberWrites at h
  split at h
  · obtain rfl := List.mem_singleton.mp h
    rfl
  · simp at h

/-- Queueing the notification of a message that has its outbox row already. -/
theorem ensures_enqueueNotification_known {m : MessageRow} {response : Dict}
    (hready : (pipeline hash).Ready v) (hpost : PersistPost ok l hash job response v)
    (hm : m ∈ v.db.messages) (hws : ∀ w ∈ v.writes, isOutboxWrite w = false) :
    (pipeline hash).Ends ok l (PersistPost ok l hash job) (Refused job)
      (enqueueNotification (notificationOf m) >>= fun _ => (pure response : Transaction Dict)) v := by
  refine Protocol.ends_call _ hready ?_ (refused_call (by simp [Stmt.texts]))
  intro v₁ hr₁ hready₁ held now c u ws ls x hexec _ _
  have hrow : ((engine hash).visible v₁).outboxRow m.id ≠ none := by
    rw [visible_outboxRow (hr₁.writes ▸ hws)]
    exact hready₁.inv.outboxRow_ne_none (hr₁.grows.messages hm)
  have hid : intEntry (notificationOf m) "event_id" = m.id := by simp [intEntry, notificationOf]
  rw [hid] at hexec
  obtain ⟨hx, -, ⟨-, rfl, rfl⟩ | ⟨hnone, -, -⟩⟩ := exec_insertOutbox hexec
  · obtain rfl : x = v₁.ext := hx
    refine ⟨by simp, fun _ => Protocol.ends_ret _ fun v' hr => ?_⟩
    have hself : Engine.extend v₁ [] [] v₁.ext = v₁ := by simp [Engine.extend]
    exact (hpost.of_rely hr₁).of_rely (hself ▸ hr)
  · exact absurd hnone hrow

/-- Queueing the notification of the transaction's own message. The message is new, so it has no
outbox row yet, and the insert adds one. -/
theorem ensures_enqueueNotification_fresh {n : Nat} {row : MessageRow} {st : Write}
    {response : Dict} (hready : (pipeline hash).Ready v) (hnone : NoResponse hash job v)
    (hrow : FreshRow job n row v) (hmok : MessageOk row) (hresponds : Responds response row)
    (hst : StatusWrite job row.user_id st v)
    (hw : v.writes = [.putSequence job.room_id n, .insertMessage row]
      ++ rememberWrites job (messageRowResponse row) ++ [st]) :
    (pipeline hash).Ends ok l (PersistPost ok l hash job) (Refused job)
      (enqueueNotification (notificationOf row) >>= fun _ => (pure response : Transaction Dict))
      v := by
  refine Protocol.ends_call _ hready ?_ (refused_call (by simp [Stmt.texts]))
  intro v₁ hr₁ hready₁ held now c u ws ls x hexec _ _
  have hrow₁ := hrow.of_rely hr₁
  -- no write of the transaction so far is one of the outbox
  have hwrites : ∀ w ∈ v₁.writes, isOutboxWrite w = false := by
    rw [hr₁.writes, hw]
    intro w hw
    simp only [List.mem_append, List.mem_cons, List.not_mem_nil, or_false] at hw
    rcases hw with ((rfl | rfl) | hw) | rfl
    · rfl
    · rfl
    · exact isOutboxWrite_rememberWrites hw
    · exact hst.isOutboxWrite
  -- a message that is new has no outbox row: the insert meets no conflict
  have hfree : ((engine hash).visible v₁).outboxRow row.id = none := by
    rw [visible_outboxRow hwrites]
    exact hready₁.inv.outboxRow_eq_none hrow₁.id_fresh
  have hid : intEntry (notificationOf row) "event_id" = row.id := by
    simp [intEntry, notificationOf]
  have hstream : intEntry (notificationOf row) "stream_id" = row.room_id := by
    simp [intEntry, notificationOf]
  rw [hid, hstream] at hexec
  obtain ⟨hx, -, ⟨hsome, -, -⟩ | ⟨-, rfl, rfl⟩⟩ := exec_insertOutbox hexec
  · exact absurd hfree hsome
  · obtain rfl : x = v₁.ext := hx
    refine ⟨by simp [pipeline, discipline, Write.keys], fun _ =>
      Protocol.ends_ret _ fun v' hr => PersistPost.of_rely ?_ hr⟩
    refine .fresh n row st ⟨row.id, row.room_id, notificationOf row, now, 0, none, none⟩
      ((hnone.of_rely hr₁).extend _ _ _) (hrow₁.extend _ _ (le_refl _)) hmok hresponds
      ((hst.of_rely hr₁).extend _ _ _) ⟨rfl, rfl, rfl, fun hpub => absurd rfl hpub⟩ rfl ?_
    simp [Engine.extend, hr₁.writes, hw]

/-- No status is pending yet. -/
theorem Sequenced.noStatus {response : Dict} (h : Sequenced ok l hash job response v) :
    ∀ w ∈ v.writes, isStatusWrite w = false := by
  cases h with
  | hit key m hm hresponse hw => simp [hw]
  | existing m hnone hm hrid hroom huser hresponse hw => simp [hw]
  | ownDuplicate n seq m hnone hn hlock hseq hlt hm hrid hroom hmseq hok hresponse hw =>
      simp [hw, isStatusWrite]
  | fresh n row hnone hrow hresponse hw =>
      intro w hmem
      rw [hw] at hmem
      rcases List.mem_append.mp hmem with hmem | hmem
      · simp only [List.mem_cons, List.not_mem_nil, or_false] at hmem
        rcases hmem with rfl | rfl <;> rfl
      · exact isStatusWrite_rememberWrites hmem

/-- The response is that of a message of the job's user which is well formed, or there is a
reason to refuse the job. -/
theorem Sequenced.message {response : Dict} (h : Sequenced ok l hash job response v)
    (hjob : job.Valid rt) (hunique : Json.Unique (.obj job.metadata)) (hinv : Inv v.db v.ext) :
    ∃ m : MessageRow, Responds response m ∧ (MessageOk m ∨ Refusal v.db job) ∧
      (m.user_id = job.user_id ∨ Refusal v.db job) := by
  cases h with
  | hit key m hm hresponse hw =>
      refine ⟨m, ?_, Or.inl (hinv.messages m hm.mem), Or.inl hm.user_id⟩
      exact hresponse ▸ (responds_messageRowResponse m).set_hit _
  | existing m hnone hm hrid hroom huser hresponse hw =>
      exact ⟨m, hresponse ▸ responds_messageRowResponse m, Or.inl (hinv.messages m hm),
        Or.inl huser⟩
  | ownDuplicate n seq m hnone hn hlock hseq hlt hm hrid hroom hmseq hok hresponse hw =>
      refine ⟨m, hresponse ▸ responds_messageRowResponse m, Or.inl (hinv.messages m hm), ?_⟩
      by_cases huser : m.user_id = job.user_id
      · exact Or.inl huser
      · exact Or.inr (.requestIdentityConflict m hm hrid (Or.inr huser))
  | fresh n row hnone hrow hresponse hw =>
      refine ⟨row, hresponse ▸ responds_messageRowResponse row, ?_, ?_⟩
      · by_cases hevent : EventOk (decide (2 ≤ row.schema_version)) row.event_type row.payload
          row.metadata
        · exact Or.inl (hrow.messageOk hjob hunique hevent)
        · obtain ⟨id, created_at, -, rfl⟩ := hrow.row_eq
          exact Or.inr (.storedForm hevent)
      · obtain ⟨id, created_at, -, rfl⟩ := hrow.row_eq
        exact Or.inl rfl

/-- The status row and the outbox row. -/
theorem ensures_recordPersisted {response : Dict} (hjob : job.Valid rt)
    (hunique : Json.Unique (.obj job.metadata)) (h : AfterResponse ok l hash job response v) :
    (pipeline hash).Ends ok l (PersistPost ok l hash job) (Refused job)
      (recordPersisted job response) v := by
  obtain ⟨hready, hseq⟩ := h
  refine Protocol.ends_select _ hready ?_ (refused_call (by simp [Stmt.texts]))
  intro v₁ hr₁ hready₁ held now c persisted_at ws ls x hexec _
  obtain ⟨hat, rfl, rfl, rfl⟩ := exec_nowIso hexec
  replace hat : PyStr.Clean persisted_at := hat ▸ DateTime.isoformat_clean _
  have hseq₁ := hseq.of_rely hr₁
  -- the response is that of a row, whichever way it was found
  obtain ⟨row, hrow, hok, huser⟩ := hseq₁.message hjob hunique hready₁.inv
  have hpayload : (hmok : MessageOk row) → persistedStatusPayload job.request_id
      (response.set "persisted_at" (.str persisted_at))
        = .ok (persistedStatus row job.request_id persisted_at) := fun hmok =>
    (hrow.set_persisted_at _).persistedStatusPayload hmok (Dict.get?_set_self _ _ _)
  refine ⟨rfl, rfl, rfl, Protocol.ends_ofExcept _ (fun status hstatus => ?_)
    fun exc hfailed v' hr => ?_⟩
  swap
  · rcases hok with hmok | hrefusal
    · rw [hpayload hmok] at hfailed
      cases hfailed
    · exact refused_of_rely hrefusal hr
  obtain ⟨user, huser_id, hsame⟩ : ∃ user : Nat,
      response.get? "user_id" = some (.int user) ∧ user = row.user_id :=
    ⟨row.user_id, hrow.user_id, rfl⟩
  have hactor : status.get? "actor_id" = some (.int user) := by
    rw [get?_persistedStatusPayload_actor hstatus, responseField,
      Dict.get?_set_of_ne (by simp), huser_id, Option.getD_some]
  -- the status of a sound row is accepted, unless the request id cannot be sent
  have hnormal : (∃ written, normalizedRequestStatus job.request_id status = .ok (user, written)) ∨
      Refusal v₁.db job := by
    by_cases hclean : job.request_id.Clean
    · refine hok.imp_left fun hmok => ?_
      obtain rfl : persistedStatus row job.request_id persisted_at = status :=
        Except.ok.inj ((hpayload hmok).symm.trans hstatus)
      exact ⟨_, hsame ▸ normalizedRequestStatus_persistedStatus hmok
        ⟨hjob.request_id.1, hjob.request_id.2.1⟩ hclean hat⟩
    · exact Or.inr (.unsendable _ (request_id_mem_sentTexts job) hclean)
  refine Protocol.Ends.bind _ (ensures_upsertRequestStatus hready₁
    (get?_persistedStatusPayload hstatus) hactor hseq₁.noStatus hnormal (hsame ▸ huser)) ?_
  rintro - v₃ ⟨v₂, st, hr₂, hst, hready₂, hr₃⟩
  have howner : ∀ m, Dict.get? response "user_id" = some (.int (MessageRow.user_id m)) →
      user = m.user_id := fun m hm => by simpa [huser_id] using hm
  have hready₃ := hready₂.of_rely _ hr₃
  have hdb : (afterStatus job v₂ st).db = v₂.db := rfl
  have hws : (afterStatus job v₂ st).writes = v₂.writes ++ [st] := rfl
  -- a hit queues no notification; a known message may have one already; a new one gets its own
  cases (hseq.of_rely hr₁).of_rely hr₂ with
  | hit key m hm hresponse hw =>
      have hflag : isIdempotencyHit (response.set "persisted_at" (.str persisted_at)) = true := by
        rw [isIdempotencyHit_set_persisted_at, hresponse, isIdempotencyHit_set_hit]
      simp only [hflag, if_true]
      refine Protocol.ends_ret _ fun v' hr => PersistPost.of_rely ?_ (hr₃.trans _ hr)
      obtain rfl := howner m (hresponse ▸ ((responds_messageRowResponse m).set_hit _).user_id)
      refine .hit key m st ⟨hm.key_eq, hm.stored, hm.mem, hm.user_id, hm.room_id⟩ ?_ hst ?_
      · exact hresponse ▸ ((responds_messageRowResponse m).set_hit _).set_persisted_at _
      · rw [hws, hw]
        rfl
  | existing m hnone hm hrid hroom huser hresponse hw =>
      have hresponds : Responds (response.set "persisted_at" (.str persisted_at)) m :=
        hresponse ▸ (responds_messageRowResponse m).set_persisted_at _
      have hflag : isIdempotencyHit (response.set "persisted_at" (.str persisted_at)) = false := by
        rw [isIdempotencyHit_set_persisted_at, hresponse, isIdempotencyHit_messageRowResponse]
      have hm₃ : m ∈ v₃.db.messages := hr₃.grows.messages hm
      simp only [hflag, Bool.false_eq_true, if_false,
        hresponds.notificationAttemptPayload (hready₃.inv.messages m hm₃)]
      obtain rfl := howner m (hresponse ▸ (responds_messageRowResponse m).user_id)
      refine ensures_enqueueNotification_known hready₃ (PersistPost.of_rely ?_ hr₃) hm₃ ?_
      · exact .existing m st (hnone.extend _ _ _) hm hrid hroom huser hresponds hst
          (by rw [hws, hw]; rfl)
      · rw [hr₃.writes, hws, hw]
        simpa using hst.isOutboxWrite
  | ownDuplicate n seq m hnone hn hlock hseq hlt hm hrid hroom hmseq hok hresponse hw =>
      have hresponds : Responds (response.set "persisted_at" (.str persisted_at)) m :=
        hresponse ▸ (responds_messageRowResponse m).set_persisted_at _
      have hflag : isIdempotencyHit (response.set "persisted_at" (.str persisted_at)) = false := by
        rw [isIdempotencyHit_set_persisted_at, hresponse, isIdempotencyHit_messageRowResponse]
      have hm₃ : m ∈ v₃.db.messages := hr₃.grows.messages hm
      simp only [hflag, Bool.false_eq_true, if_false,
        hresponds.notificationAttemptPayload (hready₃.inv.messages m hm₃)]
      obtain rfl := howner m (hresponse ▸ (responds_messageRowResponse m).user_id)
      refine ensures_enqueueNotification_known hready₃ (PersistPost.of_rely ?_ hr₃) hm₃ ?_
      · exact .ownDuplicate n seq m st (hnone.extend _ _ _) hn (List.mem_append_left _ hlock) hseq
          hlt hm hrid hroom hmseq hok hresponds hst (by rw [hws, hw]; rfl)
      · rw [hr₃.writes, hws, hw]
        simpa [isOutboxWrite] using hst.isOutboxWrite
  | fresh n row hnone hrow hresponse hw =>
      have hresponds : Responds (response.set "persisted_at" (.str persisted_at)) row :=
        hresponse ▸ (responds_messageRowResponse row).set_persisted_at _
      have hflag : isIdempotencyHit (response.set "persisted_at" (.str persisted_at)) = false := by
        rw [isIdempotencyHit_set_persisted_at, hresponse, isIdempotencyHit_messageRowResponse]
      have hmok := hrow.messageOk_of_status hjob hunique hresponds hstatus
      simp only [hflag, Bool.false_eq_true, if_false, hresponds.notificationAttemptPayload hmok]
      obtain rfl := howner row (hresponse ▸ (responds_messageRowResponse row).user_id)
      refine ensures_enqueueNotification_fresh hready₃ ?_ ?_ hmok hresponds (hst.of_rely hr₃) ?_
        (n := n)
      · exact NoResponse.of_rely (hnone.extend [st] [.status job.request_id] v₂.ext) hr₃
      · exact FreshRow.of_rely (hrow.extend [st] [.status job.request_id] (le_refl _)) hr₃
      · rw [hr₃.writes, hws, hw]

/-- **A persist transaction commits in one of four ways.** -/
theorem ensures_persistIngressJob (hjob : job.Valid rt) (hunique : Json.Unique (.obj job.metadata))
    (hready : (pipeline hash).Ready v) (hw : v.writes = []) :
    (pipeline hash).Ends ok l (PersistPost ok l hash job) (Refused job) (persistIngressJob job) v :=
  Protocol.Ends.bind _ (ensures_persistMessageWithCursor hjob hready hw)
    fun _ _ h => ensures_recordPersisted hjob hunique h

end Spec

end EventPipeline.Worker
