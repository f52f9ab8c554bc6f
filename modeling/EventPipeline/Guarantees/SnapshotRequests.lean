import EventPipeline.OpsAgent.ObservationFacts

/-!
# EventPipeline.Guarantees.SnapshotRequests

The `requests` fact has a value exactly where the inventory is complete.

`_requests` indexes the receipts and the polls by their request ids, compares the two key sets
and reads the poll of every receipt. `requests_ok` inverts it: a value comes from rows under
distinct texts (`CompleteInventory`), each with a poll that could be read (`ReadableInventory`).
`requests_complete` goes the other way: of such an inventory no check of the loop fails.
-/

namespace EventPipeline.Guarantees

open EventPipeline.Python EventPipeline.OpsAgent EventPipeline.OpsAgent.ObservationFacts
open EventPipeline.OpsAgent.Experiment (truthy isContainer)

/-! ### Rows by their ids

`{r["request_id"]: r for r in rows}` has as many entries as there are rows only where no two ids
are equal, and then it has the rows in their order. Equality is that of Python, so the lemmas
about `eqItem` come first: against a text it is equality, and it is symmetric on values that
have a hash. -/

theorem eqItem_str_left {value : Json} {s : PyStr} :
    value.eqItem (.str s) = true ↔ value = .str s := by
  cases value with
  | float f => cases f <;> simp [Json.eqItem, Json.number?]
  | null => simp [Json.eqItem, Json.number?]
  | bool b => simp [Json.eqItem, Json.number?]
  | int z => simp [Json.eqItem, Json.number?]
  | str t => simp [Json.eqItem]
  | arr xs => simp [Json.eqItem, Json.number?]
  | obj kvs => simp [Json.eqItem, Json.number?]

/-- Values with a hash are equal both ways round. -/
theorem eqItem_comm {a b : Json} (ha : isContainer a = false) (hb : isContainer b = false) :
    a.eqItem b = b.eqItem a := by
  -- numbers and booleans compare by value, and nothing else is equal across types
  cases a with
  | arr xs => cases ha
  | obj kvs => cases ha
  | float f =>
      cases b with
      | arr xs => cases hb
      | obj kvs => cases hb
      | float g => cases f <;> cases g <;>
          simp [Json.eqItem, Json.number?, Bool.beq_comm]
      | null => cases f <;> simp [Json.eqItem, Json.number?]
      | str s => cases f <;> simp [Json.eqItem, Json.number?]
      | bool c => cases f <;> simp [Json.eqItem, Json.number?, Bool.beq_comm]
      | int z => cases f <;> simp [Json.eqItem, Json.number?, Bool.beq_comm]
  | null =>
      cases b with
      | float f => cases f <;> simp [Json.eqItem, Json.number?]
      | _ => simp [Json.eqItem, Json.number?]
  | str s =>
      cases b with
      | float f => cases f <;> simp [Json.eqItem, Json.number?]
      | _ => simp [Json.eqItem, Json.number?, Bool.beq_comm]
  | bool c =>
      cases b with
      | arr xs => cases hb
      | obj kvs => cases hb
      | float f => cases f <;> simp [Json.eqItem, Json.number?, Bool.beq_comm]
      | _ => simp [Json.eqItem, Json.number?, Bool.beq_comm]
  | int z =>
      cases b with
      | arr xs => cases hb
      | obj kvs => cases hb
      | float f => cases f <;> simp [Json.eqItem, Json.number?, Bool.beq_comm]
      | _ => simp [Json.eqItem, Json.number?, Bool.beq_comm]

theorem eqItem_str_right {value : Json} {s : PyStr} :
    (Json.str s).eqItem value = true ↔ value = .str s := by
  cases value with
  | float f => cases f <;> simp [Json.eqItem, Json.number?]
  | null => simp [Json.eqItem, Json.number?]
  | bool b => simp [Json.eqItem, Json.number?]
  | int z => simp [Json.eqItem, Json.number?]
  | str t =>
      simp only [Json.eqItem, beq_iff_eq, Json.str.injEq]
      exact eq_comm
  | arr xs => simp [Json.eqItem, Json.number?]
  | obj kvs => simp [Json.eqItem, Json.number?]

theorem insertKey_cases (key row : Json) (entries : List (Json × Json)) :
    ((∀ entry ∈ entries, ¬entry.1.eqItem key = true) ∧
      insertKey key row entries = entries ++ [(key, row)]) ∨
    (insertKey key row entries).length = entries.length := by
  induction entries with
  | nil => exact .inl ⟨by simp, rfl⟩
  | cons entry entries ih =>
      rw [insertKey]
      split_ifs with heq
      · exact .inr rfl
      · rcases ih with ⟨hnone, happend⟩ | hlength
        · refine .inl ⟨List.forall_mem_cons.mpr ⟨heq, hnone⟩, ?_⟩
          rw [happend, List.cons_append]
        · exact .inr (congrArg (· + 1) hlength)

theorem length_indexRows_le {entries result : List (Json × Json)} {rows : List Json}
    (h : indexRows entries rows = .ok result) : result.length ≤ entries.length + rows.length := by
  induction rows generalizing entries with
  | nil =>
      obtain rfl : entries = result := OpsAgent.pure_ok.mp h
      exact Nat.le_add_right _ _
  | cons row rows ih =>
      simp only [indexRows, OpsAgent.bind_ok] at h
      obtain ⟨key, _, _, _, h⟩ := h
      have hlength := ih h
      rcases insertKey_cases key row entries with ⟨_, happend⟩ | hsame
      · rw [happend, List.length_append, List.length_singleton] at hlength
        rw [List.length_cons]
        omega
      · rw [hsame] at hlength
        rw [List.length_cons]
        omega

/-- A dict with as many entries as there are rows has every row, under a key of its own. -/
theorem indexRows_full {entries result : List (Json × Json)} {rows : List Json}
    (h : indexRows entries rows = .ok result)
    (hlength : result.length = entries.length + rows.length)
    (hdistinct : entries.Pairwise fun a b => ¬a.1.eqItem b.1 = true)
    (hread : ∀ entry ∈ entries, field entry.2 "request_id" = .ok entry.1) :
    result.map Prod.snd = entries.map Prod.snd ++ rows ∧
    (result.Pairwise fun a b => ¬a.1.eqItem b.1 = true) ∧
    ∀ entry ∈ result, field entry.2 "request_id" = .ok entry.1 := by
  -- row by row: an id that is there already is written over, and an entry is missing at the end
  induction rows generalizing entries with
  | nil =>
      obtain rfl : entries = result := OpsAgent.pure_ok.mp h
      exact ⟨(List.append_nil _).symm, hdistinct, hread⟩
  | cons row rows ih =>
      simp only [indexRows, OpsAgent.bind_ok] at h
      obtain ⟨key, hkey, _, _, h⟩ := h
      have hle := length_indexRows_le h
      rw [List.length_cons] at hlength
      rcases insertKey_cases key row entries with ⟨hnone, happend⟩ | hsame
      · rw [happend] at h
        obtain ⟨hrows, hresult⟩ := ih h (by rw [List.length_append, List.length_singleton]; omega)
          (List.pairwise_append.mpr ⟨hdistinct, List.pairwise_singleton _ _,
            fun entry hentry other hother => by
              rw [List.mem_singleton.mp hother]
              exact hnone entry hentry⟩)
          (fun entry hentry => by
            rcases List.mem_append.mp hentry with hentry | hentry
            · exact hread entry hentry
            · rw [List.mem_singleton.mp hentry]
              exact hkey)
        refine ⟨?_, hresult⟩
        rw [hrows, List.map_append, List.append_assoc]
        rfl
      · rw [hsame] at hle
        omega

/-- The rows of a list, each under its own id, which is a text and not empty. -/
structure RowsById (rows : List Json) (entries : List (PyStr × Json)) : Prop where
  rows_eq : entries.map Prod.snd = rows
  ids_nodup : (entries.map Prod.fst).Nodup
  nonempty : ∀ entry ∈ entries, entry.1 ≠ []
  read : ∀ entry ∈ entries, field entry.2 "request_id" = .ok (.str entry.1)

theorem textKeys_some {entries : List (Json × Json)} {texts : List (PyStr × Json)}
    (h : textKeys entries = some texts) :
    entries = texts.map (fun entry => (.str entry.1, entry.2)) ∧ ∀ entry ∈ texts, entry.1 ≠ [] := by
  induction entries generalizing texts with
  | nil =>
      obtain rfl : [] = texts := Option.some.inj h
      exact ⟨rfl, by simp⟩
  | cons entry entries ih =>
      obtain ⟨key, row⟩ := entry
      simp only [textKeys, List.mapM_cons, Option.bind_eq_bind, Option.bind_eq_some_iff] at h
      obtain ⟨first, hfirst, rest, hrest, heq⟩ := h
      obtain rfl : first :: rest = texts := Option.some.inj heq
      obtain ⟨rfl, hnonempty⟩ := ih hrest
      split at hfirst
      · rename_i c cs
        obtain rfl := Option.some.inj hfirst
        exact ⟨rfl, List.forall_mem_cons.mpr ⟨by simp, hnonempty⟩⟩
      · cases hfirst

theorem rowsById_of_indexRows {rows : List Json} {entries : List (Json × Json)}
    {texts : List (PyStr × Json)} (h : indexRows [] rows = .ok entries)
    (hlength : entries.length = rows.length)
    (htexts : entries = texts.map fun entry => (.str entry.1, entry.2))
    (hnonempty : ∀ entry ∈ texts, entry.1 ≠ []) : RowsById rows texts := by
  obtain ⟨hrows, hdistinct, hread⟩ := indexRows_full h (by simpa using hlength)
    List.Pairwise.nil (by simp)
  subst htexts
  refine ⟨?_, ?_, hnonempty, fun entry hentry => ?_⟩
  · rw [List.map_map] at hrows
    exact hrows
  · rw [List.Nodup, List.pairwise_map]
    rw [List.pairwise_map] at hdistinct
    refine hdistinct.imp fun hne heq => hne ?_
    rw [heq, eqItem_str_left]
  · exact hread _ (List.mem_map_of_mem hentry)

/-- Keys that equal texts are those texts. -/
theorem exists_texts {receipts : List (PyStr × Json)} {states : List (Json × Json)}
    (h : ∀ state ∈ states, ∃ receipt ∈ receipts, state.1 = .str receipt.1) :
    ∃ texts : List (PyStr × Json), states = texts.map (fun entry => (.str entry.1, entry.2)) ∧
      ∀ entry ∈ texts, ∃ receipt ∈ receipts, entry.1 = receipt.1 := by
  induction states with
  | nil => exact ⟨[], rfl, by simp⟩
  | cons state states ih =>
      obtain ⟨hstate, hstates⟩ := List.forall_mem_cons.mp h
      obtain ⟨receipt, hreceipt, hkey⟩ := hstate
      obtain ⟨texts, rfl, htexts⟩ := ih hstates
      refine ⟨(receipt.1, state.2) :: texts, ?_, ?_⟩
      · rw [List.map_cons, ← hkey]
      · exact List.forall_mem_cons.mpr ⟨⟨receipt, hreceipt, rfl⟩, htexts⟩

theorem insertKey_fresh {key row : Json} {entries : List (Json × Json)}
    (h : ∀ entry ∈ entries, ¬entry.1.eqItem key = true) :
    insertKey key row entries = entries ++ [(key, row)] := by
  induction entries with
  | nil => rfl
  | cons entry entries ih =>
      obtain ⟨hentry, hentries⟩ := List.forall_mem_cons.mp h
      rw [insertKey, if_neg hentry, ih hentries, List.cons_append]

/-- Rows under distinct ids that are texts are all kept. -/
theorem indexRows_texts {entries : List (Json × Json)} {texts : List (PyStr × Json)}
    (hread : ∀ entry ∈ texts, field entry.2 "request_id" = .ok (.str entry.1))
    (hnodup : (texts.map Prod.fst).Nodup)
    (hfresh : ∀ entry ∈ entries, ∀ text ∈ texts, ¬entry.1.eqItem (.str text.1) = true) :
    indexRows entries (texts.map Prod.snd) =
      .ok (entries ++ texts.map fun entry => (.str entry.1, entry.2)) := by
  induction texts generalizing entries with
  | nil =>
      show Except.ok entries = Except.ok (entries ++ [])
      rw [List.append_nil]
  | cons text texts ih =>
      obtain ⟨hfirst, hrest⟩ := List.forall_mem_cons.mp hread
      rw [List.map_cons, List.nodup_cons] at hnodup
      have hinsert : insertKey (.str text.1) text.2 entries = entries ++ [(.str text.1, text.2)] :=
        insertKey_fresh fun entry hentry => hfresh entry hentry text List.mem_cons_self
      have hlater : ∀ entry ∈ entries ++ [(.str text.1, text.2)], ∀ later ∈ texts,
          ¬entry.1.eqItem (.str later.1) = true := by
        intro entry hentry later hlater heq
        rcases List.mem_append.mp hentry with hentry | hentry
        · exact hfresh entry hentry later (List.mem_cons_of_mem _ hlater) heq
        · rw [List.mem_singleton.mp hentry, eqItem_str_left] at heq
          rw [Json.str.inj heq] at hnodup
          exact hnodup.1 (List.mem_map_of_mem hlater)
      have hnext := ih hrest hnodup.2 hlater
      simp only [List.map_cons, indexRows, OpsAgent.bind_ok, ensure_eq_ok]
      refine ⟨_, hfirst, (), by simp [isContainer], ?_⟩
      rw [hinsert, hnext, List.append_assoc, List.singleton_append]

theorem textKeys_texts {texts : List (PyStr × Json)} (h : ∀ entry ∈ texts, entry.1 ≠ []) :
    textKeys (texts.map fun entry => (.str entry.1, entry.2)) = some texts := by
  induction texts with
  | nil => rfl
  | cons text texts ih =>
      obtain ⟨hfirst, hrest⟩ := List.forall_mem_cons.mp h
      obtain ⟨id, row⟩ := text
      obtain ⟨c, cs, rfl⟩ := List.exists_cons_of_ne_nil hfirst
      have hnext := ih hrest
      rw [textKeys] at hnext ⊢
      rw [List.map_cons, List.mapM_cons, hnext]
      rfl

/-- Two dicts over the same texts have the same keys. -/
theorem sameKeys_texts {receipts polls : List (PyStr × Json)}
    (h : ∀ id, id ∈ receipts.map Prod.fst ↔ id ∈ polls.map Prod.fst) :
    sameKeys (receipts.map fun entry => (.str entry.1, entry.2))
      (polls.map fun entry => (.str entry.1, entry.2)) = true := by
  have hcovers : ∀ {xs ys : List (PyStr × Json)},
      (∀ id, id ∈ xs.map Prod.fst → id ∈ ys.map Prod.fst) →
      ∀ x ∈ xs.map fun entry => (Json.str entry.1, entry.2),
        (ys.map fun entry => (Json.str entry.1, entry.2)).any
          (fun y => y.1.eqItem x.1) = true := by
    intro xs ys hsub x hx
    obtain ⟨entry, hentry, rfl⟩ := List.mem_map.mp hx
    obtain ⟨other, hother, heq⟩ := List.mem_map.mp (hsub _ (List.mem_map_of_mem hentry))
    refine List.any_eq_true.mpr ⟨_, List.mem_map_of_mem hother, ?_⟩
    exact eqItem_str_left.mpr (congrArg Json.str heq)
  rw [sameKeys, Bool.and_eq_true, List.all_eq_true, List.all_eq_true]
  exact ⟨hcovers fun id => (h id).mp, hcovers fun id => (h id).mpr⟩

/-! ### Reading a request

A round of the loop reads a receipt and its poll. `ReadFrom` is what a round that ends has
checked, and `readRequest_ends` says that it ends where all of it holds. -/

/-- A poll with status 200 that calls its request persisted, and the event id of its body. -/
structure ClaimsPersisted (poll event : Json) : Prop where
  code : ∃ status_http, field poll "http_status" = .ok status_http ∧
    status_http.pyEq (.int 200) = true
  body : ∃ body status, getMethod poll "body" (.obj []) = .ok body ∧
    getMethod body "status" .null = .ok status ∧ status.pyEq (.str "persisted") = true ∧
    getMethod body "event_id" .null = .ok event

/-- A poll with status 200 of a persisted request, and the identity of its event. -/
structure PersistedPoll (poll event : Json) : Prop extends ClaimsPersisted poll event where
  event_given : truthy event = true

theorem ClaimsPersisted.unique {poll a b : Json} (ha : ClaimsPersisted poll a)
    (hb : ClaimsPersisted poll b) : a = b := by
  obtain ⟨body, _, hbody, _, _, hevent⟩ := ha.body
  obtain ⟨body', _, hbody', _, _, hevent'⟩ := hb.body
  obtain rfl := Except.ok.inj (hbody.symm.trans hbody')
  exact Except.ok.inj (hevent.symm.trans hevent')

/-- The poll has a status and a body, and the body names no other request. -/
structure ReadablePoll (id : PyStr) (poll : Json) : Prop where
  code : ∃ status_http, field poll "http_status" = .ok status_http
  body : ∃ body claimed, getMethod poll "body" (.obj []) = .ok body ∧
    getMethod body "request_id" (.str id) = .ok claimed ∧ claimed.pyEq (.str id) = true

section Requests

variable (rt : FactsRuntime)

/-- The receipt is a 202, and the poll is no earlier than it and within the freshness bound
when the item was collected. -/
structure TimelyPoll (item : ProjectedEvidence) (receipt poll : Json) : Prop where
  accepted : ∃ code, field receipt "http_status" = .ok code ∧ code.pyEq (.int 202) = true
  in_time : ∃ accepted_at status_observed_at collected_at start end_ collected,
    field receipt "at" = .ok accepted_at ∧ timeOf rt accepted_at = .ok start ∧
    field poll "at" = .ok status_observed_at ∧ timeOf rt status_observed_at = .ok end_ ∧
    item.source_timestamp = some collected_at ∧
    timeOf rt (.str collected_at) = .ok collected ∧ start ≤ end_ ∧
    0 ≤ secondsBetween end_ collected ∧
    ageWithin (secondsBetween end_ collected) item.freshness.max_age_seconds = .ok true

variable {rt}

theorem timely_eq_true {start end_ : Int} {age : ℚ} {max_age_seconds : Option PyFloat} :
    timely start end_ age max_age_seconds = .ok true ↔
      start ≤ end_ ∧ 0 ≤ age ∧ ageWithin age max_age_seconds = .ok true := by
  unfold timely
  split_ifs with hlate
  · constructor
    · intro h
      cases h
    · intro h
      exact absurd hlate (not_or.mpr ⟨not_lt.mpr h.1, not_lt.mpr h.2.1⟩)
  · rw [not_or, not_lt, not_lt] at hlate
    exact ⟨fun h => ⟨hlate.1, hlate.2, h⟩, fun h => h.2.2⟩

/-- A confirmed persistence is that of a poll with a new event. -/
theorem persistenceOf_confirmed {status_http body : Json} {events : List Json} {seconds : ℚ}
    {event : Json} {time : ℚ}
    (h : persistenceOf status_http body events seconds = .ok (.confirmed event time)) :
    status_http.pyEq (.int 200) = true ∧ (∃ status, getMethod body "status" .null = .ok status ∧
      status.pyEq (.str "persisted") = true) ∧ getMethod body "event_id" .null = .ok event ∧
    truthy event = true ∧ isContainer event = false ∧
    ∀ earlier ∈ events, event.eqItem earlier = false := by
  simp only [persistenceOf, OpsAgent.bind_ok] at h
  obtain ⟨status, hstatus, h⟩ := h
  split_ifs at h with hpersisted hqueued
  · simp only [OpsAgent.bind_ok, ensure_eq_ok, OpsAgent.pure_ok] at h
    obtain ⟨found, hfound, _, hhash, _, ⟨hgiven, hnew⟩, heq⟩ := h
    obtain ⟨rfl, _⟩ := Persistence.confirmed.inj heq
    refine ⟨hpersisted.1, ⟨status, hstatus, hpersisted.2⟩, hfound, hgiven, ?_, ?_⟩
    · exact Bool.eq_false_iff.mpr fun hcontainer => hhash ⟨hgiven, hcontainer⟩
    · intro earlier hearlier
      exact Bool.eq_false_iff.mpr fun hsame =>
        hnew (List.any_eq_true.mpr ⟨earlier, hearlier, hsame⟩)
  · cases OpsAgent.pure_ok.mp h
  · cases OpsAgent.pure_ok.mp h

/-- A poll that calls its request persisted is read as that, or not at all. -/
theorem persistenceOf_claimed {status_http body status event : Json} {events : List Json}
    {seconds : ℚ} {persistence : Persistence}
    (h : persistenceOf status_http body events seconds = .ok persistence)
    (hcode : status_http.pyEq (.int 200) = true)
    (hstatus : getMethod body "status" .null = .ok status)
    (hpersisted : status.pyEq (.str "persisted") = true)
    (hevent : getMethod body "event_id" .null = .ok event) :
    persistence = .confirmed event seconds := by
  simp only [persistenceOf, OpsAgent.bind_ok] at h
  obtain ⟨found, hfound, h⟩ := h
  obtain rfl := Except.ok.inj (hstatus.symm.trans hfound)
  rw [if_pos ⟨hcode, hpersisted⟩] at h
  simp only [OpsAgent.bind_ok, ensure_eq_ok, OpsAgent.pure_ok] at h
  obtain ⟨given, hgiven, _, _, _, _, rfl⟩ := h
  obtain rfl := Except.ok.inj (hevent.symm.trans hgiven)
  rfl

/-- The body of a poll is an object, and no event of it is refused: its persistence is read. -/
theorem persistenceOf_ends {status_http body claimed : Json} {id : PyStr} {events : List Json}
    (seconds : ℚ) (hbody : getMethod body "request_id" (.str id) = .ok claimed)
    (hevents : ∀ status event, getMethod body "status" .null = .ok status →
      getMethod body "event_id" .null = .ok event → status_http.pyEq (.int 200) = true →
      status.pyEq (.str "persisted") = true → truthy event = true ∧ isContainer event = false ∧
        ∀ earlier ∈ events, event.eqItem earlier = false) :
    ∃ persistence, persistenceOf status_http body events seconds = .ok persistence := by
  -- only an object has a `get`
  obtain ⟨kvs, rfl⟩ : ∃ kvs, body = .obj kvs := by
    cases body with
    | obj kvs => exact ⟨kvs, rfl⟩
    | null => cases hbody
    | bool b => cases hbody
    | int z => cases hbody
    | float f => cases hbody
    | str s => cases hbody
    | arr xs => cases hbody
  simp only [persistenceOf, getMethod, OpsAgent.bind_ok]
  by_cases hpersisted : status_http.pyEq (.int 200) = true ∧
      ((Dict.get? kvs "status").getD .null).pyEq (.str "persisted") = true
  · obtain ⟨hgiven, hscalar, hnew⟩ := hevents _ _ rfl rfl hpersisted.1 hpersisted.2
    refine ⟨.confirmed ((Dict.get? kvs "event_id").getD .null) seconds, _, rfl, ?_⟩
    rw [if_pos hpersisted]
    simp only [OpsAgent.bind_ok, ensure_eq_ok, OpsAgent.pure_ok]
    refine ⟨_, rfl, (), fun hcontainer => ?_, (), ⟨hgiven, fun hany => ?_⟩, rfl⟩
    · rw [hscalar] at hcontainer
      cases hcontainer.2
    · obtain ⟨earlier, hearlier, hsame⟩ := List.any_eq_true.mp hany
      rw [hnew earlier hearlier] at hsame
      cases hsame
  · by_cases hqueued : status_http.pyEq (.int 404) = true ∨
        (status_http.pyEq (.int 200) = true ∧
          ((Dict.get? kvs "status").getD .null).pyEq (.str "queued") = true)
    · refine ⟨.notYetObserved, _, rfl, ?_⟩
      rw [if_neg hpersisted, if_pos hqueued]
      rfl
    · refine ⟨.unknown, _, rfl, ?_⟩
      rw [if_neg hpersisted, if_neg hqueued]
      rfl

/-- What a round of the loop checked. There is a poll with the id of the receipt, it is in time
and readable, and the state carries the event of a poll that calls the request persisted, and no
event otherwise. -/
structure ReadFrom (rt : FactsRuntime) (item : ProjectedEvidence) (states : List (Json × Json))
    (receipt : PyStr × Json) (state : RequestState) : Prop where
  id_eq : state.request_id = receipt.1
  polled : ∃ poll, states.find? (fun state => state.1.eqItem (.str receipt.1)) =
    some (.str receipt.1, poll) ∧ TimelyPoll rt item receipt.2 poll ∧
    ReadablePoll receipt.1 poll ∧
    (∀ event, state.event? = some event → PersistedPoll poll event) ∧
    ∀ event, ClaimsPersisted poll event → state.event? = some event
  scalar : ∀ event, state.event? = some event → isContainer event = false

theorem event?_eq_some {id : PyStr} {persistence : Persistence} {status_http accepted_at
    status_observed_at event : Json}
    (h : RequestState.event? ⟨id, persistence, status_http, accepted_at, status_observed_at⟩ =
      some event) : ∃ seconds, persistence = .confirmed event seconds := by
  cases persistence with
  | confirmed found seconds => exact ⟨seconds, by rw [Option.some.inj h]⟩
  | notYetObserved => cases h
  | unknown => cases h

theorem readRequest_ok {item : ProjectedEvidence} {states : List (Json × Json)}
    {events : List Json} {receipt : PyStr × Json} {state : RequestState}
    (h : readRequest rt item states events receipt.1 receipt.2 = .ok state) :
    ReadFrom rt item states receipt state ∧ ∀ event, state.event? = some event →
      ∀ earlier ∈ events, event.eqItem earlier = false := by
  simp only [readRequest, OpsAgent.bind_ok, ensure_eq_ok] at h
  obtain ⟨code, hcode, _, haccepted, h⟩ := h
  cases hfind : states.find? fun state => state.1.eqItem (.str receipt.1) with
  | none => simp [hfind] at h
  | some entry =>
      obtain ⟨key, poll⟩ := entry
      have hkey := List.find?_some hfind
      dsimp only at hkey
      obtain rfl := eqItem_str_left.mp hkey
      simp only [hfind, OpsAgent.bind_ok, ensure_eq_ok, OpsAgent.pure_ok] at h
      obtain ⟨accepted_at, haccepted_at, start, hstart, observed_at, hobserved_at, end_, hend,
        collected, hcollected, in_time, htimely, _, rfl, body, hbody, claimed, hclaimed, _, hsame,
        status_http, hstatus, persistence, hpersistence, rfl⟩ := h
      obtain ⟨hordered, hage, hwithin⟩ := timely_eq_true.mp htimely
      -- the times of the receipt, of the poll and of the collection, in this order
      have hin_time : TimelyPoll rt item receipt.2 poll := by
        refine ⟨⟨code, hcode, haccepted⟩, ?_⟩
        cases hsource : item.source_timestamp with
        | none =>
            rw [hsource] at hcollected
            cases hcollected
        | some text =>
            rw [hsource] at hcollected
            exact ⟨accepted_at, observed_at, text, start, end_, collected, haccepted_at, hstart,
              hobserved_at, hend, rfl, hcollected, hordered, hage, hwithin⟩
      refine ⟨⟨rfl, ⟨poll, hfind, hin_time, ⟨⟨status_http, hstatus⟩,
        ⟨body, claimed, hbody, hclaimed, hsame⟩⟩, ?_, ?_⟩, ?_⟩, ?_⟩
      · intro event hevent
        obtain ⟨seconds, rfl⟩ := event?_eq_some hevent
        obtain ⟨h200, ⟨status, hget, hpersisted⟩, hfound, hgiven, _⟩ :=
          persistenceOf_confirmed hpersistence
        exact ⟨⟨⟨status_http, hstatus, h200⟩, ⟨body, status, hbody, hget, hpersisted, hfound⟩⟩,
          hgiven⟩
      · -- a poll that claims an event is not read as anything else
        intro event hclaims
        obtain ⟨code', hcode', h200⟩ := hclaims.code
        obtain rfl := Except.ok.inj (hstatus.symm.trans hcode')
        obtain ⟨body', status, hbody', hget, hpersisted, hevent⟩ := hclaims.body
        obtain rfl := Except.ok.inj (hbody.symm.trans hbody')
        rw [persistenceOf_claimed hpersistence h200 hget hpersisted hevent]
        rfl
      · intro event hevent
        obtain ⟨seconds, rfl⟩ := event?_eq_some hevent
        obtain ⟨_, _, _, _, hscalar, _⟩ := persistenceOf_confirmed hpersistence
        exact hscalar
      · intro event hevent
        obtain ⟨seconds, rfl⟩ := event?_eq_some hevent
        obtain ⟨_, _, _, _, _, hnew⟩ := persistenceOf_confirmed hpersistence
        exact hnew

/-- A round ends where the poll is in time, can be read and gives no event that is refused. -/
theorem readRequest_ends {item : ProjectedEvidence} {states : List (Json × Json)}
    {events : List Json} {id : PyStr} {receipt poll : Json}
    (hfind : states.find? (fun state => state.1.eqItem (.str id)) = some (.str id, poll))
    (htimely : TimelyPoll rt item receipt poll) (hreadable : ReadablePoll id poll)
    (hevents : ∀ event, ClaimsPersisted poll event → truthy event = true ∧
      isContainer event = false ∧ ∀ earlier ∈ events, event.eqItem earlier = false) :
    ∃ state, readRequest rt item states events id receipt = .ok state := by
  obtain ⟨code, hcode, haccepted⟩ := htimely.accepted
  obtain ⟨accepted_at, observed_at, collected_at, start, end_, collected, haccepted_at, hstart,
    hobserved_at, hend, hsource, hcollected, hordered, hage, hwithin⟩ := htimely.in_time
  obtain ⟨status_http, hstatus⟩ := hreadable.code
  obtain ⟨body, claimed, hbody, hclaimed, hsame⟩ := hreadable.body
  obtain ⟨persistence, hpersistence⟩ := persistenceOf_ends (secondsBetween start end_) hclaimed
    fun status event hget hevent h200 hpersisted => hevents event
      ⟨⟨status_http, hstatus, h200⟩, ⟨body, status, hbody, hget, hpersisted, hevent⟩⟩
  refine ⟨⟨id, persistence, status_http, accepted_at, observed_at⟩, ?_⟩
  simp only [readRequest, OpsAgent.bind_ok, ensure_eq_ok, hfind, OpsAgent.pure_ok]
  refine ⟨code, hcode, (), haccepted, accepted_at, haccepted_at, start, hstart, observed_at,
    hobserved_at, end_, hend, collected, ?_, true, timely_eq_true.mpr ⟨hordered, hage, hwithin⟩,
    (), rfl, body, hbody, claimed, hclaimed, (), hsame, status_http, hstatus, persistence,
    hpersistence, rfl⟩
  rw [hsource]
  exact hcollected

/-- The two requests were not persisted as one event. -/
def DistinctEvents (a b : RequestState) : Prop :=
  ∀ event other, a.event? = some event → b.event? = some other → event.eqItem other = false

/-- The same, whichever was read first. -/
def OwnEvents (a b : RequestState) : Prop := DistinctEvents a b ∨ DistinctEvents b a

instance : Std.Symm OwnEvents := ⟨fun _ _ h => h.symm⟩

/-- The loop reads every receipt, and no event twice. -/
theorem readRequests_ok {item : ProjectedEvidence} {states : List (Json × Json)}
    {events : List Json} {receipts : List (PyStr × Json)} {result : List RequestState}
    (h : readRequests rt item states events receipts = .ok result) :
    List.Forall₂ (ReadFrom rt item states) receipts result ∧
    (result.Pairwise fun a b => DistinctEvents b a) ∧
    ∀ state ∈ result, ∀ event, state.event? = some event →
      ∀ earlier ∈ events, event.eqItem earlier = false := by
  induction receipts generalizing events result with
  | nil =>
      obtain rfl : [] = result := OpsAgent.pure_ok.mp h
      exact ⟨.nil, .nil, by simp⟩
  | cons receipt receipts ih =>
      simp only [readRequests, OpsAgent.bind_ok, OpsAgent.pure_ok] at h
      obtain ⟨state, hstate, rest, hrest, rfl⟩ := h
      obtain ⟨hread, hnew⟩ := readRequest_ok hstate
      obtain ⟨hall, hpairwise, hlater⟩ := ih hrest
      refine ⟨.cons hread hall, List.pairwise_cons.mpr ⟨?_, hpairwise⟩,
        List.forall_mem_cons.mpr ⟨hnew, ?_⟩⟩
      · intro later hmem event other hevent hother
        refine hlater later hmem event hevent other (List.mem_append_left _ ?_)
        rw [hother]
        exact List.mem_singleton.mpr rfl
      · intro later hmem event hevent earlier hearlier
        exact hlater later hmem event hevent earlier (List.mem_append_right _ hearlier)

theorem forall₂_ids {item : ProjectedEvidence} {states : List (Json × Json)}
    {receipts : List (PyStr × Json)} {result : List RequestState}
    (h : List.Forall₂ (ReadFrom rt item states) receipts result) :
    result.map (·.request_id) = receipts.map Prod.fst := by
  induction h with
  | nil => rfl
  | cons hread _ ih => rw [List.map_cons, List.map_cons, hread.id_eq, ih]

theorem forall₂_mem_right {α β : Type} {R : α → β → Prop} {xs : List α} {ys : List β}
    (h : List.Forall₂ R xs ys) {y : β} (hmem : y ∈ ys) : ∃ x ∈ xs, R x y := by
  induction h with
  | nil => cases hmem
  | cons hrel _ ih =>
      rcases List.mem_cons.mp hmem with rfl | hmem
      · exact ⟨_, List.mem_cons_self, hrel⟩
      · obtain ⟨x, hx, hrel⟩ := ih hmem
        exact ⟨x, List.mem_cons_of_mem _ hx, hrel⟩

theorem forall₂_mem_left {α β : Type} {R : α → β → Prop} {xs : List α} {ys : List β}
    (h : List.Forall₂ R xs ys) {x : α} (hmem : x ∈ xs) : ∃ y ∈ ys, R x y := by
  obtain ⟨y, hy, hrel⟩ := forall₂_mem_right h.flip hmem
  exact ⟨y, hy, hrel⟩

/-! ### The requests fact

The inventory is stated over two lists of rows with their ids, without the dicts and the order
of the code. -/

/-- The request item has a receipt and a poll for each id, and all checks hold of them. -/
structure CompleteInventory (rt : FactsRuntime) (item : ProjectedEvidence)
    (receipts polls : List (PyStr × Json)) : Prop where
  covered : item.coverage.complete = some true
  accepted : ∃ rows, field item.metric.value "accepted" = .ok (.arr rows) ∧ RowsById rows receipts
  polled : ∃ rows, field item.metric.value "status_polls" = .ok (.arr rows) ∧ RowsById rows polls
  nonempty : receipts ≠ []
  same_ids : (receipts.map Prod.fst).Perm (polls.map Prod.fst)
  timely : ∀ id receipt poll, (id, receipt) ∈ receipts → (id, poll) ∈ polls →
    TimelyPoll rt item receipt poll

/-- The polls can be read, and those that call their requests persisted give event ids, one for
each request. -/
structure ReadableInventory (polls : List (PyStr × Json)) : Prop where
  readable : ∀ id poll, (id, poll) ∈ polls → ReadablePoll id poll
  event : ∀ id poll event, (id, poll) ∈ polls → ClaimsPersisted poll event →
    truthy event = true ∧ isContainer event = false
  own_event : ∀ id poll event other other_poll other_event, (id, poll) ∈ polls →
    (other, other_poll) ∈ polls → id ≠ other → ClaimsPersisted poll event →
    ClaimsPersisted other_poll other_event → event.eqItem other_event = false

/-- The ids are classified, and the persisted ones have events of their own. -/
structure ClassifiedRequests (receipts polls : List (PyStr × Json)) (value : RequestsValue) :
    Prop where
  accepted : value.accepted_ids.Perm (receipts.map Prod.fst)
  partition : (value.persisted_ids ++ value.not_yet_persisted_ids
    ++ value.unobservable_ids).Perm value.accepted_ids
  persisted : ∀ id ∈ value.persisted_ids, ∃ poll event, (id, poll) ∈ polls ∧
    PersistedPoll poll event
  own_event : ∀ id ∈ value.persisted_ids, ∀ other ∈ value.persisted_ids, id ≠ other →
    ∀ poll event other_poll other_event, (id, poll) ∈ polls → (other, other_poll) ∈ polls →
      PersistedPoll poll event → PersistedPoll other_poll other_event →
      event.eqItem other_event = false

theorem iterate_rows {value : Json} {rows : List Json} {entries : List (Json × Json)}
    (hiterate : iterate value = .ok rows) (hindex : indexRows [] rows = .ok entries)
    (hnonempty : rows ≠ []) : value = .arr rows := by
  obtain ⟨row, rest, rfl⟩ := List.exists_cons_of_ne_nil hnonempty
  simp only [indexRows, OpsAgent.bind_ok] at hindex
  obtain ⟨key, hkey, _⟩ := hindex
  cases value with
  | arr xs => rw [Except.ok.inj hiterate]
  | obj kvs =>
      cases kvs with
      | nil => cases hiterate
      | cons kv kvs =>
          obtain ⟨rfl, _⟩ := List.cons.inj (Except.ok.inj hiterate)
          cases hkey
  | str s =>
      cases s with
      | nil => cases hiterate
      | cons c cs =>
          obtain ⟨rfl, _⟩ := List.cons.inj (Except.ok.inj hiterate)
          cases hkey
  | null => cases hiterate
  | bool b => cases hiterate
  | int z => cases hiterate
  | float f => cases hiterate

theorem iterate_nonempty {value : Json} {rows : List Json} (hiterate : iterate value = .ok rows)
    (htruthy : truthy value = true) : rows ≠ [] := by
  cases value with
  | arr xs =>
      obtain rfl := Except.ok.inj hiterate
      simpa [truthy] using htruthy
  | obj kvs =>
      obtain rfl := Except.ok.inj hiterate
      simpa [truthy] using htruthy
  | str s =>
      obtain rfl := Except.ok.inj hiterate
      simpa [truthy] using htruthy
  | null => cases hiterate
  | bool b => cases hiterate
  | int z => cases hiterate
  | float f => cases hiterate

theorem mem_idsWith {test : Persistence → Bool} {states : List RequestState} {id : PyStr} :
    id ∈ idsWith test states ↔ ∃ state ∈ states, test state.persistence = true ∧
      state.request_id = id := by
  rw [idsWith, (List.perm_insertionSort _ _).mem_iff, List.mem_map]
  simp only [List.mem_filter, and_assoc]

/-- Every request is in exactly one of the three lists. -/
theorem idsWith_perm (states : List RequestState) :
    (idsWith Persistence.isConfirmed states ++ idsWith Persistence.isNotYet states
      ++ idsWith Persistence.isUnknown states).Perm (states.map (·.request_id)) := by
  have hfilters : ((states.filter fun state => state.persistence.isConfirmed)
      ++ (states.filter fun state => state.persistence.isNotYet)
      ++ states.filter fun state => state.persistence.isUnknown).Perm states := by
    induction states with
    | nil => exact .refl _
    | cons state states ih =>
        cases hstate : state.persistence with
        | confirmed event seconds =>
            simp only [List.filter_cons, hstate, Persistence.isConfirmed, Persistence.isNotYet,
              Persistence.isUnknown, if_true, Bool.false_eq_true, if_false, List.cons_append]
            exact ih.cons state
        | notYetObserved =>
            simp only [List.filter_cons, hstate, Persistence.isConfirmed, Persistence.isNotYet,
              Persistence.isUnknown, if_true, Bool.false_eq_true, if_false, List.append_assoc,
              List.cons_append]
            rw [List.append_assoc] at ih
            exact List.perm_middle.trans (ih.cons state)
        | unknown =>
            simp only [List.filter_cons, hstate, Persistence.isConfirmed, Persistence.isNotYet,
              Persistence.isUnknown, if_true, Bool.false_eq_true, if_false]
            exact List.perm_middle.trans (ih.cons state)
  have hids := hfilters.map (·.request_id)
  rw [List.map_append, List.map_append] at hids
  exact (((List.perm_insertionSort _ _).append (List.perm_insertionSort _ _)).append
    (List.perm_insertionSort _ _)).trans hids

/-- With distinct ids, the first entry of an id is its only one. -/
theorem find?_polls {polls : List (PyStr × Json)} (hnodup : (polls.map Prod.fst).Nodup)
    {id : PyStr} {poll found key : Json}
    (hfind : (polls.map fun entry => (Json.str entry.1, entry.2)).find?
      (fun state => state.1.eqItem (.str id)) = some (key, found))
    (hmem : (id, poll) ∈ polls) : found = poll := by
  have hkey := List.find?_some hfind
  dsimp only at hkey
  obtain rfl := eqItem_str_left.mp hkey
  obtain ⟨entry, hentry, heq⟩ := List.mem_map.mp (List.mem_of_find?_eq_some hfind)
  obtain ⟨hid, rfl⟩ := Prod.mk.inj heq
  have hsame := List.inj_on_of_nodup_map hnodup hentry hmem (Json.str.inj hid)
  rw [hsame]

theorem mem_of_find?_polls {polls : List (PyStr × Json)} (hnodup : (polls.map Prod.fst).Nodup)
    {id : PyStr} {poll : Json} (hmem : (id, poll) ∈ polls) :
    (polls.map fun entry => (Json.str entry.1, entry.2)).find?
      (fun state => state.1.eqItem (.str id)) = some (.str id, poll) := by
  cases hfind : (polls.map fun entry => (Json.str entry.1, entry.2)).find?
      (fun state => state.1.eqItem (.str id)) with
  | none =>
      have hall := List.find?_eq_none.mp hfind _ (List.mem_map_of_mem hmem)
      exact absurd (eqItem_str_left.mpr rfl) hall
  | some entry =>
      obtain ⟨key, found⟩ := entry
      have hkey := List.find?_some hfind
      dsimp only at hkey
      rw [find?_polls hnodup hfind hmem, eqItem_str_left.mp hkey]

/-- The two dicts of `_requests`, as lists of rows with their ids. -/
structure Indexed (accepted status_polls : Json) (entries states : List (Json × Json))
    (receipts polls : List (PyStr × Json)) : Prop where
  accepted : ∃ rows, accepted = .arr rows ∧ RowsById rows receipts
  polled : ∃ rows, status_polls = .arr rows ∧ RowsById rows polls
  nonempty : receipts ≠ []
  same_ids : ∀ id, id ∈ receipts.map Prod.fst ↔ id ∈ polls.map Prod.fst
  entries_eq : entries = receipts.map fun entry => (.str entry.1, entry.2)
  states_eq : states = polls.map fun entry => (.str entry.1, entry.2)

/-- The polls have the ids of the receipts, so where these are texts their keys are as well. -/
theorem indexed_of_checks {accepted status_polls : Json} {receipt_rows poll_rows : List Json}
    {entries states : List (Json × Json)} {receipts : List (PyStr × Json)}
    (htruthy : truthy accepted = true) (hreceipt_rows : iterate accepted = .ok receipt_rows)
    (hentries : indexRows [] receipt_rows = .ok entries)
    (hpoll_rows : iterate status_polls = .ok poll_rows)
    (hstates : indexRows [] poll_rows = .ok states)
    (hreceipts_length : entries.length = receipt_rows.length)
    (hstates_length : states.length = poll_rows.length)
    (hkeys : sameKeys entries states = true) (htexts : textKeys entries = some receipts) :
    ∃ polls, Indexed accepted status_polls entries states receipts polls := by
  obtain ⟨rfl, hnonempty⟩ := textKeys_some htexts
  rw [sameKeys, Bool.and_eq_true, List.all_eq_true, List.all_eq_true] at hkeys
  obtain ⟨hforth, hback⟩ := hkeys
  -- a value equal to a text is that text, so that the keys of the polls are texts too
  obtain ⟨polls, rfl, hpoll_ids⟩ : ∃ polls : List (PyStr × Json),
      states = polls.map (fun entry => (.str entry.1, entry.2)) ∧
      ∀ entry ∈ polls, ∃ receipt ∈ receipts, entry.1 = receipt.1 := by
    refine exists_texts fun state hstate => ?_
    obtain ⟨entry, hentry, hsame⟩ := List.any_eq_true.mp (hback state hstate)
    obtain ⟨receipt, hreceipt, rfl⟩ := List.mem_map.mp hentry
    exact ⟨receipt, hreceipt, eqItem_str_right.mp hsame⟩
  have hreceipts : RowsById receipt_rows receipts :=
    rowsById_of_indexRows hentries hreceipts_length rfl hnonempty
  have hpolls : RowsById poll_rows polls := by
    refine rowsById_of_indexRows hstates hstates_length rfl fun entry hentry => ?_
    obtain ⟨receipt, hreceipt, heq⟩ := hpoll_ids entry hentry
    rw [heq]
    exact hnonempty receipt hreceipt
  have hreceipt_polled : ∀ receipt ∈ receipts, ∃ poll ∈ polls, poll.1 = receipt.1 := by
    intro receipt hreceipt
    obtain ⟨state, hstate, hsame⟩ := List.any_eq_true.mp (hforth _ (List.mem_map_of_mem hreceipt))
    obtain ⟨poll, hpoll, rfl⟩ := List.mem_map.mp hstate
    exact ⟨poll, hpoll, Json.str.inj (eqItem_str_left.mp hsame)⟩
  -- there is a receipt, hence a poll: neither list is empty
  have hrows_nonempty := iterate_nonempty hreceipt_rows htruthy
  have hreceipts_nonempty : receipts ≠ [] := by
    intro hnil
    rw [hnil] at hreceipts
    exact hrows_nonempty hreceipts.rows_eq.symm
  have hpoll_rows_nonempty : poll_rows ≠ [] := by
    obtain ⟨receipt, _, rfl⟩ := List.exists_cons_of_ne_nil hreceipts_nonempty
    obtain ⟨poll, hpoll, _⟩ := hreceipt_polled receipt List.mem_cons_self
    rw [← hpolls.rows_eq]
    exact List.ne_nil_of_mem (List.mem_map_of_mem hpoll)
  refine ⟨polls, ⟨receipt_rows, iterate_rows hreceipt_rows hentries hrows_nonempty, hreceipts⟩,
    ⟨poll_rows, iterate_rows hpoll_rows hstates hpoll_rows_nonempty, hpolls⟩,
    hreceipts_nonempty, fun id => ⟨?_, ?_⟩, rfl, rfl⟩
  · intro hid
    obtain ⟨receipt, hreceipt, rfl⟩ := List.mem_map.mp hid
    obtain ⟨poll, hpoll, heq⟩ := hreceipt_polled receipt hreceipt
    rw [← heq]
    exact List.mem_map_of_mem hpoll
  · intro hid
    obtain ⟨poll, hpoll, rfl⟩ := List.mem_map.mp hid
    obtain ⟨receipt, hreceipt, heq⟩ := hpoll_ids poll hpoll
    rw [heq]
    exact List.mem_map_of_mem hreceipt

/-- The receipts were all read, with the polls of these ids. No two of them share an id, and no
two of the states share an event. -/
structure ReadAll (rt : FactsRuntime) (item : ProjectedEvidence)
    (receipts polls : List (PyStr × Json)) (per_request : List RequestState) : Prop where
  read : List.Forall₂
    (ReadFrom rt item (polls.map fun entry => (Json.str entry.1, entry.2))) receipts per_request
  own_events : per_request.Pairwise OwnEvents
  receipt_ids : (receipts.map Prod.fst).Nodup
  poll_ids : (polls.map Prod.fst).Nodup
  same_ids : ∀ id, id ∈ receipts.map Prod.fst ↔ id ∈ polls.map Prod.fst

section ReadAll

variable {item : ProjectedEvidence} {receipts polls : List (PyStr × Json)}
  {per_request : List RequestState} (h : ReadAll rt item receipts polls per_request)

include h

/-- A poll was read for its receipt, and the state that came of it says what the poll says. -/
theorem ReadAll.polled {id : PyStr} {poll : Json} (hpoll : (id, poll) ∈ polls) :
    ∃ state ∈ per_request, state.request_id = id ∧ ReadablePoll id poll ∧
      (∀ event, state.event? = some event → PersistedPoll poll event ∧
        isContainer event = false) ∧
      ∀ event, ClaimsPersisted poll event → state.event? = some event := by
  obtain ⟨receipt, hreceipt, rfl⟩ := List.mem_map.mp
    ((h.same_ids id).mpr (List.mem_map_of_mem hpoll))
  obtain ⟨state, hstate, hfrom⟩ := forall₂_mem_left h.read hreceipt
  obtain ⟨found, hfind, -, hreadable, hpersisted, hclaims⟩ := hfrom.polled
  obtain rfl := find?_polls h.poll_ids hfind hpoll
  exact ⟨state, hstate, hfrom.id_eq, hreadable,
    fun event hevent => ⟨hpersisted event hevent, hfrom.scalar event hevent⟩, hclaims⟩

theorem ReadAll.timely {id : PyStr} {receipt poll : Json} (hreceipt : (id, receipt) ∈ receipts)
    (hpoll : (id, poll) ∈ polls) : TimelyPoll rt item receipt poll := by
  obtain ⟨state, _, hfrom⟩ := forall₂_mem_left h.read hreceipt
  obtain ⟨found, hfind, htimely, _⟩ := hfrom.polled
  rw [← find?_polls h.poll_ids hfind hpoll]
  exact htimely

/-- The events of two requests differ: whichever was read first, the other one was compared with
it. -/
theorem ReadAll.distinct {id other : PyStr} {poll other_poll event other_event : Json}
    (hpoll : (id, poll) ∈ polls) (hother_poll : (other, other_poll) ∈ polls) (hne : id ≠ other)
    (hclaims : ClaimsPersisted poll event) (hother : ClaimsPersisted other_poll other_event) :
    event.eqItem other_event = false := by
  obtain ⟨state, hstate, rfl, -, hscalar, hevent⟩ := h.polled hpoll
  obtain ⟨other_state, hother_state, rfl, -, hother_scalar, hother_event⟩ :=
    h.polled hother_poll
  have hfound := hevent event hclaims
  have hother_found := hother_event other_event hother
  have hstates_ne : state ≠ other_state := fun heq => hne (by rw [heq])
  -- whichever of the two was read first, the later one was checked against it
  rcases h.own_events.forall hstate hother_state hstates_ne with hpair | hpair
  · exact hpair _ _ hfound hother_found
  · rw [eqItem_comm (hscalar event hfound).2 (hother_scalar other_event hother_found).2]
    exact hpair _ _ hother_found hfound

theorem ReadAll.readableInventory : ReadableInventory polls := by
  constructor
  · intro id poll hpoll
    obtain ⟨_, _, _, hreadable, _⟩ := h.polled hpoll
    exact hreadable
  · intro id poll event hpoll hclaims
    obtain ⟨state, _, _, _, hscalar, hevent⟩ := h.polled hpoll
    obtain ⟨hpersisted, hcontainer⟩ := hscalar event (hevent event hclaims)
    exact ⟨hpersisted.event_given, hcontainer⟩
  · intro id poll event other other_poll other_event hpoll hother_poll hne hclaims hother
    exact h.distinct hpoll hother_poll hne hclaims hother

/-- A persisted id has a poll with its event. -/
theorem ReadAll.persisted {id : PyStr}
    (hid : id ∈ idsWith Persistence.isConfirmed per_request) :
    ∃ poll event, (id, poll) ∈ polls ∧ PersistedPoll poll event := by
  obtain ⟨state, hstate, hconfirmed, rfl⟩ := mem_idsWith.mp hid
  obtain ⟨receipt, hreceipt, hfrom⟩ := forall₂_mem_right h.read hstate
  obtain ⟨found, hfind, -, -, hpersisted, -⟩ := hfrom.polled
  obtain ⟨event, hevent⟩ : ∃ event, state.event? = some event := by
    rw [RequestState.event?]
    cases hpersistence : state.persistence with
    | confirmed event seconds => exact ⟨event, rfl⟩
    | notYetObserved => simp [hpersistence, Persistence.isConfirmed] at hconfirmed
    | unknown => simp [hpersistence, Persistence.isConfirmed] at hconfirmed
  obtain ⟨entry, hentry, heq⟩ := List.mem_map.mp (List.mem_of_find?_eq_some hfind)
  obtain ⟨hkey, hfound⟩ := Prod.mk.inj heq
  refine ⟨found, event, ?_, hpersisted event hevent⟩
  rw [hfrom.id_eq, ← Json.str.inj hkey, ← hfound]
  exact hentry

end ReadAll

/-- The requests fact has a value only from a complete inventory whose polls can be read. -/
theorem requests_ok {item : ProjectedEvidence} {value : RequestsValue}
    (h : requests rt item = .ok value) : ∃ receipts polls,
      CompleteInventory rt item receipts polls ∧ ReadableInventory polls ∧
        ClassifiedRequests receipts polls value := by
  simp only [requests, OpsAgent.bind_ok, ensure_eq_ok] at h
  obtain ⟨accepted, haccepted, status_polls, hpolls, _, ⟨htruthy, hcovered⟩, receipt_rows,
    hreceipt_rows, entries, hentries, poll_rows, hpoll_rows, states, hstates, _,
    ⟨hreceipts_length, hstates_length, hkeys⟩, h⟩ := h
  cases htexts : textKeys entries with
  | none => simp [htexts] at h
  | some receipts =>
      simp only [htexts, OpsAgent.bind_ok, OpsAgent.pure_ok] at h
      obtain ⟨per_request, hread, rfl⟩ := h
      -- the checks make both lists dicts with the same ids
      obtain ⟨polls, hindexed⟩ := indexed_of_checks htruthy hreceipt_rows hentries hpoll_rows
        hstates hreceipts_length hstates_length hkeys htexts
      obtain ⟨accepted_rows, rfl, hreceipts_by_id⟩ := hindexed.accepted
      obtain ⟨status_rows, rfl, hpolls_by_id⟩ := hindexed.polled
      rw [hindexed.states_eq] at hread
      obtain ⟨hall, hdistinct, _⟩ := readRequests_ok hread
      have hreadAll : ReadAll rt item receipts polls per_request :=
        ⟨hall, hdistinct.imp .inr, hreceipts_by_id.ids_nodup, hpolls_by_id.ids_nodup,
          hindexed.same_ids⟩
      refine ⟨receipts, polls, ⟨hcovered, ⟨accepted_rows, haccepted, hreceipts_by_id⟩,
        ⟨status_rows, hpolls, hpolls_by_id⟩, hindexed.nonempty,
        (List.perm_ext_iff_of_nodup hreceipts_by_id.ids_nodup hpolls_by_id.ids_nodup).mpr
          hindexed.same_ids, fun _ _ _ => hreadAll.timely⟩,
        hreadAll.readableInventory, ⟨List.perm_insertionSort _ _, ?_,
          fun _ => hreadAll.persisted, ?_⟩⟩
      · refine (idsWith_perm per_request).trans ?_
        rw [forall₂_ids hall]
        exact (List.perm_insertionSort _ _).symm
      · -- two persisted requests have two events: the second would have been refused
        intro id _ other _ hne poll event other_poll other_event hpoll hother_poll hpersisted
          hother
        exact hreadAll.distinct hpoll hother_poll hne hpersisted.toClaimsPersisted
          hother.toClaimsPersisted

/-- The loop ends: every receipt has a poll that can be read, and the events so far are those of
other requests. -/
theorem readRequests_ends {item : ProjectedEvidence} {receipts polls : List (PyStr × Json)}
    (hnodup : (polls.map Prod.fst).Nodup) (hreadable : ReadableInventory polls)
    (hreceipts : (receipts.map Prod.fst).Nodup)
    (hpolled : ∀ id ∈ receipts.map Prod.fst, id ∈ polls.map Prod.fst)
    (htimely : ∀ id receipt poll, (id, receipt) ∈ receipts → (id, poll) ∈ polls →
      TimelyPoll rt item receipt poll) {events : List Json}
    (hevents : ∀ earlier ∈ events, ∃ id poll, (id, poll) ∈ polls ∧
      id ∉ receipts.map Prod.fst ∧ ClaimsPersisted poll earlier) :
    ∃ result, readRequests rt item (polls.map fun entry => (Json.str entry.1, entry.2)) events
      receipts = .ok result := by
  -- receipt by receipt, with the events of those read before: they are of other requests
  induction receipts generalizing events with
  | nil => exact ⟨[], rfl⟩
  | cons receipt receipts ih =>
      obtain ⟨id, receipt⟩ := receipt
      rw [List.map_cons, List.nodup_cons] at hreceipts
      obtain ⟨poll, hpoll⟩ : ∃ poll, (id, poll) ∈ polls := by
        obtain ⟨entry, hentry, heq⟩ := List.mem_map.mp (hpolled id List.mem_cons_self)
        exact ⟨entry.2, by rw [← heq]; exact hentry⟩
      have hfind := mem_of_find?_polls hnodup hpoll
      obtain ⟨state, hstate⟩ := readRequest_ends hfind
        (htimely id receipt poll List.mem_cons_self hpoll) (hreadable.readable id poll hpoll)
        fun event hclaims => ⟨(hreadable.event id poll event hpoll hclaims).1,
          (hreadable.event id poll event hpoll hclaims).2, fun earlier hearlier => by
            obtain ⟨other, other_poll, hother_poll, hnot, hother⟩ := hevents earlier hearlier
            exact hreadable.own_event id poll event other other_poll earlier hpoll hother_poll
              (fun heq => hnot (heq ▸ List.mem_cons_self)) hclaims hother⟩
      obtain ⟨hfrom, _⟩ := @readRequest_ok _ _ _ _ (id, receipt) _ hstate
      -- the event of this receipt joins them for the rest
      have hnext : ∀ earlier ∈ state.event?.toList ++ events, ∃ id poll, (id, poll) ∈ polls ∧
          id ∉ receipts.map Prod.fst ∧ ClaimsPersisted poll earlier := by
        intro earlier hearlier
        rcases List.mem_append.mp hearlier with hown | hbefore
        · obtain ⟨found, hfound, _, _, hpersisted, _⟩ := hfrom.polled
          obtain rfl := find?_polls hnodup hfound hpoll
          exact ⟨id, found, hpoll, hreceipts.1,
            (hpersisted earlier (Option.mem_toList.mp hown)).toClaimsPersisted⟩
        · obtain ⟨other, other_poll, hother_poll, hnot, hother⟩ := hevents earlier hbefore
          exact ⟨other, other_poll, hother_poll,
            fun hmem => hnot (List.mem_cons_of_mem _ hmem), hother⟩
      obtain ⟨rest, hrest⟩ := ih hreceipts.2
        (fun other hother => hpolled other (List.mem_cons_of_mem _ hother))
        (fun other receipt' poll' hother => htimely other receipt' poll'
          (List.mem_cons_of_mem _ hother)) hnext
      refine ⟨state :: rest, ?_⟩
      simp only [readRequests, OpsAgent.bind_ok, OpsAgent.pure_ok]
      exact ⟨state, hstate, rest, hrest, rfl⟩

/-- **And from every such inventory it has one.** -/
theorem requests_complete {item : ProjectedEvidence} {receipts polls : List (PyStr × Json)}
    (hinventory : CompleteInventory rt item receipts polls) (hreadable : ReadableInventory polls) :
    ∃ value, requests rt item = .ok value := by
  obtain ⟨rows, haccepted, hreceipts⟩ := hinventory.accepted
  obtain ⟨poll_rows, hpolls, hpolls_by_id⟩ := hinventory.polled
  -- texts that do not repeat give as many entries as rows, which is what is compared
  have hentries : indexRows [] rows = .ok (receipts.map fun entry => (.str entry.1, entry.2)) := by
    have hindex := indexRows_texts hreceipts.read hreceipts.ids_nodup (List.forall_mem_nil _)
    rwa [hreceipts.rows_eq] at hindex
  have hstates : indexRows [] poll_rows = .ok (polls.map fun entry => (.str entry.1, entry.2)) := by
    have hindex := indexRows_texts hpolls_by_id.read hpolls_by_id.ids_nodup
      (List.forall_mem_nil _)
    rwa [hpolls_by_id.rows_eq] at hindex
  have htruthy : truthy (.arr rows) = true := by
    rw [← hreceipts.rows_eq]
    simp [truthy, hinventory.nonempty]
  -- the ids are the same, so that every receipt has its poll
  have hids : ∀ id, id ∈ receipts.map Prod.fst ↔ id ∈ polls.map Prod.fst :=
    fun id => hinventory.same_ids.mem_iff
  obtain ⟨per_request, hread⟩ := readRequests_ends hpolls_by_id.ids_nodup hreadable
    hreceipts.ids_nodup (fun id => (hids id).mp) hinventory.timely
    (List.forall_mem_nil _)
  have hlengths : ∀ {rows : List Json} {texts : List (PyStr × Json)}, RowsById rows texts →
      (texts.map fun entry => (Json.str entry.1, entry.2)).length = rows.length := by
    intro rows texts htexts
    rw [List.length_map, ← htexts.rows_eq, List.length_map]
  refine ⟨requestsValue receipts per_request, ?_⟩
  simp only [requests, OpsAgent.bind_ok, ensure_eq_ok]
  refine ⟨_, haccepted, _, hpolls, (), ⟨htruthy, hinventory.covered⟩, rows, rfl, _, hentries,
    poll_rows, rfl, _, hstates, (), ⟨hlengths hreceipts, hlengths hpolls_by_id,
      sameKeys_texts hids⟩, ?_⟩
  rw [textKeys_texts hreceipts.nonempty]
  simp only [OpsAgent.bind_ok, OpsAgent.pure_ok]
  exact ⟨per_request, hread, rfl⟩

end Requests

/-- All requests are persisted exactly when the other two lists are empty. -/
theorem requestState_persisted_iff {receipts polls : List (PyStr × Json)} {value : RequestsValue}
    (h : ClassifiedRequests receipts polls value) (hnodup : (receipts.map Prod.fst).Nodup) :
    requestState (some value) = .sampledRequestsPersisted ↔
      ∀ id ∈ value.accepted_ids, id ∈ value.persisted_ids := by
  have hparts : (value.persisted_ids ++ value.not_yet_persisted_ids
      ++ value.unobservable_ids).Nodup :=
    h.partition.nodup_iff.mpr (h.accepted.nodup_iff.mpr hnodup)
  obtain ⟨hfirst, _, hlast⟩ := List.nodup_append.mp hparts
  obtain ⟨_, _, hmiddle⟩ := List.nodup_append.mp hfirst
  constructor
  · intro hstate id hid
    simp only [requestState] at hstate
    split_ifs at hstate with hunobservable hpending
    rw [not_ne_iff] at hunobservable hpending
    have hmem := h.partition.mem_iff.mpr hid
    rw [hunobservable, hpending, List.append_nil, List.append_nil] at hmem
    exact hmem
  · intro hall
    -- an id of another list would be in the persisted one as well
    have hunobservable : value.unobservable_ids = [] := by
      refine List.eq_nil_iff_forall_not_mem.mpr fun id hid => ?_
      have haccepted := h.partition.mem_iff.mp (List.mem_append_right _ hid)
      exact hlast id (List.mem_append_left _ (hall id haccepted)) id hid rfl
    have hpending : value.not_yet_persisted_ids = [] := by
      refine List.eq_nil_iff_forall_not_mem.mpr fun id hid => ?_
      have haccepted := h.partition.mem_iff.mp
        (List.mem_append_left _ (List.mem_append_right _ hid))
      exact hmiddle id (hall id haccepted) id hid rfl
    simp [requestState, hunobservable, hpending]


end EventPipeline.Guarantees
