import EventPipeline.Worker.Invariant

/-!
# EventPipeline.Worker.Refusal

Why a `persist_ingress_job` transaction raises a `ValueError`, which the handler takes for a
job that can never be stored.

`Refusal` lists the reasons as facts about the committed tables and the job. Each of them lasts:
no commit of anybody takes it away (`Refusal.of_grows`), so it does not matter when it was seen.
`Refused` is the postcondition of a rollback; the lemmas about it are the ones the parts of the
transaction cite where they raise.
-/

namespace EventPipeline.Worker

open EventPipeline.Python EventPipeline.Portfolio EventPipeline.Postgres
open EventPipeline.Concurrency

/-! ### The reasons -/

/-- The texts of a job that its transaction sends. -/
def sentTexts (job : IngressJob) : List PyStr :=
  (newMessage job job.event_type job.payload job.metadata 0).texts ++ job.idempotencyKey.toList

/-- Why a job is refused. -/
inductive Refusal (t : Tables) (job : IngressJob) : Prop
  /-- A text holds a NUL or a lone surrogate, which the client cannot send. -/
  | unsendable (text : PyStr) (htext : text ∈ sentTexts job) (hclean : ¬text.Clean)
  | streamNotFound (h : t.rooms job.room_id = false)
  | actorNotFound (h : t.users job.user_id = false)
  | membershipMissing (h : t.room_members job.room_id job.user_id = false)
  /-- The request id is that of a message of another stream or another user. -/
  | requestIdentityConflict (m : MessageRow) (hm : m ∈ t.messages)
      (hid : m.request_id = job.request_id)
      (hother : m.room_id ≠ job.room_id ∨ m.user_id ≠ job.user_id)
  /-- The job asks for a sequence number that the counter has passed, and that is not the number
  of its own message: it is stale, or somebody else's. -/
  | sequenceTaken (seq : Nat) (hseq : job.room_seq = some seq) (hle : seq ≤ t.lastSeq job.room_id)
      (hother : ∀ m, t.messageBySeq job.room_id seq = some m → m.request_id ≠ job.request_id)
  /-- The status of the request is owned by another user. -/
  | statusOwner (owner : Nat) (howned : OwnedBy t job.request_id owner)
      (hother : owner ≠ job.user_id)
  /-- The event does not pass the checks of an event in the form `jsonb` gives it back, where a
  float may have become three hundred digits. -/
  | storedForm (h : ¬EventOk (decide (2 ≤ job.schema_version)) job.event_type
      (jsonbDict job.payload) (jsonbDict (storedMetadata job job.event_type job.metadata)))

/-- A reason lasts. -/
theorem Refusal.of_grows {t t' : Tables} {x x' : Ext} {job : IngressJob} (h : Refusal t job)
    (hgrows : Grows t x t' x') : Refusal t' job := by
  cases h with
  | unsendable text htext hclean => exact .unsendable text htext hclean
  | streamNotFound h => exact .streamNotFound (hgrows.registry.rooms ▸ h)
  | actorNotFound h => exact .actorNotFound (hgrows.registry.users ▸ h)
  | membershipMissing h => exact .membershipMissing (hgrows.registry.room_members ▸ h)
  | requestIdentityConflict m hm hid hother =>
      exact .requestIdentityConflict m (hgrows.messages hm) hid hother
  | sequenceTaken seq hseq hle hother =>
      refine .sequenceTaken seq hseq (hle.trans (hgrows.counters _)) ?_
      rw [hgrows.messageBySeq hle]
      exact hother
  | statusOwner owner howned hother =>
      exact .statusOwner owner (hgrows.owners _ _ howned) hother
  | storedForm h => exact .storedForm h

/-! ### The postcondition of a rollback -/

section Refused

variable {hash : PyStr → Int} {job : IngressJob} {v v' : TxView} {e : PyExc}

/-- What a persist transaction that raises `e` leaves behind. -/
def Refused (job : IngressJob) (e : PyExc) (v : TxView) : Prop :=
  e.isValueError = true → Refusal v.db job

/-- A statement raises for an unclean text of the job, or it raises no `ValueError`. -/
theorem refused_of_refuses {s : Stmt} (htexts : ∀ text ∈ s.texts, text.Clean ∨ text ∈ sentTexts job)
    (h : (engine hash).Refuses s v e) : Refused job e v := by
  intro he
  obtain ⟨held, now, c, hexec⟩ := h
  obtain ⟨text, htext, hclean⟩ := exec_valueError hexec he
  rcases htexts text htext with hc | hsent
  · exact absurd hc hclean
  · exact .unsendable text hsent hclean

/-- The same, as the statement rule asks for it. -/
theorem refused_call {s : Stmt} (htexts : ∀ text ∈ s.texts, text.Clean ∨ text ∈ sentTexts job) :
    ∀ v', (pipeline hash).Rely v v' → (pipeline hash).Ready v' → ∀ e,
      (engine hash).Refuses s v' e → Refused job e v' :=
  fun _ _ _ _ h => refused_of_refuses htexts h

/-- A reason that was seen is there when the transaction rolls back. -/
theorem refused_of_rely (h : Refusal v.db job) (hr : (pipeline hash).Rely v v') :
    Refused job e v' := fun _ => h.of_grows hr.grows

/-- An exception that is no `ValueError` needs no reason. -/
theorem refused_of_isValueError (h : e.isValueError = false) : Refused job e v := by
  intro he
  simp [h] at he

theorem request_id_mem_sentTexts (job : IngressJob) : job.request_id ∈ sentTexts job := by
  simp [sentTexts, NewMessage.texts, newMessage]

theorem idempotencyKey_mem_sentTexts {key : PyStr} (hkey : job.idempotencyKey = some key) :
    key ∈ sentTexts job := by
  simp [sentTexts, hkey]

end Refused

end EventPipeline.Worker
